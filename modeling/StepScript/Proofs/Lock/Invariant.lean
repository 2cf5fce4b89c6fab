/-
# The invariant of calls that share a lock table

However the calls interleave and fail, their history is valid.  The invariant is about each running
call: between the count of the rows of others and the commit it holds the lock of the table, so
nobody else commits, and what it counted stays true.
-/
import StepScript.Proofs.Lock.Points

namespace StepScript.Locking

/-! ## What is true at a point -/

/-- If a call adds a row, then nobody else has a row of its name. -/
def Request.Free (r : Request) (rows : List Row) : Prop :=
  ∀ name holder, r.change = .insert (name, holder) →
    ∀ other, (name, other) ∈ rows → other = holder

/-- What is true of the database while a call is at a point. -/
def Point.Holds (r : Request) (db : Database) : Point → Prop
  | .connecting => True
  | .beginning session => session < db.sessions
  | .locking session => session < db.sessions ∧ db.transactions session = some ⟨false, []⟩
  | .counting session => session < db.sessions ∧ db.transactions session = some ⟨true, []⟩
  | .changing session =>
    session < db.sessions ∧ db.transactions session = some ⟨true, []⟩ ∧ r.Free db.rows
  | .committing session =>
    session < db.sessions ∧ db.transactions session = some ⟨true, [r.change]⟩ ∧ r.Free db.rows
  | .undoing session => session < db.sessions
  | .closing session _ => session < db.sessions
  | .finished _ => True

/-- A call that is about to say that it took the lock has committed its row. -/
def Point.Tells (id : Nat) (r : Request) (history : List Event) : Point → Prop
  | .closing _ result | .finished result => ∀ name holder, r.change = .insert (name, holder) →
    result = .ok true → .committed id [.insert (name, holder)] ∈ history
  | _ => True

theorem Point.Tells.mono {id : Nat} {r : Request} {history history' : List Event} {point : Point}
    (h : point.Tells id r history) (hle : history ⊆ history') : point.Tells id r history' := by
  cases point with
  | closing session result =>
    intro name holder hchange hok
    exact hle (h name holder hchange hok)
  | finished result =>
    intro name holder hchange hok
    exact hle (h name holder hchange hok)
  | _ => trivial

theorem Point.Holds.session_lt {r : Request} {db : Database} {point : Point} {session : Session}
    (h : point.Holds r db) (hsession : point.session? = some session) : session < db.sessions := by
  cases point with
  | connecting => cases hsession
  | finished result => cases hsession
  | beginning _ =>
    cases hsession
    exact h
  | undoing _ =>
    cases hsession
    exact h
  | closing _ _ =>
    cases hsession
    exact h
  | locking _ =>
    cases hsession
    exact h.1
  | counting _ =>
    cases hsession
    exact h.1
  | changing _ =>
    cases hsession
    exact h.1
  | committing _ =>
    cases hsession
    exact h.1

theorem Database.holdsLock_eq {db : Database} {session : Session} {t : Transaction}
    (h : db.transactions session = some t) : db.holdsLock session = t.locked := by
  unfold Database.holdsLock
  rw [h]
  rfl

/-- What is true at a point stays true as long as the transaction of the call is left alone and,
while it holds the lock of the table, the rows are. -/
theorem Point.Holds.frame {r : Request} {db db' : Database} {point : Point} (h : point.Holds r db)
    (hle : db.sessions ≤ db'.sessions)
    (htransactions : ∀ session, point.session? = some session →
      db'.transactions session = db.transactions session)
    (hrows : ∀ session, point.session? = some session → db.holdsLock session = true →
      db'.rows = db.rows) : point.Holds r db' := by
  cases point with
  | connecting => trivial
  | finished result => trivial
  | beginning session => exact Nat.lt_of_lt_of_le h hle
  | undoing session => exact Nat.lt_of_lt_of_le h hle
  | closing session result => exact Nat.lt_of_lt_of_le h hle
  | locking session =>
    refine ⟨Nat.lt_of_lt_of_le h.1 hle, ?_⟩
    rw [htransactions session rfl]
    exact h.2
  | counting session =>
    refine ⟨Nat.lt_of_lt_of_le h.1 hle, ?_⟩
    rw [htransactions session rfl]
    exact h.2
  | changing session =>
    refine ⟨Nat.lt_of_lt_of_le h.1 hle, ?_⟩
    rw [htransactions session rfl, hrows session rfl (Database.holdsLock_eq h.2.1)]
    exact h.2
  | committing session =>
    refine ⟨Nat.lt_of_lt_of_le h.1 hle, ?_⟩
    rw [htransactions session rfl, hrows session rfl (Database.holdsLock_eq h.2.1)]
    exact h.2

/-! ## What an answer changes -/

namespace Database

variable {db : Database} {session other : Session} {t : Option Transaction}

@[simp]
theorem put_self : (db.put session t).transactions session = t := if_pos rfl

theorem put_of_ne (h : other ≠ session) :
    (db.put session t).transactions other = db.transactions other := if_neg h

end Database

namespace Advance

variable {r : Request} {db db' : Database} {point point' : Point} {changes : Option (List Change)}
  {session other : Session}

/-- An answer concerns the transaction of its own session only. -/
theorem transactions_of_ne (h : Advance r db point changes point' db')
    (hother : point.session? ≠ some other) : db'.transactions other = db.transactions other := by
  have hne : ∀ {session}, point.session? = some session → other ≠ session := by
    rintro session hsession rfl
    exact hother hsession
  cases h with
  | connected => rfl
  | refused e => rfl
  | free ht hcount => rfl
  | taken => rfl
  | failed hsession e => rfl
  | lost hsession e => exact Database.put_of_ne (hne hsession)
  | begun => exact Database.put_of_ne (hne rfl)
  | locked ht hlock => exact Database.put_of_ne (hne rfl)
  | changed ht => exact Database.put_of_ne (hne rfl)
  | committed ht => exact Database.put_of_ne (hne rfl)
  | undone => exact Database.put_of_ne (hne rfl)
  | closed => exact Database.put_of_ne (hne rfl)

theorem sessions_le (h : Advance r db point changes point' db') : db.sessions ≤ db'.sessions := by
  cases h with
  | connected => exact Nat.le_succ _
  | _ => exact Nat.le_refl _

/-- Only a commit changes the rows. -/
theorem rows_eq (h : Advance r db point none point' db') : db'.rows = db.rows := by
  cases h <;> rfl

/-- A call keeps its session; a new session is a fresh one. -/
theorem session_eq (h : Advance r db point changes point' db')
    (hsession : point'.session? = some session) :
    point.session? = some session ∨ session = db.sessions := by
  cases h with
  | connected =>
    cases hsession
    exact .inr rfl
  | refused e => cases hsession
  | closed => cases hsession
  | locked ht hlock =>
    left
    cases r <;> exact hsession
  | failed hpoint e =>
    cases hsession
    exact .inl hpoint
  | lost hpoint e =>
    cases hsession
    exact .inl hpoint
  | _ => exact .inl hsession

/-- The lock of the table is taken only when no other session has it. -/
theorem holdsLock_or (h : Advance r db point changes point' db')
    (hlocked : db'.holdsLock other = true) :
    db.holdsLock other = true ∨ point.session? = some other ∧ db.isLockedFor other = false := by
  by_cases hother : point.session? = some other
  · -- a transaction that is gone holds no lock
    have hlost : ∀ {d : Database}, (d.put other none).holdsLock other = true → False := by
      intro d hnone
      rw [Database.holdsLock, Database.put_self] at hnone
      cases hnone
    cases h with
    | connected => exact .inl hlocked
    | refused e => exact .inl hlocked
    | free ht hcount => exact .inl hlocked
    | taken => exact .inl hlocked
    | failed hsession e => exact .inl hlocked
    | locked ht hlock =>
      cases hother
      exact .inr ⟨rfl, hlock⟩
    | begun =>
      cases hother
      rw [Database.holdsLock, Database.put_self] at hlocked
      cases hlocked
    | changed ht =>
      cases hother
      rw [Database.holdsLock, Database.put_self] at hlocked
      left
      rw [Database.holdsLock_eq ht]
      exact hlocked
    | lost hsession e =>
      rw [hother] at hsession
      cases hsession
      exact (hlost hlocked).elim
    | committed ht =>
      cases hother
      exact (hlost (d := db) hlocked).elim
    | undone =>
      cases hother
      exact (hlost hlocked).elim
    | closed =>
      cases hother
      exact (hlost hlocked).elim
  · left
    rw [Database.holdsLock, h.transactions_of_ne hother] at hlocked
    exact hlocked

/-- Without rows of others, a row can be added. -/
theorem free_of_others {t : Transaction} (ht : t.changes = []) (hcount : db.others t r.row = 0) :
    r.Free db.rows := by
  intro name holder hchange holder' hrow
  have hr : r.row = (name, holder) := by
    cases r with
    | acquire manager n h =>
      cases hchange
      rfl
    | release manager n h => cases hchange
  rw [Database.others, ht, hr] at hcount
  have hnone := List.countP_eq_zero.1 hcount (name, holder') hrow
  by_contra hne
  exact hnone (by simp [hne])

/-- **What is true at a point is true at the next one.** -/
theorem holds (h : Advance r db point changes point' db') (hpoint : point.Holds r db) :
    point'.Holds r db' := by
  cases h with
  | connected => exact Nat.lt_succ_self _
  | refused e => trivial
  | begun => exact ⟨hpoint, Database.put_self⟩
  | @locked session t ht hlock =>
    obtain rfl : (⟨false, []⟩ : Transaction) = t := Option.some.inj (hpoint.2.symm.trans ht)
    cases r with
    | acquire manager name holder => exact ⟨hpoint.1, Database.put_self⟩
    | release manager name holder =>
      -- a call that gives back a lock adds no row, so it need not count
      refine ⟨hpoint.1, Database.put_self, ?_⟩
      intro n h hchange
      cases hchange
  | @free session t ht hcount =>
    obtain rfl : (⟨true, []⟩ : Transaction) = t := Option.some.inj (hpoint.2.symm.trans ht)
    exact ⟨hpoint.1, hpoint.2, free_of_others rfl hcount⟩
  | taken => exact hpoint.1
  | @changed session t ht =>
    obtain rfl : (⟨true, []⟩ : Transaction) = t := Option.some.inj (hpoint.2.1.symm.trans ht)
    exact ⟨hpoint.1, Database.put_self, hpoint.2.2⟩
  | committed ht => exact hpoint.1
  | undone => exact hpoint
  | failed hsession e => exact hpoint.session_lt hsession
  | lost hsession e => exact hpoint.session_lt hsession
  | closed => trivial

/-- A call commits its own change, under the lock of the table. -/
theorem of_committed {list : List Change} (h : Advance r db point (some list) point' db')
    (hpoint : point.Holds r db) :
    list = [r.change] ∧ r.Free db.rows ∧ db'.rows = r.change.apply db.rows ∧
      ∃ session, point.session? = some session ∧ db.holdsLock session = true := by
  generalize hlist : some list = changes at h
  cases h with
  | @committed session t ht =>
    cases hlist
    obtain rfl : (⟨true, [r.change]⟩ : Transaction) = t :=
      Option.some.inj (hpoint.2.1.symm.trans ht)
    exact ⟨rfl, hpoint.2.2, rfl, session, rfl, Database.holdsLock_eq ht⟩
  | _ => cases hlist

/-- A call says that it took the lock only behind its commit. -/
theorem tells {id : Nat} {history : List Event} (h : Advance r db point changes point' db')
    (hpoint : point.Holds r db) (htells : point.Tells id r history) :
    point'.Tells id r (history ++ (changes.map (Event.committed id)).toList) := by
  have hfailed : ∀ e name holder, r.change = .insert (name, holder) → r.failed e ≠ .ok true := by
    intro e name holder hchange
    cases r with
    | acquire manager n h =>
      intro hok
      cases hok
    | release manager n h => cases hchange
  cases h with
  | connected => trivial
  | begun => trivial
  | free ht hcount => trivial
  | taken => trivial
  | changed ht => trivial
  | locked ht hlock => cases r <;> trivial
  | refused e =>
    intro name holder hchange hok
    exact absurd hok (hfailed e name holder hchange)
  | failed hsession e =>
    intro name holder hchange hok
    exact absurd hok (hfailed e name holder hchange)
  | lost hsession e =>
    intro name holder hchange hok
    exact absurd hok (hfailed e name holder hchange)
  | undone =>
    intro name holder hchange hok
    cases hok
  | closed =>
    intro name holder hchange hok
    exact List.mem_append_left _ (htells name holder hchange hok)
  -- this is the commit itself
  | @committed session t ht =>
    intro name holder hchange _
    obtain rfl : (⟨true, [r.change]⟩ : Transaction) = t :=
      Option.some.inj (hpoint.2.1.symm.trans ht)
    rw [← hchange]
    exact List.mem_append_right _ (List.mem_singleton.2 rfl)

end Advance

/-! ## The invariant of the system -/

/-- A running call is at a point of its request. -/
structure Placed (read : Reading) (s : System) (id : Nat) (r : Request) (point : Point) : Prop where
  understood : r.manager.Understood read
  started : .started id r ∈ s.history
  unreturned : ∀ result, .returned id result ∉ s.history
  holds : point.Holds r s.database
  tells : point.Tells id r s.history

/-- A call stays at its point while other things happen. -/
theorem Placed.mono {read : Reading} {s s' : System} {id : Nat} {r : Request} {point : Point}
    (h : Placed read s id r point) {events : List Event}
    (hhistory : s'.history = s.history ++ events)
    (hreturned : ∀ result, .returned id result ∉ events) (hholds : point.Holds r s'.database) :
    Placed read s' id r point where
  understood := h.understood
  started := by
    rw [hhistory]
    exact List.mem_append_left _ h.started
  unreturned := by
    intro result hresult
    rw [hhistory] at hresult
    rcases List.mem_append.1 hresult with hold | hnew
    · exact h.unreturned result hold
    · exact hreturned result hnew
  holds := hholds
  tells := by
    rw [hhistory]
    exact h.tells.mono (List.subset_append_left _ _)

/-- The history is valid and says which rows there are, at most one transaction holds the lock of
the table, and every running call is at a point, each in a session of its own. -/
structure System.Sound (read : Reading) (s : System) (points : Nat → Option (Request × Point)) :
    Prop where
  valid : Valid s.history
  rows : s.database.rows = rowsOf s.history
  fresh : ∀ id r, .started id r ∈ s.history → id < s.calls
  quiet : ∀ session, s.database.sessions ≤ session → s.database.transactions session = none
  oneLock : ∀ session session', s.database.holdsLock session = true →
    s.database.holdsLock session' = true → session = session'
  running : ∀ id, s.running id = (points id).map fun p => p.2.dialogue p.1
  placed : ∀ id r point, points id = some (r, point) → Placed read s id r point
  apart : ∀ id id' p p' session, points id = some p → points id' = some p' →
    p.2.session? = some session → p'.2.session? = some session → id = id'

/-- Other points for one call. -/
def setPoint (points : Nat → Option (Request × Point)) (id : Nat) (p : Option (Request × Point)) :
    Nat → Option (Request × Point) :=
  fun id' => if id' = id then p else points id'

/-- The point of a call is the new one, or that of another call. -/
theorem setPoint_eq_some {points : Nat → Option (Request × Point)} {id id' : Nat}
    {p : Option (Request × Point)} {q : Request × Point} (h : setPoint points id p id' = some q) :
    (id' = id ∧ p = some q) ∨ (id' ≠ id ∧ points id' = some q) := by
  unfold setPoint at h
  split at h
  · exact .inl ⟨‹_›, h⟩
  · exact .inr ⟨‹_›, h⟩

namespace System

variable {read : Reading} {s : System} {points : Nat → Option (Request × Point)}

theorem sound_initial : Sound read initial fun _ => none where
  valid := .nil
  rows := rfl
  fresh := by
    intro id r h
    cases h
  quiet := by
    intro session _
    rfl
  oneLock := by
    intro session session' h
    cases h
  running := by
    intro id
    rfl
  placed := by
    intro id r point h
    cases h
  apart := by
    intro id id' p p' session h
    cases h

/-- The calls that are running agree with the points after one of them was changed alike. -/
theorem running_setCall (hs : Sound read s points) (id : Nat) {p : Option (Request × Point)}
    {d : Option (Dialogue (Except Error Bool))} (hd : d = p.map fun p => p.2.dialogue p.1)
    (id' : Nat) :
    (s.setCall id d).running id' = (setPoint points id p id').map fun p => p.2.dialogue p.1 := by
  unfold setCall setPoint
  by_cases h : id' = id
  · simp only [if_pos h]
    exact hd
  · simp only [if_neg h]
    exact hs.running id'

/-- The sessions of the calls stay apart if a call whose point is changed shares its session with no
other call. -/
theorem Sound.apart_setPoint (hs : Sound read s points) {id : Nat} {new : Option (Request × Point)}
    (hnew : ∀ q session, new = some q → q.2.session? = some session → ∀ id' q', id' ≠ id →
      points id' = some q' → q'.2.session? ≠ some session) :
    ∀ id' id'' p p' session, setPoint points id new id' = some p →
      setPoint points id new id'' = some p' → p.2.session? = some session →
      p'.2.session? = some session → id' = id'' := by
  intro id' id'' p p' session hp hp' hsession hsession'
  rcases setPoint_eq_some hp with ⟨rfl, hq⟩ | ⟨hne, hold⟩
  · rcases setPoint_eq_some hp' with ⟨rfl, _⟩ | ⟨hne', hold'⟩
    · rfl
    · exact absurd hsession' (hnew p session hq hsession id'' p' hne' hold')
  · rcases setPoint_eq_some hp' with ⟨rfl, hq'⟩ | ⟨_, hold'⟩
    · exact absurd hsession (hnew p' session hq' hsession' id' p hne hold)
    · exact hs.apart id' id'' p p' session hold hold' hsession hsession'

/-- A call that is started is at its first point. -/
theorem Sound.start (hs : Sound read s points) {request : Request}
    (hrequest : request.manager.Understood read) :
    Sound read { s.setCall s.calls (some request.dialogue) with
        calls := s.calls + 1
        history := s.history ++ [.started s.calls request] }
      (setPoint points s.calls (some (request, .connecting))) where
  valid := by
    refine .started request hs.valid ?_
    intro r hr
    exact Nat.lt_irrefl _ (hs.fresh _ r hr)
  rows := by
    rw [rowsOf_concat]
    exact hs.rows
  fresh := by
    intro id r hr
    rcases List.mem_append.1 hr with hold | hnew
    · exact Nat.lt_succ_of_lt (hs.fresh id r hold)
    · cases List.mem_singleton.1 hnew
      exact Nat.lt_succ_self _
  quiet := hs.quiet
  oneLock := hs.oneLock
  running := by
    refine running_setCall hs s.calls ?_
    rw [Request.dialogue_eq hrequest.transactions hrequest.tableLocking]
    rfl
  placed := by
    intro id r point hpoint
    rcases setPoint_eq_some hpoint with ⟨rfl, hnew⟩ | ⟨hne, hold⟩
    · cases hnew
      refine ⟨hrequest, List.mem_append_right _ (List.mem_singleton.2 rfl), ?_, trivial, trivial⟩
      intro result hresult
      rcases List.mem_append.1 hresult with hresult | hresult
      · obtain ⟨r, hr⟩ := hs.valid.started_of_returned hresult
        exact Nat.lt_irrefl _ (hs.fresh _ r hr)
      · cases List.mem_singleton.1 hresult
    · have hplaced := hs.placed id r point hold
      refine hplaced.mono rfl ?_ hplaced.holds
      intro result hresult
      cases List.mem_singleton.1 hresult
  apart := by
    refine hs.apart_setPoint ?_
    rintro _ session ⟨⟩ hsession
    cases hsession

/-! ### An answer -/

/-- If the lock of the table is free for a session, then no other session has it. -/
theorem Sound.eq_of_isLockedFor (hs : Sound read s points) {session other : Session}
    (hfree : s.database.isLockedFor session = false) (hother : s.database.holdsLock other = true) :
    other = session := by
  have hlt : other < s.database.sessions := by
    by_contra hle
    rw [Database.holdsLock, hs.quiet other (Nat.le_of_not_lt hle)] at hother
    cases hother
  by_contra hne
  exact List.any_eq_false.1 hfree other (List.mem_range.2 hlt) (by simp [hne, hother])

section

variable {id : Nat} {r : Request} {point point' : Point} {changes : Option (List Change)}
  {db' : Database}

/-- An answer adds at most a commit to the history. -/
theorem not_mem_committed {e : Event} (he : ∀ list, e ≠ .committed id list) :
    e ∉ (changes.map (Event.committed id)).toList := by
  intro h
  obtain ⟨list, -, heq⟩ := Option.map_eq_some_iff.1 (Option.mem_toList.1 h)
  exact he list heq.symm

/-- An answer keeps the history valid. -/
theorem Sound.valid_answer (hs : Sound read s points) (hpoint : points id = some (r, point))
    (h : Advance r s.database point changes point' db') :
    Valid (s.history ++ (changes.map (Event.committed id)).toList) := by
  cases changes with
  | none =>
    rw [Option.map_none, Option.toList_none, List.append_nil]
    exact hs.valid
  | some list =>
    have hplaced := hs.placed id r point hpoint
    obtain ⟨rfl, hfree, -⟩ := h.of_committed hplaced.holds
    rw [hs.rows] at hfree
    exact .committed hs.valid hplaced.started hplaced.unreturned hfree

/-- After an answer too, the history says which rows there are. -/
theorem Sound.rows_answer (hs : Sound read s points) (hpoint : points id = some (r, point))
    (h : Advance r s.database point changes point' db') :
    db'.rows = rowsOf (s.history ++ (changes.map (Event.committed id)).toList) := by
  cases changes with
  | none =>
    rw [Option.map_none, Option.toList_none, List.append_nil, h.rows_eq]
    exact hs.rows
  | some list =>
    obtain ⟨rfl, -, hrows, -⟩ := h.of_committed (hs.placed id r point hpoint).holds
    rw [Option.map_some, Option.toList_some, rowsOf_concat, hrows, hs.rows]
    rfl

/-- An answer gives the lock of the table to nobody while another session has it. -/
theorem Sound.oneLock_answer (hs : Sound read s points)
    (h : Advance r s.database point changes point' db') {session session' : Session}
    (hlock : db'.holdsLock session = true) (hlock' : db'.holdsLock session' = true) :
    session = session' := by
  -- who has the lock had it before, or took it when nobody else had it
  rcases h.holdsLock_or hlock with hold | ⟨hown, hfree⟩
  · rcases h.holdsLock_or hlock' with hold' | ⟨hown', hfree'⟩
    · exact hs.oneLock session session' hold hold'
    · exact hs.eq_of_isLockedFor hfree' hold
  · rcases h.holdsLock_or hlock' with hold' | ⟨hown', hfree'⟩
    · exact (hs.eq_of_isLockedFor hfree hold').symm
    · exact Option.some.inj (hown.symm.trans hown')

/-- **An answer to one call leaves true what is true of the others**: their transactions are their
own, and while one of them holds the lock of the table, nobody else commits. -/
theorem Sound.holds_other (hs : Sound read s points) (hpoint : points id = some (r, point))
    (h : Advance r s.database point changes point' db') {id' : Nat} {r' : Request} {other : Point}
    (hother : points id' = some (r', other)) (hne : id' ≠ id) : other.Holds r' db' := by
  -- a session belongs to one call, so the answer concerns another transaction
  refine (hs.placed id' r' other hother).holds.frame h.sessions_le ?_ ?_
  · intro session hsession
    refine h.transactions_of_ne ?_
    intro hsame
    exact hne (hs.apart id' id _ _ session hother hpoint hsession hsame)
  · intro session hsession hlock
    cases changes with
    | none => exact h.rows_eq
    | some list =>
      -- the call that commits has the lock, so it is the same call
      obtain ⟨-, -, -, own, hown, hlock'⟩ := h.of_committed (hs.placed id r point hpoint).holds
      obtain rfl := hs.oneLock session own hlock hlock'
      exact absurd (hs.apart id' id _ _ session hother hpoint hsession hown) hne

/-- After an answer the call is at its next point. -/
theorem Sound.answer (hs : Sound read s points) (hpoint : points id = some (r, point))
    (h : Advance r s.database point changes point' db') :
    Sound read { s.setCall id (some (point'.dialogue r)) with
        database := db'
        history := s.history ++ (changes.map (Event.committed id)).toList }
      (setPoint points id (some (r, point'))) where
  valid := hs.valid_answer hpoint h
  rows := hs.rows_answer hpoint h
  fresh := by
    intro id' r' hr'
    rcases List.mem_append.1 hr' with hold | hnew
    · exact hs.fresh id' r' hold
    · exact absurd hnew (not_mem_committed fun _ => nofun)
  quiet := by
    intro session hsession
    -- a call is in a session that was opened, and an answer concerns no other
    have hle := h.sessions_le.trans hsession
    rw [← hs.quiet session hle]
    refine h.transactions_of_ne ?_
    intro hown
    have hlt := (hs.placed id r point hpoint).holds.session_lt hown
    exact Nat.lt_irrefl _ (Nat.lt_of_lt_of_le hlt hle)
  oneLock := fun _ _ hlock hlock' => hs.oneLock_answer h hlock hlock'
  running := running_setCall hs id rfl
  placed := by
    intro id' r' other hother
    rcases setPoint_eq_some hother with ⟨rfl, hnew⟩ | ⟨hne, hold⟩
    · cases hnew
      have hplaced := hs.placed id' r point hpoint
      refine ⟨hplaced.understood, List.mem_append_left _ hplaced.started, ?_,
        h.holds hplaced.holds, h.tells hplaced.holds hplaced.tells⟩
      intro result hresult
      rcases List.mem_append.1 hresult with hold | hnew
      · exact hplaced.unreturned result hold
      · exact absurd hnew (not_mem_committed fun _ => nofun)
    · refine (hs.placed id' r' other hold).mono rfl ?_ (hs.holds_other hpoint h hold hne)
      intro result
      exact not_mem_committed fun _ => nofun
  apart := by
    refine hs.apart_setPoint ?_
    -- a session that the call has now was its own, or is a fresh one
    rintro _ session ⟨⟩ hsession id' q' hne hq' hsession'
    rcases h.session_eq hsession with hold | rfl
    · exact hne (hs.apart id' id _ _ session hq' hpoint hsession' hold)
    · exact Nat.lt_irrefl _ ((hs.placed id' q'.1 q'.2 hq').holds.session_lt hsession')

end

/-! ### A return -/

/-- Only a call that is finished has nothing left to ask. -/
theorem eq_finished_of_dialogue {r : Request} {point : Point} {result : Except Error Bool}
    (h : point.dialogue r = .done result) : point = .finished result := by
  cases point with
  | finished result' =>
    cases h
    rfl
  | _ => cases h

/-- A call that returns is not running any more. -/
theorem Sound.finish (hs : Sound read s points) {id : Nat} {r : Request}
    {result : Except Error Bool} (hpoint : points id = some (r, .finished result)) :
    Sound read { s.setCall id none with history := s.history ++ [.returned id result] }
      (setPoint points id none) where
  valid := by
    have hplaced := hs.placed id r _ hpoint
    exact .returned hs.valid hplaced.started hplaced.unreturned hplaced.tells
  rows := by
    rw [rowsOf_concat]
    exact hs.rows
  fresh := by
    intro id' r' hr'
    rcases List.mem_append.1 hr' with hold | hnew
    · exact hs.fresh id' r' hold
    · cases List.mem_singleton.1 hnew
  quiet := hs.quiet
  oneLock := hs.oneLock
  running := running_setCall hs id rfl
  placed := by
    intro id' r' other hother
    rcases setPoint_eq_some hother with ⟨rfl, hnew⟩ | ⟨hne, hold⟩
    · cases hnew
    · have hplaced := hs.placed id' r' other hold
      refine hplaced.mono rfl ?_ hplaced.holds
      intro result' hresult'
      cases List.mem_singleton.1 hresult'
      exact hne rfl
  apart := by
    refine hs.apart_setPoint ?_
    rintro _ session ⟨⟩

/-! ### Runs -/

/-- A call that is running is at a point. -/
theorem Sound.exists_point (hs : Sound read s points) {id : Nat}
    {d : Dialogue (Except Error Bool)} (hrunning : s.running id = some d) :
    ∃ r point, points id = some (r, point) ∧ point.dialogue r = d := by
  rw [hs.running id] at hrunning
  obtain ⟨⟨r, point⟩, hpoint, hdialogue⟩ := Option.map_eq_some_iff.1 hrunning
  exact ⟨r, point, hpoint, hdialogue⟩

/-- **A move keeps the invariant.** -/
theorem Sound.perform (hs : Sound read s points) {move : Move}
    (hmove : ∀ request, move = .start request → request.manager.Understood read) {s' : System}
    (h : s.perform read move = some s') : ∃ points', Sound read s' points' := by
  cases move with
  | start request =>
    cases h
    exact ⟨_, hs.start (hmove request rfl)⟩
  | answer id outcome =>
    simp only [System.perform] at h
    split at h
    · rename_i call next hrunning
      obtain ⟨⟨answer, db'⟩, hanswer, rfl⟩ := Option.map_eq_some_iff.1 h
      obtain ⟨r, point, hpoint, hdialogue⟩ := hs.exists_point hrunning
      obtain ⟨point', hnext, hadvance⟩ :=
        advance_of_answer (hs.placed id r point hpoint).understood hdialogue hanswer
      rw [hnext]
      exact ⟨_, hs.answer hpoint hadvance⟩
    · cases h
  | finish id =>
    simp only [System.perform] at h
    split at h
    · rename_i result hrunning
      cases h
      obtain ⟨r, point, hpoint, hdialogue⟩ := hs.exists_point hrunning
      obtain rfl := eq_finished_of_dialogue hdialogue
      exact ⟨_, hs.finish hpoint⟩
    · cases h

/-- **Moves keep the invariant.** -/
theorem Sound.performAll {moves : List Move} (hs : Sound read s points)
    (hmoves : ∀ request, .start request ∈ moves → request.manager.Understood read) {s' : System}
    (h : moves.foldlM (System.perform read) s = some s') : ∃ points', Sound read s' points' := by
  induction moves generalizing s points with
  | nil =>
    cases h
    exact ⟨points, hs⟩
  | cons move moves ih =>
    rw [List.foldlM_cons] at h
    obtain ⟨s₁, hmove, hrest⟩ := Option.bind_eq_some_iff.1 h
    obtain ⟨points₁, hs₁⟩ := hs.perform
      (fun request hrequest => hmoves request (hrequest ▸ List.mem_cons_self)) hmove
    exact ih hs₁ (fun request hrequest => hmoves request (List.mem_cons_of_mem _ hrequest)) hrest

end System

end StepScript.Locking
