/-
# Where a call is

A call that takes or gives back a lock is, between two of its statements, at one of nine points.
`dialogue` says what is still to be asked at each of them, and `Advance` is all that can happen
there to the call and to the database.
-/
import StepScript.Proofs.Lock.System

namespace StepScript.Locking

/-! ## Points -/

/-- The place of a call between two of its statements, each named for what comes next. -/
inductive Point where
  | connecting
  | beginning (session : Session)
  | locking (session : Session)
  | counting (session : Session)
  | changing (session : Session)
  | committing (session : Session)
  | undoing (session : Session)
  | closing (session : Session) (result : Except Error Bool)
  | finished (result : Except Error Bool)

/-- The session of a call that has one. -/
def Point.session? : Point → Option Session
  | .connecting => none
  | .beginning session => some session
  | .locking session => some session
  | .counting session => some session
  | .changing session => some session
  | .committing session => some session
  | .undoing session => some session
  | .closing session _ => some session
  | .finished _ => none

namespace Request

/-- What a call returns after a failure: giving back a lock never fails. -/
def failed : Request → Error → Except Error Bool
  | .acquire _ _ _, e => .error e
  | .release _ _ _, _ => .ok true

/-- The statement by which a call changes the table. -/
def changeStatement : Request → String
  | .acquire manager name holder => manager.insertStatement name holder
  | .release manager name holder => manager.deleteStatement name holder

/-- The row a call is about. -/
def row : Request → Row
  | .acquire _ name holder => (name, holder)
  | .release _ name holder => (name, holder)

/-- Where a call goes once the table is locked: only taking a lock depends on what is in the
table. -/
def lockedPoint (session : Session) : Request → Point
  | .acquire _ _ _ => .counting session
  | .release _ _ _ => .changing session

end Request

/-! ## What is still to be asked -/

section

variable (r : Request) (session : Session)

/-- Ends the session and returns. -/
def closeDialogue (result : Except Error Bool) : Dialogue (Except Error Bool) :=
  .ask (.close session) fun _ => .done result

/-- Goes on behind a statement, or closes the session if the statement failed. -/
def behindStatement (next : Dialogue (Except Error Bool)) :
    Except Error Nat → Dialogue (Except Error Bool)
  | .ok _ => next
  | .error e => closeDialogue session (r.failed e)

/-- Runs a statement and goes on. -/
def statementDialogue (sql : String) (next : Dialogue (Except Error Bool)) :
    Dialogue (Except Error Bool) :=
  .ask (.execute session sql) (behindStatement r session next)

/-- From the rollback on. -/
def undoDialogue : Dialogue (Except Error Bool) :=
  statementDialogue r session r.manager.dialect.rollbackStatement
    (closeDialogue session (.ok false))

/-- From the commit on. -/
def commitDialogue : Dialogue (Except Error Bool) :=
  statementDialogue r session r.manager.dialect.commitStatement (closeDialogue session (.ok true))

/-- From the change of the table on. -/
def changeDialogue : Dialogue (Except Error Bool) :=
  statementDialogue r session r.changeStatement (commitDialogue r session)

/-- Goes on behind the count, or closes the session if the count failed. -/
def behindCount : Except Error Value → Dialogue (Except Error Bool)
  | .ok v => if v.asInteger? = some 0 then changeDialogue r session else undoDialogue r session
  | .error e => closeDialogue session (r.failed e)

/-- From the count of the rows of others on. -/
def countDialogue : Dialogue (Except Error Bool) :=
  .ask (.queryValue session (r.manager.countStatement r.row.1 r.row.2)) (behindCount r session)

/-- What is asked once the table is locked. -/
def lockedDialogue : Dialogue (Except Error Bool) :=
  match r with
  | .acquire _ _ _ => countDialogue r session
  | .release _ _ _ => changeDialogue r session

/-- From the lock of the table on. -/
def lockDialogue : Dialogue (Except Error Bool) :=
  statementDialogue r session (r.manager.dialect.lockTable r.manager.table)
    (lockedDialogue r session)

/-- From the start of the transaction on. -/
def beginDialogue : Dialogue (Except Error Bool) :=
  statementDialogue r session r.manager.dialect.beginStatement (lockDialogue r session)

/-- All of it. -/
def connectDialogue : Dialogue (Except Error Bool) :=
  .ask (.connect r.manager.connector r.manager.target) fun
    | .ok session => beginDialogue r session
    | .error e => .done (r.failed e)

end

/-- What a call still asks at a point. -/
def Point.dialogue (r : Request) : Point → Dialogue (Except Error Bool)
  | .connecting => connectDialogue r
  | .beginning session => beginDialogue r session
  | .locking session => lockDialogue r session
  | .counting session => countDialogue r session
  | .changing session => changeDialogue r session
  | .committing session => commitDialogue r session
  | .undoing session => undoDialogue r session
  | .closing session result => closeDialogue session result
  | .finished result => .done result

theorem Request.dialogue_lockedPoint (r : Request) (session : Session) :
    (r.lockedPoint session).dialogue r = lockedDialogue r session := by
  cases r <;> rfl

/-- Two dialogues that ask the same and go on alike are the same. -/
theorem ask_congr {α : Type} {call : Call} {next next' : Answer call → Dialogue α}
    (herror : ∀ e, next (.error e) = next' (.error e)) (hok : ∀ a, next (.ok a) = next' (.ok a)) :
    Dialogue.ask call next = .ask call next' := by
  refine congrArg _ (funext fun answer => ?_)
  cases answer with
  | error e => exact herror e
  | ok a => exact hok a

/-- **A call starts at the first point**, on a dialect with transactions and table locks. -/
theorem Request.dialogue_eq {r : Request} (htransactions : r.manager.dialect.transactions = true)
    (hlocking : r.manager.dialect.tableLocking = true) :
    r.dialogue = Point.connecting.dialogue r := by
  cases r with
  | acquire manager name holder =>
    obtain ⟨connector, target, ⟨n, boolean, off, transactions, locking, b, c, rb⟩, table⟩ := manager
    cases htransactions
    cases hlocking
    refine ask_congr (fun e => rfl) fun session => ?_
    refine ask_congr (fun e => rfl) fun _ => ?_
    refine ask_congr (fun e => rfl) fun _ => ?_
    -- connect, begin, lock the table, and then count
    refine ask_congr (fun e => rfl) fun others => ?_
    by_cases hzero : others.asInteger? = some 0
    · dsimp only [Dialogue.bind, ExceptT.bindCont, behindCount]
      rw [if_pos hzero, if_pos hzero]
      refine ask_congr (fun e => rfl) fun _ => ?_
      exact ask_congr (fun e => rfl) fun _ => rfl
    · dsimp only [Dialogue.bind, ExceptT.bindCont, behindCount]
      rw [if_neg hzero, if_neg hzero]
      exact ask_congr (fun e => rfl) fun _ => rfl
  | release manager name holder =>
    obtain ⟨connector, target, ⟨n, boolean, off, transactions, locking, b, c, rb⟩, table⟩ := manager
    cases htransactions
    cases hlocking
    refine ask_congr (fun e => rfl) fun session => ?_
    refine ask_congr (fun e => rfl) fun _ => ?_
    refine ask_congr (fun e => rfl) fun _ => ?_
    refine ask_congr (fun e => rfl) fun _ => ?_
    exact ask_congr (fun e => rfl) fun _ => rfl

/-! ## What can happen at a point -/

/-- What an answer of the database can do to a call and to the database: from a point of the call,
with the changes that become visible, to the next point. -/
inductive Advance (r : Request) (db : Database) :
    Point → Option (List Change) → Point → Database → Prop
  | connected :
      Advance r db .connecting none (.beginning db.sessions) { db with sessions := db.sessions + 1 }
  | refused (e : Error) : Advance r db .connecting none (.finished (r.failed e)) db
  | begun {session : Session} :
      Advance r db (.beginning session) none (.locking session)
        (db.put session (some ⟨false, []⟩))
  | locked {session : Session} {t : Transaction} (ht : db.transactions session = some t)
      (hlock : db.isLockedFor session = false) :
      Advance r db (.locking session) none (r.lockedPoint session)
        (db.put session (some { t with locked := true }))
  | free {session : Session} {t : Transaction} (ht : db.transactions session = some t)
      (hcount : db.others t r.row = 0) :
      Advance r db (.counting session) none (.changing session) db
  | taken {session : Session} : Advance r db (.counting session) none (.undoing session) db
  | changed {session : Session} {t : Transaction} (ht : db.transactions session = some t) :
      Advance r db (.changing session) none (.committing session)
        (db.put session (some { t with changes := t.changes ++ [r.change] }))
  | committed {session : Session} {t : Transaction} (ht : db.transactions session = some t) :
      Advance r db (.committing session) (some t.changes) (.closing session (.ok true))
        { db.put session none with rows := t.changes.foldl Change.apply db.rows }
  | undone {session : Session} :
      Advance r db (.undoing session) none (.closing session (.ok false)) (db.put session none)
  | failed {point : Point} {session : Session} (hsession : point.session? = some session)
      (e : Error) :
      Advance r db point none (.closing session (r.failed e)) db
  | lost {point : Point} {session : Session} (hsession : point.session? = some session)
      (e : Error) :
      Advance r db point none (.closing session (r.failed e)) (db.put session none)
  | closed {session : Session} {result : Except Error Bool} :
      Advance r db (.closing session result) none (.finished result) (db.put session none)

section

variable {read : Reading} {db db' : Database} {session : Session} {outcome : Outcome}

/-- A statement of a call succeeds and has its effect, or it fails and the session is closed. -/
theorem advance_of_execute (r : Request) (point : Point) {sql : String} {statement : LockStatement}
    (hread : read sql = some statement) (hsession : point.session? = some session)
    {answer : Answer (.execute session sql)}
    (h : db.answer read (.execute session sql) outcome = some (answer, db'))
    {next : Dialogue (Except Error Bool)}
    (hnext : ∀ {db' : Database}, db.effect session statement = some db' →
      ∃ point', next = point'.dialogue r ∧ Advance r db point
        (if statement = .commit then (db.transactions session).map (·.changes) else none)
        point' db') :
    ∃ point', behindStatement r session next answer = point'.dialogue r ∧
      Advance r db point (db.committed? read (.execute session sql) outcome) point' db' := by
  cases outcome with
  | succeeds affected =>
    simp only [Database.answer, hread, Option.bind_eq_bind, Option.bind_some] at h
    obtain ⟨db₁, heffect, h⟩ := Option.bind_eq_some_iff.1 h
    cases h
    obtain ⟨point', hpoint', hadvance⟩ := hnext heffect
    refine ⟨point', hpoint', ?_⟩
    simp only [Database.committed?, hread, Option.some.injEq]
    exact hadvance
  -- a failed commit loses the transaction, other failures may
  | fails e lost =>
    simp only [Database.answer] at h
    cases h
    refine ⟨.closing session (r.failed e), rfl, ?_⟩
    split
    · exact .lost hsession e
    · exact .failed hsession e

/-- What a call counts decides whether it goes on to its change or to the rollback. -/
theorem advance_of_count (r : Request) {sql : String} (hread : read sql = some (.count r.row))
    {answer : Answer (.queryValue session sql)}
    (h : db.answer read (.queryValue session sql) outcome = some (answer, db')) :
    ∃ point', behindCount r session answer = point'.dialogue r ∧
      Advance r db (.counting session) (db.committed? read (.queryValue session sql) outcome)
        point' db' := by
  cases outcome with
  | succeeds affected =>
    simp only [Database.answer, hread] at h
    split at h
    · rename_i row t hrow ht
      cases hrow
      cases h
      by_cases hcount : db.others t r.row = 0
      · refine ⟨.changing session, if_pos ?_, .free ht hcount⟩
        show some ((db.others t r.row : Nat) : Int) = some 0
        rw [hcount]
        rfl
      · refine ⟨.undoing session, if_neg ?_, .taken⟩
        show some ((db.others t r.row : Nat) : Int) ≠ some 0
        intro hzero
        apply hcount
        have := Option.some.inj hzero
        omega
    · -- without a transaction the count is not answered
      cases h
  | fails e lost =>
    cases h
    refine ⟨.closing session (r.failed e), rfl, ?_⟩
    split
    · exact .lost rfl e
    · exact .failed rfl e

end

/-- **All that can happen**: what the database answers moves a call from its point to another
one. -/
theorem advance_of_answer {read : Reading} {r : Request} (hr : r.manager.Understood read)
    {db db' : Database} {point : Point} {outcome : Outcome} {call : Call}
    {next : Answer call → Dialogue (Except Error Bool)} {answer : Answer call}
    (hpoint : point.dialogue r = .ask call next)
    (h : db.answer read call outcome = some (answer, db')) :
    ∃ point', next answer = point'.dialogue r ∧
      Advance r db point (db.committed? read call outcome) point' db' := by
  cases point with
  | finished result => cases hpoint
  | connecting =>
    cases hpoint
    cases outcome with
    | succeeds affected =>
      cases h
      exact ⟨.beginning db.sessions, rfl, .connected⟩
    | fails e lost =>
      cases h
      exact ⟨.finished (r.failed e), rfl, .refused e⟩
  | beginning session =>
    cases hpoint
    refine advance_of_execute r (.beginning session) hr.beginning rfl h fun heffect => ?_
    cases heffect
    exact ⟨.locking session, rfl, .begun⟩
  | locking session =>
    cases hpoint
    refine advance_of_execute r (.locking session) hr.locking rfl h fun heffect => ?_
    simp only [Database.effect] at heffect
    split at heffect
    · cases heffect
    · rename_i hlock
      obtain ⟨t, ht, rfl⟩ := Option.map_eq_some_iff.1 heffect
      exact ⟨r.lockedPoint session, (r.dialogue_lockedPoint session).symm,
        .locked ht (Bool.eq_false_iff.2 hlock)⟩
  | counting session =>
    cases hpoint
    exact advance_of_count r (hr.counting r.row.1 r.row.2) h
  | changing session =>
    cases hpoint
    have hread : read r.changeStatement = some (.change r.change) := by
      cases r with
      | acquire manager name holder => exact hr.inserting name holder
      | release manager name holder => exact hr.deleting name holder
    refine advance_of_execute r (.changing session) hread rfl h fun heffect => ?_
    obtain ⟨t, ht, rfl⟩ := Option.map_eq_some_iff.1 heffect
    exact ⟨.committing session, rfl, .changed ht⟩
  | committing session =>
    cases hpoint
    refine advance_of_execute r (.committing session) hr.committing rfl h fun heffect => ?_
    obtain ⟨t, ht, rfl⟩ := Option.map_eq_some_iff.1 heffect
    rw [if_pos rfl, ht]
    exact ⟨.closing session (.ok true), rfl, .committed ht⟩
  | undoing session =>
    cases hpoint
    refine advance_of_execute r (.undoing session) hr.undoing rfl h fun heffect => ?_
    cases heffect
    exact ⟨.closing session (.ok false), rfl, .undone⟩
  | closing session result =>
    cases hpoint
    cases outcome with
    | succeeds affected =>
      cases h
      exact ⟨.finished result, rfl, .closed⟩
    | fails e lost =>
      cases h
      exact ⟨.finished result, rfl, .closed⟩

end StepScript.Locking
