/-
# Histories of the transform lock

What happens to a lock table is a history: calls are started, changes of the table are committed,
and calls return.  A valid history keeps to a few rules, of which one is about the lock: a row is
added only when nobody else has one.  It follows that the rows of one name always have the same
holder, and that two holders get the lock of one name one after the other, with a release between
them.
-/
import Mathlib.Data.List.Infix
import StepScript.Lock

namespace StepScript.Locking

/-! ## Rows and calls -/

/-- A row of the lock table: the name of a transform, and who holds its lock. -/
abbrev Row := String × Int

/-- A change of the lock table. -/
inductive Change where
  | insert (row : Row)
  | delete (row : Row)
  deriving DecidableEq, Repr

/-- The rows after a change. -/
def Change.apply (rows : List Row) : Change → List Row
  | .insert row => rows ++ [row]
  | .delete row => rows.filter (· ≠ row)

/-- A call, to take the lock of a transform or to give it back. -/
inductive Request where
  | acquire (manager : LockTable) (name : String) (holder : Int)
  | release (manager : LockTable) (name : String) (holder : Int)
  deriving DecidableEq, Repr

/-- The change a call makes if it makes one. -/
def Request.change : Request → Change
  | .acquire _ name holder => .insert (name, holder)
  | .release _ name holder => .delete (name, holder)

/-- What happens to a lock table, each time to or by the call of a number. -/
inductive Event where
  | started (id : Nat) (request : Request)
  | committed (id : Nat) (changes : List Change)
  | returned (id : Nat) (result : Except Error Bool)
  deriving DecidableEq

/-- The changes that an event makes visible. -/
def Event.changes : Event → List Change
  | .committed _ changes => changes
  | _ => []

/-- The rows that are visible after a history that starts from an empty table. -/
def rowsOf (history : List Event) : List Row :=
  (history.flatMap Event.changes).foldl Change.apply []

/-- The call of a number was started and has not returned. -/
def IsRunning (history : List Event) (id : Nat) : Prop :=
  (∃ request, .started id request ∈ history) ∧ ∀ result, .returned id result ∉ history

/-- At some moment both calls were running. -/
def Overlap (history : List Event) (id id' : Nat) : Prop :=
  ∃ past, past <+: history ∧ IsRunning past id ∧ IsRunning past id'

/-- All rows of one name have the same holder. -/
def OneHolder (rows : List Row) : Prop :=
  ∀ name holder holder', (name, holder) ∈ rows → (name, holder') ∈ rows → holder = holder'

/-- The call of a number was started to take the lock of a name for a holder. -/
def Takes (history : List Event) (id : Nat) (name : String) (holder : Int) : Prop :=
  ∃ manager, .started id (.acquire manager name holder) ∈ history

/-- The call of a number was started to give back the lock of a name for a holder. -/
def GivesBack (history : List Event) (id : Nat) (name : String) (holder : Int) : Prop :=
  ∃ manager, .started id (.release manager name holder) ∈ history

/-- The call `a` returned that it took the lock of a name for a holder; then, before a call to give
it back was started, the call `b` returned that it took the lock for another holder. -/
def TakenOver (history : List Event) (name : String) (holder holder' : Int) (a b : Nat) : Prop :=
  Takes history a name holder ∧ Takes history b name holder' ∧ ∃ early late rest,
    history = early ++ .returned a (.ok true) :: late ++ .returned b (.ok true) :: rest ∧
      ∀ id, ¬GivesBack late id name holder

theorem rowsOf_concat (history : List Event) (e : Event) :
    rowsOf (history ++ [e]) = e.changes.foldl Change.apply (rowsOf history) := by
  unfold rowsOf
  rw [List.flatMap_append, List.foldl_append, List.flatMap_singleton]

/-! ## Valid histories -/

/-- A history that keeps to the rules: calls are started once; only a running call commits, once it
comes to that, the one change it is for; a row is added only if nobody else has a row of its name;
and who is told to have the lock has committed that row. -/
inductive Valid : List Event → Prop
  | nil : Valid []
  | started {history : List Event} {id : Nat} (request : Request) (h : Valid history)
      (hfresh : ∀ request, .started id request ∉ history) :
      Valid (history ++ [.started id request])
  | committed {history : List Event} {id : Nat} {request : Request} (h : Valid history)
      (hstarted : .started id request ∈ history)
      (hrunning : ∀ result, .returned id result ∉ history)
      (hfree : ∀ name holder, request.change = .insert (name, holder) →
        ∀ other, (name, other) ∈ rowsOf history → other = holder) :
      Valid (history ++ [.committed id [request.change]])
  | returned {history : List Event} {id : Nat} {request : Request} {result : Except Error Bool}
      (h : Valid history) (hstarted : .started id request ∈ history)
      (hrunning : ∀ result, .returned id result ∉ history)
      (hcommitted : ∀ name holder, request.change = .insert (name, holder) → result = .ok true →
        .committed id [.insert (name, holder)] ∈ history) :
      Valid (history ++ [.returned id result])

namespace Valid

variable {history past : List Event} {id : Nat}

/-- The past of a valid history is valid. -/
theorem of_prefix (h : Valid history) (hpast : past <+: history) : Valid past := by
  induction h with
  | nil =>
    rw [List.prefix_nil.1 hpast]
    exact .nil
  | started request h hfresh ih =>
    rcases List.prefix_concat_iff.1 hpast with rfl | hpast
    · exact .started request h hfresh
    · exact ih hpast
  | committed h hstarted hrunning hfree ih =>
    rcases List.prefix_concat_iff.1 hpast with rfl | hpast
    · exact .committed h hstarted hrunning hfree
    · exact ih hpast
  | returned h hstarted hrunning hcommitted ih =>
    rcases List.prefix_concat_iff.1 hpast with rfl | hpast
    · exact .returned h hstarted hrunning hcommitted
    · exact ih hpast

/-- A call is started with one request. -/
theorem eq_of_started (h : Valid history) {request request' : Request}
    (hr : .started id request ∈ history) (hr' : .started id request' ∈ history) :
    request = request' := by
  induction h with
  | nil => cases hr
  | started r h hfresh ih =>
    rcases List.mem_append.1 hr with hold | hnew
    · rcases List.mem_append.1 hr' with hold' | hnew'
      · exact ih hold hold'
      · cases List.mem_singleton.1 hnew'
        exact absurd hold (hfresh request)
    · rcases List.mem_append.1 hr' with hold' | hnew'
      · cases List.mem_singleton.1 hnew
        exact absurd hold' (hfresh request')
      · cases List.mem_singleton.1 hnew
        cases List.mem_singleton.1 hnew'
        rfl
  | committed h hstarted hrunning hfree ih =>
    exact ih (by simpa using hr) (by simpa using hr')
  | returned h hstarted hrunning hcommitted ih =>
    exact ih (by simpa using hr) (by simpa using hr')

/-- What holds when a call commits. -/
theorem of_committed {changes : List Change} (h : Valid (past ++ [.committed id changes])) :
    ∃ request, .started id request ∈ past ∧ (∀ result, .returned id result ∉ past) ∧
      changes = [request.change] ∧ ∀ name holder, request.change = .insert (name, holder) →
        ∀ other, (name, other) ∈ rowsOf past → other = holder := by
  generalize hlist : past ++ [Event.committed id changes] = list at h
  cases h with
  | nil => simp at hlist
  | started request h hfresh =>
    obtain ⟨_, hlast⟩ := List.append_inj' hlist rfl
    cases hlast
  | @committed past' id' request h hstarted hrunning hfree =>
    obtain ⟨rfl, hlast⟩ := List.append_inj' hlist rfl
    cases hlast
    exact ⟨request, hstarted, hrunning, rfl, hfree⟩
  | returned h hstarted hrunning hcommitted =>
    obtain ⟨_, hlast⟩ := List.append_inj' hlist rfl
    cases hlast

/-- What holds when a call returns. -/
theorem of_returned {result : Except Error Bool} (h : Valid (past ++ [.returned id result])) :
    ∃ request, .started id request ∈ past ∧ (∀ result, .returned id result ∉ past) ∧
      ∀ name holder, request.change = .insert (name, holder) → result = .ok true →
        .committed id [.insert (name, holder)] ∈ past := by
  generalize hlist : past ++ [Event.returned id result] = list at h
  cases h with
  | nil => simp at hlist
  | started request h hfresh =>
    obtain ⟨_, hlast⟩ := List.append_inj' hlist rfl
    cases hlast
  | committed h hstarted hrunning hfree =>
    obtain ⟨_, hlast⟩ := List.append_inj' hlist rfl
    cases hlast
  | @returned past' id' request result' h hstarted hrunning hcommitted =>
    obtain ⟨rfl, hlast⟩ := List.append_inj' hlist rfl
    cases hlast
    exact ⟨request, hstarted, hrunning, hcommitted⟩

/-- Only a call that was started returns. -/
theorem started_of_returned {result : Except Error Bool} (h : Valid history)
    (hresult : .returned id result ∈ history) : ∃ request, .started id request ∈ history := by
  obtain ⟨before, behind, rfl⟩ := List.append_of_mem hresult
  have hpast : before ++ [.returned id result] <+: before ++ .returned id result :: behind :=
    ⟨behind, by simp⟩
  obtain ⟨request, hstarted, _⟩ := (h.of_prefix hpast).of_returned
  exact ⟨request, List.mem_append_left _ hstarted⟩

/-! ## One holder at a time -/

/-- **All rows of one name have the same holder.** -/
theorem oneHolder (h : Valid history) : OneHolder (rowsOf history) := by
  induction h with
  | nil =>
    intro name holder holder' hrow
    cases hrow
  | started request h hfresh ih =>
    rw [rowsOf_concat]
    exact ih
  | @committed history id request h hstarted hrunning hfree ih =>
    rw [rowsOf_concat]
    show OneHolder (request.change.apply (rowsOf history))
    cases request with
    | acquire manager name holder =>
      -- the new row agrees with the old ones, and these agree with each other
      have hnew : ∀ other, (name, other) ∈ rowsOf history → other = holder := hfree name holder rfl
      intro n h₁ h₂ hrow₁ hrow₂
      rcases List.mem_append.1 hrow₁ with hold₁ | hnew₁
      · rcases List.mem_append.1 hrow₂ with hold₂ | hnew₂
        · exact ih n h₁ h₂ hold₁ hold₂
        · cases List.mem_singleton.1 hnew₂
          exact hnew h₁ hold₁
      · cases List.mem_singleton.1 hnew₁
        rcases List.mem_append.1 hrow₂ with hold₂ | hnew₂
        · exact (hnew h₂ hold₂).symm
        · cases List.mem_singleton.1 hnew₂
          rfl
    | release manager name holder =>
      intro n h₁ h₂ hrow₁ hrow₂
      exact ih n h₁ h₂ (List.mem_of_mem_filter hrow₁) (List.mem_of_mem_filter hrow₂)
  | returned h hstarted hrunning hcommitted ih =>
    rw [rowsOf_concat]
    exact ih

/-- A row disappears only when a running call that gives back the lock commits. -/
theorem exists_release {name : String} {holder : Int} (h : Valid history)
    (hpast : past <+: history) (hrow : (name, holder) ∈ rowsOf past)
    (hgone : (name, holder) ∉ rowsOf history) :
    ∃ between id manager, past <+: between ∧ between <+: history ∧
      .started id (.release manager name holder) ∈ between ∧
      ∀ result, .returned id result ∉ between := by
  induction h with
  | nil =>
    rw [List.prefix_nil.1 hpast] at hrow
    exact absurd hrow hgone
  | @started history id request h hfresh ih =>
    rw [rowsOf_concat] at hgone
    rcases List.prefix_concat_iff.1 hpast with rfl | hpast
    · rw [rowsOf_concat] at hrow
      exact absurd hrow hgone
    · obtain ⟨between, id, manager, hle, hle', hbetween⟩ := ih hpast hgone
      exact ⟨between, id, manager, hle, hle'.trans (List.prefix_append _ _), hbetween⟩
  | @returned history id request result h hstarted hrunning hcommitted ih =>
    rw [rowsOf_concat] at hgone
    rcases List.prefix_concat_iff.1 hpast with rfl | hpast
    · rw [rowsOf_concat] at hrow
      exact absurd hrow hgone
    · obtain ⟨between, id, manager, hle, hle', hbetween⟩ := ih hpast hgone
      exact ⟨between, id, manager, hle, hle'.trans (List.prefix_append _ _), hbetween⟩
  | @committed history id request h hstarted hrunning hfree ih =>
    rcases List.prefix_concat_iff.1 hpast with rfl | hbefore
    · exact absurd hrow hgone
    · by_cases hstill : (name, holder) ∈ rowsOf history
      · rw [rowsOf_concat] at hgone
        cases request with
        | acquire manager n h' => exact absurd (List.mem_append_left _ hstill) hgone
        | release manager n h' =>
          -- the row that is gone is the one that was removed
          have hsame : (name, holder) = (n, h') := by
            by_contra hne
            exact hgone (List.mem_filter.2 ⟨hstill, decide_eq_true hne⟩)
          cases hsame
          exact ⟨history, id, manager, hbefore, List.prefix_append _ _, hstarted, hrunning⟩
      · obtain ⟨between, id, manager, hle, hle', hbetween⟩ := ih hbefore hstill
        exact ⟨between, id, manager, hle, hle'.trans (List.prefix_append _ _), hbetween⟩

/-- The moment at which a call committed. -/
theorem exists_moment {changes : List Change} (h : .committed id changes ∈ history) :
    ∃ before, before ++ [.committed id changes] <+: history := by
  obtain ⟨before, behind, rfl⟩ := List.append_of_mem h
  exact ⟨before, behind, by simp⟩

/-- A row that is added is there. -/
theorem mem_rowsOf_insert (past : List Event) (id : Nat) (row : Row) :
    row ∈ rowsOf (past ++ [.committed id [.insert row]]) := by
  rw [rowsOf_concat]
  exact List.mem_append_right _ (List.mem_singleton.2 rfl)

/-- Between the commits of two calls that take the lock for different holders, a call that gives
back the lock of the first one was running. -/
theorem release_between {a b : Nat} {name : String} {holder holder' : Int}
    {first second : List Event} (hne : holder ≠ holder')
    (hsecond : Valid (second ++ [.committed b [.insert (name, holder')]]))
    (hle : first ++ [.committed a [.insert (name, holder)]] <+: second) :
    ∃ between id manager, first ++ [.committed a [.insert (name, holder)]] <+: between ∧
      between <+: second ∧ .started id (.release manager name holder) ∈ between ∧
      ∀ result, .returned id result ∉ between := by
  obtain ⟨request, _, _, hchanges, hfree⟩ := hsecond.of_committed
  have hchange : request.change = .insert (name, holder') := (List.cons.inj hchanges).1.symm
  have hgone : (name, holder) ∉ rowsOf second := by
    intro hrow
    exact hne (hfree name holder' hchange holder hrow)
  exact (hsecond.of_prefix (List.prefix_append _ _)).exists_release hle
    (mem_rowsOf_insert first a (name, holder)) hgone

/-- **Two holders of one lock**: if the lock of a name was taken over, then one of the two calls
overlapped with a call that gave back the lock of its own holder. -/
theorem exists_overlap (h : Valid history) {a b : Nat} {name : String} {holder holder' : Int}
    (hne : holder ≠ holder') (htaken : TakenOver history name holder holder' a b) :
    ∃ id, (GivesBack history id name holder ∧ Overlap history id a) ∨
      (GivesBack history id name holder' ∧ Overlap history id b) := by
  obtain ⟨⟨manager, ha⟩, ⟨manager', hb⟩, early, late, rest, hhistory, hkept⟩ := htaken
  -- everything up to the return of the second call
  obtain ⟨upto, hupto⟩ : ∃ upto, upto = early ++ .returned a (.ok true) :: late := ⟨_, rfl⟩
  have hearly : early ++ [.returned a (.ok true)] <+: upto := ⟨late, by simp [hupto]⟩
  have hlate : upto ++ [.returned b (.ok true)] <+: history := ⟨rest, by simp [hhistory, hupto]⟩
  have huptole : upto <+: history := (List.prefix_append _ _).trans hlate
  have hearlyle : early <+: upto := (List.prefix_append _ _).trans hearly
  obtain ⟨ra, hra, hrunninga, hcommitteda⟩ :=
    (h.of_prefix (hearly.trans huptole)).of_returned
  obtain ⟨rb, hrb, hrunningb, hcommittedb⟩ := (h.of_prefix hlate).of_returned
  obtain rfl := h.eq_of_started ((hearlyle.trans huptole).subset hra) ha
  obtain rfl := h.eq_of_started (huptole.subset hrb) hb
  -- both calls committed before they returned
  obtain ⟨first, hfirst⟩ := exists_moment (hcommitteda name holder rfl rfl)
  obtain ⟨second, hsecond⟩ := exists_moment (hcommittedb name holder' rfl rfl)
  have hvalidfirst := h.of_prefix ((hfirst.trans hearlyle).trans huptole)
  have hvalidsecond := h.of_prefix (hsecond.trans huptole)
  have hdistinct : first ++ [Event.committed a [.insert (name, holder)]] ≠
      second ++ [.committed b [.insert (name, holder')]] := by
    intro heq
    cases (List.append_inj' heq rfl).2
    exact hne rfl
  rcases List.prefix_or_prefix_of_prefix (hfirst.trans hearlyle) hsecond with hle | hle
  · -- the first call committed before the second one
    -- a commit that is not the same one lies before it
    have hle := (List.prefix_concat_iff.1 hle).resolve_left hdistinct
    obtain ⟨between, id, m, hbefore, hbehind, hstarted, hrunning⟩ :=
      release_between hne hvalidsecond hle
    have hbetween : between <+: upto :=
      hbehind.trans ((List.prefix_append _ _).trans hsecond)
    refine ⟨id, .inl ⟨⟨m, huptole.subset (hbetween.subset hstarted)⟩, ?_⟩⟩
    rcases List.prefix_or_prefix_of_prefix hbetween hearlyle with hcase | hcase
    · -- and the lock was given back before it returned
      obtain ⟨request, hrequest, _⟩ := hvalidfirst.of_committed
      refine ⟨between, hbetween.trans huptole, ⟨⟨_, hstarted⟩, hrunning⟩, ⟨request, ?_⟩, ?_⟩
      · exact hbefore.subset (List.mem_append_left _ hrequest)
      · intro result hresult
        exact hrunninga result (hcase.subset hresult)
    · -- or later, but by a call that was started before it returned
      have hstarted' : .started id (.release m name holder) ∈ early := by
        have hmem := hbetween.subset hstarted
        rw [hupto] at hmem
        rcases List.mem_append.1 hmem with hmem | hmem
        · exact hmem
        · rcases List.mem_cons.1 hmem with hmem | hmem
          · cases hmem
          · exact absurd ⟨m, hmem⟩ (hkept id)
      refine ⟨early, hearlyle.trans huptole, ⟨⟨_, hstarted'⟩, ?_⟩, ⟨_, hra⟩, hrunninga⟩
      intro result hresult
      exact hrunning result (hcase.subset hresult)
  · -- the second call committed before the first one, and returned after it
    have hle := (List.prefix_concat_iff.1 hle).resolve_left hdistinct.symm
    obtain ⟨between, id, m, hbefore, hbehind, hstarted, hrunning⟩ :=
      release_between hne.symm hvalidfirst hle
    have hbetween : between <+: upto :=
      (hbehind.trans ((List.prefix_append _ _).trans hfirst)).trans hearlyle
    obtain ⟨request, hrequest, _⟩ := hvalidsecond.of_committed
    refine ⟨id, .inr ⟨⟨m, huptole.subset (hbetween.subset hstarted)⟩, between,
      hbetween.trans huptole, ⟨⟨_, hstarted⟩, hrunning⟩, ⟨request, ?_⟩, ?_⟩⟩
    · exact hbefore.subset (List.mem_append_left _ hrequest)
    · intro result hresult
      exact hrunningb result (hbetween.subset hresult)

end Valid

end StepScript.Locking
