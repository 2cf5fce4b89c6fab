/-
# Commands and the error channel

What commands do to the error channel.  A command that is no error handler leaves the failure in
the channel alone, and the whole channel as long as it does not fail; the handler empties the
channel or ends the transform.
-/
import StepScript.Proofs.Command.Ensures

namespace StepScript

/-! ## Parts of the state that stay -/

/-- An action leaves a part of the state alone, whether it fails or not. -/
def Keeps {σ α γ : Type} (f : σ → γ) (x : Stateful σ α) : Prop :=
  ∀ s, Ensures x s fun _ _ s' => f s' = f s

namespace Keeps

variable {σ α β γ : Type} {f : σ → γ}

theorem pure (a : α) : Keeps f (Pure.pure a : Stateful σ α) := by
  intro s
  rw [Ensures.pure_iff]

theorem throw (e : Error) : Keeps f (MonadExcept.throw e : Stateful σ α) := by
  intro s
  rw [Ensures.throw_iff]

theorem get : Keeps f (MonadState.get : Stateful σ σ) := by
  intro s
  rw [Ensures.get_iff]

theorem bind {x : Stateful σ α} {g : α → Stateful σ β} (hx : Keeps f x) (hg : ∀ a, Keeps f (g a)) :
    Keeps f (x >>= g) := by
  intro s
  rw [Ensures.bind_iff]
  refine (hx s).mono ?_
  intro before r s' hs'
  cases r with
  | error e => exact hs'
  | ok a =>
    refine (hg a s').mono ?_
    intro after r s'' hs''
    rw [hs'', hs']

theorem map {x : Stateful σ α} (hx : Keeps f x) (g : α → β) : Keeps f (g <$> x) := by
  intro s
  rw [Ensures.map_iff]
  exact hx s

/-- Behind something that leaves the whole state alone, the rest starts from the same state. -/
theorem ensures_bind {s : σ} {x : Stateful σ α} {g : α → Stateful σ β}
    {Q : Except Error β → σ → Prop} (hx : Keeps id x) (herror : ∀ e, Q (.error e) s)
    (hg : ∀ a, Ensures (g a) s fun _ => Q) : Ensures (x >>= g) s fun _ => Q := by
  rw [Ensures.bind_iff]
  refine (hx s).mono ?_
  intro before r s' hs'
  obtain rfl : s' = s := hs'
  cases r with
  | error e => exact herror e
  | ok a => exact hg a

end Keeps

/-! ## Actions -/

namespace Action

variable {α γ : Type} {f : Workspace → γ}

theorem keeps_ofExcept (r : Except Error α) : Keeps f (ofExcept r) := by
  intro w
  rw [ensures_ofExcept]

theorem keeps_ofAttempt (attempt : Attempt α) : Keeps f (ofAttempt attempt) := by
  intro w
  rw [ensures_ofAttempt]
  exact Dialogue.always_iff.2 fun _ _ _ => rfl

theorem keeps_assign (hf : ∀ w evaluator, f { w with evaluator } = f w) (name : String)
    (value : Value) : Keeps f (assign name value) := by
  intro w
  unfold assign
  simp only [Ensures.bind_iff, Ensures.get_iff, ensures_ofExcept, Ensures.set_iff]
  cases w.evaluator.assign name value with
  | ok evaluator => exact hf w evaluator
  | error e => trivial

theorem keeps_noteRows (hf : ∀ w evaluator, f { w with evaluator } = f w) (rows : Nat) :
    Keeps f (noteRows rows) :=
  keeps_assign hf rowsVariable _

theorem keeps_store (hf : ∀ w recordsets, f { w with recordsets } = f w) (name : String)
    (records : List Record) : Keeps f (store name records) := by
  intro w
  unfold store
  simp only [Ensures.bind_iff, Ensures.get_iff, ensures_ofExcept, Ensures.set_iff]
  cases w.recordsets.store name records with
  | ok recordsets => exact hf w recordsets
  | error e => trivial

theorem keeps_compare (operator : String) (left right : Value) :
    Keeps f (compare operator left right) :=
  Keeps.get.bind fun _ => keeps_ofExcept _

end Action

section

variable {γ : Type} {f : Workspace → γ}

theorem keeps_need (around : Surroundings) : Keeps f around.need := by
  unfold Surroundings.need
  split
  · exact Keeps.pure _
  · exact Keeps.throw _

theorem keeps_argument (arguments : List Value) (index : Nat) :
    Keeps f (argument arguments index) := by
  unfold argument
  split
  · exact Keeps.pure _
  · exact Keeps.throw _

theorem keeps_argumentText (arguments : List Value) (index : Nat) :
    Keeps f (argumentText arguments index) :=
  (keeps_argument arguments index).map _

end

/-! ## Commands without an iteration -/

namespace Command

variable {γ : Type} {f : Workspace → γ}

theorem keeps_runStatement (hf : ∀ w evaluator, f { w with evaluator } = f w)
    (around : Surroundings) : Keeps f (runStatement around) := by
  unfold runStatement
  refine (keeps_need around).bind fun session => ?_
  refine (Action.keeps_ofAttempt _).bind fun rows => ?_
  exact (Action.keeps_noteRows hf rows).bind fun _ => Keeps.pure _

theorem keeps_querySingle (around : Surroundings) : Keeps f (querySingle around) := by
  unfold querySingle
  exact (keeps_need around).bind fun session => Action.keeps_ofAttempt _

theorem keeps_condition (arguments : List Value) : Keeps f (condition arguments) := by
  unfold condition
  refine (keeps_argumentText arguments 1).bind fun operator => ?_
  refine (keeps_argument arguments 0).bind fun left => ?_
  exact (keeps_argument arguments 2).bind fun right => Action.keeps_compare operator left right

/-- A command that neither iterates nor handles errors changes variables and recordsets only. -/
theorem keeps_perform (hevaluator : ∀ w evaluator, f { w with evaluator } = f w)
    (hrecordsets : ∀ w recordsets, f { w with recordsets } = f w) {c : Command}
    (hiterate : c ≠ .iterate) (hhandler : c ≠ .onError) (around : Surroundings)
    (arguments : List Value) : Keeps f (c.perform around arguments) := by
  cases c with
  | assign =>
    refine (keeps_argumentText arguments 0).bind fun name => ?_
    refine (keeps_argument arguments 1).bind fun value => ?_
    exact (Action.keeps_assign hevaluator name value).bind fun _ => Keeps.pure _
  | assignResult =>
    refine (keeps_argumentText arguments 0).bind fun name => ?_
    refine (keeps_querySingle around).bind fun value => ?_
    exact (Action.keeps_assign hevaluator name value).bind fun _ => Keeps.pure _
  | execute => exact keeps_runStatement hevaluator around
  | executeIf =>
    refine (keeps_condition arguments).bind fun holds => ?_
    cases holds
    · exact Keeps.pure _
    · exact keeps_runStatement hevaluator around
  | test =>
    refine (keeps_argumentText arguments 0).bind fun operator => ?_
    refine (keeps_argument arguments 1).bind fun expected => ?_
    refine (keeps_querySingle around).bind fun actual => ?_
    refine (Action.keeps_compare operator actual expected).bind fun holds => ?_
    cases holds <;> exact Keeps.pure _
  | exitIf =>
    refine (keeps_condition arguments).bind fun holds => ?_
    cases holds <;> exact Keeps.pure _
  | exitStepIf =>
    refine (keeps_condition arguments).bind fun holds => ?_
    cases holds <;> exact Keeps.pure _
  | failIf =>
    refine (keeps_condition arguments).bind fun holds => ?_
    cases holds
    · exact Keeps.pure _
    · exact Keeps.throw _
  | recordset =>
    refine (keeps_argumentText arguments 0).bind fun name => ?_
    refine (keeps_need around).bind fun session => ?_
    refine (Action.keeps_ofAttempt _).bind fun rows => ?_
    exact (Action.keeps_store hrecordsets name _).bind fun _ => Keeps.pure _
  | removeRecordset =>
    refine (keeps_argumentText arguments 0).bind fun name => ?_
    refine Keeps.bind ?_ fun _ => Keeps.pure _
    intro w
    rw [Ensures.modify_iff]
    exact hrecordsets w _
  -- an iteration notes the record at which it fails
  | iterate => exact absurd rfl hiterate
  | recordsetOfPaths =>
    refine (keeps_argumentText arguments 0).bind fun name => ?_
    refine (keeps_argumentText arguments 1).bind fun pattern => ?_
    refine (Action.keeps_ofExcept _).bind fun records => ?_
    exact (Action.keeps_store hrecordsets name records).bind fun _ => Keeps.pure _
  | onError => exact absurd rfl hhandler

/-! ## The iteration -/

/-- The channel after an iteration: as before if it succeeded, and otherwise at most with a note of
a record. -/
theorem iterateOver_channel (session : Session) (statement name : String)
    (conditions : List Condition) (records : List Record) (w : Workspace) :
    Ensures (iterateOver session statement name conditions records) w fun _ r w' =>
      w'.channel.pending = w.channel.pending ∧ (r = .ok () → w'.channel = w.channel) := by
  induction records generalizing w with
  | nil =>
    rw [iterateOver, Ensures.pure_iff]
    exact ⟨rfl, fun _ => rfl⟩
  | cons record records ih =>
    rw [iterateOver]
    simp only [Ensures.bind_iff, Ensures.get_iff, Action.ensures_ofExcept]
    cases Condition.acceptAll w.evaluator record conditions with
    | error e => exact ⟨trivial, fun h => by cases h⟩
    | ok wanted =>
      cases wanted with
      | false => exact ih w
      | true =>
        simp only [if_true, Ensures.tryCatch_iff, Ensures.bind_iff, Action.ensures_execute]
        intro answer
        cases answer with
        -- the record is noted and the failure goes on, so this is no success
        | error e =>
          simp only [Ensures.modify_iff, Ensures.throw_iff]
          exact ⟨rfl, fun h => by cases h⟩
        | ok rows =>
          simp only [Action.ensures_noteRows]
          exact ih (Action.noted w rows)

theorem runIterate_channel (around : Surroundings) (arguments : List Value) (w : Workspace) :
    Ensures (runIterate around arguments) w fun _ r w' =>
      w'.channel.pending = w.channel.pending ∧
        (∀ signal, r = .ok signal → w'.channel = w.channel) := by
  -- whatever fails before the records are gone through has changed nothing
  have herror : ∀ e, w.channel.pending = w.channel.pending ∧
      ∀ signal, (Except.error e : Except Error (Option Signal)) = .ok signal →
        w.channel = w.channel := fun e => ⟨rfl, fun _ _ => rfl⟩
  unfold runIterate
  refine (keeps_argumentText arguments 0).ensures_bind herror fun name => ?_
  refine (Action.keeps_ofExcept _).ensures_bind herror fun conditions => ?_
  refine Keeps.get.ensures_bind herror fun w₀ => ?_
  refine (Action.keeps_ofExcept _).ensures_bind herror fun records => ?_
  refine (keeps_need around).ensures_bind herror fun session => ?_
  rw [Ensures.bind_iff]
  refine (iterateOver_channel session around.statement name conditions records w).mono ?_
  intro before r w' h
  cases r with
  | error e => exact ⟨h.1, fun _ h => by cases h⟩
  | ok _ =>
    rw [Ensures.pure_iff]
    exact ⟨h.1, fun _ _ => h.2 rfl⟩

/-- **A command that is no error handler** leaves the failure in the channel alone, and the whole
channel if it succeeds. -/
theorem perform_channel {c : Command} (hhandler : c ≠ .onError) (around : Surroundings)
    (arguments : List Value) (w : Workspace) :
    Ensures (c.perform around arguments) w fun _ r w' =>
      w'.channel.pending = w.channel.pending ∧
        (∀ signal, r = .ok signal → w'.channel = w.channel) := by
  by_cases hiterate : c = .iterate
  · subst hiterate
    exact runIterate_channel around arguments w
  · refine (keeps_perform (f := Workspace.channel) (fun _ _ => rfl) (fun _ _ => rfl) hiterate
      hhandler around arguments w).mono ?_
    intro _ r w' h
    exact ⟨congrArg ErrorChannel.pending h, fun _ _ => h⟩

/-! ## The handler -/

/-- **The error handler** does nothing without a failure.  With one it empties the channel if it
comes to its end, and its action is then any other than to fail. -/
theorem runHandler_channel (around : Surroundings) (arguments : List Value) (w : Workspace) :
    Ensures (runHandler around arguments) w fun _ r w' =>
      ∀ signal, r = .ok signal →
        (w.channel.pending = none ∧ signal = none ∧ w' = w) ∨
        (w'.channel = ErrorChannel.empty ∧ ∃ argument action, arguments[0]? = some argument ∧
          HandlerAction.read argument.display = .ok action ∧ action ≠ .fail) := by
  unfold runHandler argumentText argument
  cases harguments : arguments[0]? with
  | none =>
    simp only [Ensures.bind_iff, Ensures.map_iff, Ensures.throw_iff, Except.map]
    intro signal h
    cases h
  | some argument =>
    simp only [Ensures.bind_iff, Ensures.map_iff, Ensures.pure_iff, Except.map,
      Action.ensures_ofExcept]
    cases haction : HandlerAction.read argument.display with
    | error e =>
      intro signal h
      cases h
    | ok action =>
      simp only [Ensures.get_iff]
      cases hpending : w.channel.pending with
      | none =>
        rw [Ensures.pure_iff]
        intro signal h
        cases h
        exact .inl ⟨rfl, rfl, rfl⟩
      | some e =>
        -- the action was read from the argument, whichever it is
        have hhandled : ∀ {action'}, action = action' → action' ≠ .fail →
            ∃ a action, some argument = some a ∧ HandlerAction.read a.display = .ok action ∧
              action ≠ .fail := by
          intro action' h hfail
          exact ⟨argument, action', rfl, h ▸ haction, hfail⟩
        cases action with
        | resume =>
          simp only [Ensures.bind_iff, Ensures.set_iff, Ensures.pure_iff]
          intro signal _
          exact .inr ⟨trivial, hhandled rfl (by decide)⟩
        | exitStep =>
          simp only [Ensures.bind_iff, Ensures.set_iff, Ensures.pure_iff]
          intro signal _
          exact .inr ⟨trivial, hhandled rfl (by decide)⟩
        | execute =>
          refine (keeps_need (f := id) around).ensures_bind (fun e signal h => by cases h) ?_
          intro session
          simp only [Ensures.bind_iff, Action.ensures_execute]
          intro answer
          cases answer with
          | error e =>
            intro signal h
            cases h
          | ok rows =>
            simp only [Action.ensures_noteRows, Ensures.modify_iff, Ensures.pure_iff]
            intro signal _
            exact .inr ⟨trivial, hhandled rfl (by decide)⟩
        | fail =>
          rw [Ensures.throw_iff]
          intro signal h
          cases h

/-- With a failure in the channel and the action to execute its body, the handler executes one
statement. -/
theorem exchanges_of_runHandler {argument : Value}
    (haction : HandlerAction.read argument.display = .ok .execute) {w : Workspace} {e : Error}
    (hpending : w.channel.pending = some e) {session : Session} {files : Files}
    {statement : String} {exchanges : List Exchange} {r : Except Error (Option Signal)}
    {w' : Workspace}
    (h : ((runHandler ⟨some session, files, statement⟩ [argument]).run.run w).Leads exchanges
      (r, w')) :
    ∃ answer, exchanges =
      [⟨.execute session (fillFailure statement w.channel.lastRecord e), answer⟩] := by
  refine Ensures.of_leads (Q := fun exchanges _ _ => ∃ answer, exchanges =
    [⟨.execute session (fillFailure statement w.channel.lastRecord e), answer⟩]) ?_ h
  unfold runHandler argumentText
  rw [show StepScript.argument [argument] 0 = pure argument from rfl]
  simp only [Ensures.bind_iff, Ensures.map_iff, Ensures.pure_iff, Except.map,
    Action.ensures_ofExcept, haction, Ensures.get_iff, hpending]
  rw [show Surroundings.need ⟨some session, files, statement⟩ = pure session from rfl]
  simp only [Ensures.pure_iff, Action.ensures_execute]
  intro answer
  cases answer with
  | error e => exact ⟨.error e, rfl⟩
  | ok rows =>
    simp only [Action.ensures_noteRows, Ensures.modify_iff]
    exact ⟨.ok rows, rfl⟩

end Command

end StepScript
