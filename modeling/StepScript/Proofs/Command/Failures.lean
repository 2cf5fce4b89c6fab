/-
# How commands fail

Which errors a command can fail with once its arguments fit it, on a database that fails as
databases do.  A command whose failure is captured fails for reasons that lie in the data; one that
decides how the transform goes on fails in its comparison, because it is told to, or in the
statement of the error handler.
-/
import StepScript.Proofs.Command.Fitting

namespace StepScript

/-! ## Databases -/

/-- What is asked within a session. -/
def Call.isStatement : Call → Bool
  | .execute .. | .queryValue .. | .queryRows .. => true
  | _ => false

/-- A statement that fails does so with an error of the database. -/
def Exchange.Regular (x : Exchange) : Prop :=
  x.call.isStatement = true → ∀ e, x.answer = .error e → ∃ detail, e = .database detail

/-- Every statement that fails does so with an error of the database. -/
def Backend.Regular {σ : Type} (db : Backend σ) : Prop :=
  ∀ call state e, call.isStatement = true → (db.answer call state).1 = .error e →
    ∃ detail, e = .database detail

theorem Backend.Regular.recorded {σ α : Type} {db : Backend σ} (hdb : db.Regular) (d : Dialogue α)
    (state : σ) : ∀ x ∈ (d.recorded.run db state).1.2, x.Regular := by
  induction d generalizing state with
  | done a =>
    intro x hx
    cases hx
  | ask call next ih =>
    rw [Dialogue.recorded, Dialogue.run_ask, Dialogue.run_bind]
    intro x hx
    rcases List.mem_cons.1 hx with rfl | hx
    · exact fun hcall e he => hdb call state e hcall he
    · exact ih _ _ x hx

/-! ## Failing within a class of errors -/

/-- On a regular database, something fails with errors of a class only. -/
def FailsIn {σ α : Type} (P : Error → Prop) (x : Stateful σ α) : Prop :=
  ∀ s, Ensures x s fun exchanges r _ => (∀ ex ∈ exchanges, ex.Regular) → ∀ e, r = .error e → P e

namespace FailsIn

variable {σ α β : Type} {P : Error → Prop}

theorem pure (a : α) : FailsIn P (Pure.pure a : Stateful σ α) := by
  intro s
  rw [Ensures.pure_iff]
  intro _ e he
  cases he

theorem throw {e : Error} (h : P e) : FailsIn P (MonadExcept.throw e : Stateful σ α) := by
  intro s
  rw [Ensures.throw_iff]
  intro _ e' he'
  cases he'
  exact h

theorem get : FailsIn P (MonadState.get : Stateful σ σ) := by
  intro s
  rw [Ensures.get_iff]
  intro _ e he
  cases he

theorem set (s' : σ) : FailsIn P (MonadStateOf.set s' : Stateful σ PUnit) := by
  intro s
  rw [Ensures.set_iff]
  intro _ e he
  cases he

theorem bind {x : Stateful σ α} {f : α → Stateful σ β} (hx : FailsIn P x)
    (hf : ∀ a, FailsIn P (f a)) : FailsIn P (x >>= f) := by
  intro s
  rw [Ensures.bind_iff]
  refine (hx s).mono ?_
  intro before r s' h
  cases r with
  | error e =>
    intro hregular e' he'
    cases he'
    exact h hregular e rfl
  | ok a =>
    refine (hf a s').mono ?_
    intro behind r s'' h' hregular
    exact h' fun ex hex => hregular ex (List.mem_append_right before hex)

theorem tryCatch {x : Stateful σ α} {f : Error → Stateful σ α} (hx : FailsIn P x)
    (hf : ∀ e, P e → FailsIn P (f e)) : FailsIn P (MonadExcept.tryCatch x f) := by
  intro s
  rw [Ensures.tryCatch_iff]
  refine (hx s).mono ?_
  intro before r s' h
  cases r with
  | ok a => exact h
  | error e =>
    refine Dialogue.always_iff.2 fun behind r hleads hregular => ?_
    have he : P e := h (fun ex hex => hregular ex (List.mem_append_left behind hex)) e rfl
    exact Dialogue.always_iff.1 (hf e he s') behind r hleads fun ex hex =>
      hregular ex (List.mem_append_right before hex)

end FailsIn

theorem failsIn_modify {σ : Type} {P : Error → Prop} (f : σ → σ) :
    FailsIn P (modify f : Stateful σ PUnit) := by
  intro s
  rw [Ensures.modify_iff]
  intro _ e he
  cases he

/-! ## Comparisons, conditions and recordsets -/

theorem Value.asBoolean_error {v : Value} {e : Error} (h : v.asBoolean = .error e) :
    ∃ detail, e = .expression detail := by
  unfold Value.asBoolean at h
  split at h
  · cases h
  · dsimp only at h
    split at h
    · cases h
    · split at h
      · cases h
      · cases h
        exact ⟨_, rfl⟩
  · cases h
  · cases h
  · split at h
    · cases h
    · split at h
      · cases h
      · cases h
        exact ⟨_, rfl⟩
  · cases h
    exact ⟨_, rfl⟩

theorem Operands.unify_error {a b : Value} {e : Error} (h : Operands.unify a b = .error e) :
    ∃ detail, e = .expression detail := by
  unfold Operands.unify at h
  split at h
  · rcases Outcome.bind_eq_error.1 h with h | ⟨x, _, h⟩
    · exact Value.asBoolean_error h
    · rcases Outcome.bind_eq_error.1 h with h | ⟨y, _, h⟩
      · exact Value.asBoolean_error h
      · cases h
  · split at h
    · cases h
    · split at h
      · cases h
      · split at h <;> cases h

theorem Operator.compareValues_error {op : Operator} {a b : Value} {e : Error}
    (h : op.compareValues a b = .error e) : ∃ detail, e = .expression detail := by
  unfold Operator.compareValues at h
  split at h
  · cases h
  · cases h
  · cases hunify : Operands.unify a b with
    | ok operands =>
      rw [hunify] at h
      cases h
    | error e' =>
      rw [hunify] at h
      cases h
      exact Operands.unify_error hunify

namespace Evaluator

variable {e : Evaluator}

theorem evaluate_error {v : Value} {error : Error} (h : e.evaluate v = .error error) :
    ∃ detail, error = .expression detail := by
  cases v with
  | text s =>
    rw [evaluate, evaluateText] at h
    split at h
    · cases h
    · split at h
      · cases h
      · split at h
        · cases h
        · split at h
          · cases h
          · split at h
            · split at h
              · cases h
              · cases h
                exact ⟨_, rfl⟩
            · cases h
  | _ => cases h

/-- With an operator that can be read, a comparison fails for its operands only. -/
theorem compare_error {operator : String} {op : Operator} (hop : Operator.read operator = .ok op)
    {left right : Value} {error : Error} (h : e.compare operator left right = .error error) :
    ∃ detail, error = .expression detail := by
  unfold compare at h
  rw [hop] at h
  rcases Outcome.bind_eq_error.1 h with h | ⟨_, _, h⟩
  · cases h
  · rcases Outcome.bind_eq_error.1 h with h | ⟨a, _, h⟩
    · exact evaluate_error h
    · rcases Outcome.bind_eq_error.1 h with h | ⟨b, _, h⟩
      · exact evaluate_error h
      · exact Operator.compareValues_error h

end Evaluator

theorem Condition.acceptAll_error {e : Evaluator} {record : Record} {conditions : List Condition}
    (hread : ∀ c ∈ conditions, ∃ op, Operator.read c.operator = .ok op) {error : Error}
    (h : Condition.acceptAll e record conditions = .error error) :
    ∃ detail, error = .expression detail := by
  induction conditions with
  | nil => cases h
  | cons c rest ih =>
    obtain ⟨op, hop⟩ := hread c List.mem_cons_self
    rw [Condition.acceptAll] at h
    rcases Outcome.bind_eq_error.1 h with h | ⟨accepted, _, h⟩
    · rcases Outcome.bind_eq_error.1 h with h | ⟨result, _, h⟩
      · exact Evaluator.compare_error hop h
      · cases h
    · cases accepted with
      | true => exact ih (fun c' hc' => hread c' (List.mem_cons_of_mem c hc')) h
      | false => cases h

namespace RecordsetStore

theorem checkRecord_error {names : List String} {number : Nat} {record : Record} {e : Error}
    (h : checkRecord names number record = .error e) : ∃ detail, e = .recordset detail := by
  unfold checkRecord at h
  split at h
  · cases h
    exact ⟨_, rfl⟩
  · split at h
    · cases h
      exact ⟨_, rfl⟩
    · cases h

theorem checkFrom_error {names : List String} {number : Nat} {records : List Record} {e : Error}
    (h : checkFrom names number records = .error e) : ∃ detail, e = .recordset detail := by
  induction records generalizing number with
  | nil => cases h
  | cons record rest ih =>
    rcases Outcome.bind_eq_error.1 h with h | ⟨_, _, h⟩
    · exact checkRecord_error h
    · exact ih h

theorem store_error {s : RecordsetStore} {name : String} {records : List Record} {e : Error}
    (h : s.store name records = .error e) : ∃ detail, e = .recordset detail := by
  rcases Outcome.bind_eq_error.1 h with h | ⟨_, _, h⟩
  · cases records with
    | nil => cases h
    | cons record rest => exact checkFrom_error h
  · cases h

end RecordsetStore

/-! ## Actions -/

namespace Action

variable {α : Type} {P : Error → Prop}

theorem failsIn_ofExcept {r : Except Error α} (h : ∀ e, r = .error e → P e) :
    FailsIn P (ofExcept r) := by
  intro w
  rw [ensures_ofExcept]
  exact fun _ => h

/-- A statement fails with an error of the database. -/
theorem failsIn_call (h : ∀ detail, P (.database detail)) (call : Call)
    (hcall : call.isStatement = true) :
    FailsIn P (ofAttempt (ExceptT.mk (Dialogue.call call))) := by
  intro w
  rw [ensures_call]
  intro answer hregular e he
  obtain ⟨detail, rfl⟩ := hregular _ (List.mem_singleton.2 rfl) hcall e he
  exact h detail

theorem failsIn_noteRows (rows : Nat) : FailsIn P (noteRows rows) := by
  intro w
  rw [ensures_noteRows]
  intro _ e he
  cases he

/-- A variable can be bound under every name that a variable may have. -/
theorem failsIn_assign {name : String} (h : Reference.isVariableName name = true) (value : Value) :
    FailsIn P (assign name value) := by
  unfold assign
  refine FailsIn.get.bind fun w => ?_
  refine (failsIn_ofExcept ?_).bind fun evaluator => FailsIn.set _
  intro e he
  rw [Evaluator.assign, if_pos h] at he
  cases he

theorem failsIn_store (h : ∀ detail, P (.recordset detail)) (name : String)
    (records : List Record) : FailsIn P (store name records) := by
  unfold store
  refine FailsIn.get.bind fun w => ?_
  refine (failsIn_ofExcept ?_).bind fun recordsets => FailsIn.set _
  intro e he
  obtain ⟨detail, rfl⟩ := RecordsetStore.store_error he
  exact h detail

/-- What cannot fail goes over to what is behind it. -/
theorem failsIn_ofExcept_bind {β : Type} {r : Except Error α} {a : α} (hr : r = .ok a)
    {f : α → Action β} (hf : FailsIn P (f a)) : FailsIn P (ofExcept r >>= f) := by
  rw [hr]
  exact hf

end Action

section

variable {α : Type} {P : Error → Prop} {values : List Value} {index : Nat} {value : Value}

theorem failsIn_argument_bind (h : values[index]? = some value) {f : Value → Action α}
    (hf : FailsIn P (f value)) : FailsIn P (argument values index >>= f) := by
  unfold argument
  rw [h]
  exact hf

theorem failsIn_argumentText_bind (h : values[index]? = some value) {f : String → Action α}
    (hf : FailsIn P (f value.display)) : FailsIn P (argumentText values index >>= f) := by
  unfold argumentText argument
  rw [h]
  exact hf

end

/-! ## Commands whose failures are captured -/

/-- The errors that a command leaves in the channel: they lie in the data, the files and the
database, not in the script. -/
def Error.isCommandFailure : Error → Bool
  | .database _ | .expression _ | .recordset _ | .recordsetNotFound _ | .io _ => true
  | _ => false

namespace Command

variable {session : Session} {files : Files} {statement : String}

/-- The failures of commands. -/
abbrev FailsWell {α : Type} (x : Action α) : Prop := FailsIn (·.isCommandFailure = true) x

theorem failsWell_runStatement : FailsWell (runStatement ⟨some session, files, statement⟩) := by
  unfold runStatement
  refine (FailsIn.pure session).bind fun session => ?_
  refine (Action.failsIn_call (fun _ => rfl) (.execute session statement) rfl).bind fun rows => ?_
  exact (Action.failsIn_noteRows rows).bind fun _ => FailsIn.pure none

theorem failsWell_querySingle : FailsWell (querySingle ⟨some session, files, statement⟩) := by
  unfold querySingle
  refine (FailsIn.pure session).bind fun session => ?_
  exact Action.failsIn_call (fun _ => rfl) (.queryValue session statement) rfl

theorem failsWell_compare {operator : String} {op : Operator}
    (hop : Operator.read operator = .ok op) (left right : Value) :
    FailsWell (Action.compare operator left right) := by
  unfold Action.compare
  refine FailsIn.get.bind fun w => Action.failsIn_ofExcept ?_
  intro e he
  obtain ⟨detail, rfl⟩ := Evaluator.compare_error hop he
  rfl

theorem exists_of_condition {values : List Value}
    (hfits : List.Forall₂ ArgumentKind.Fits [.expression, .operator, .expression] values) :
    ∃ left operator right op, values = [left, operator, right] ∧
      Operator.read operator.display = .ok op := by
  obtain _ | ⟨_, _ | ⟨⟨op, hop⟩, _ | ⟨_, ⟨⟩⟩⟩⟩ := hfits
  exact ⟨_, _, _, op, rfl, hop⟩

theorem failsWell_condition {values : List Value}
    (hfits : List.Forall₂ ArgumentKind.Fits [.expression, .operator, .expression] values) :
    FailsWell (condition values) := by
  obtain ⟨left, operator, right, op, rfl, hop⟩ := exists_of_condition hfits
  unfold condition
  refine failsIn_argumentText_bind rfl (failsIn_argument_bind rfl (failsIn_argument_bind rfl ?_))
  exact failsWell_compare hop _ _

theorem failsWell_iterateOver {name : String} {conditions : List Condition}
    (hread : ∀ c ∈ conditions, ∃ op, Operator.read c.operator = .ok op) (records : List Record) :
    FailsWell (iterateOver session statement name conditions records) := by
  induction records with
  | nil => exact FailsIn.pure ()
  | cons record rest ih =>
    rw [iterateOver]
    refine FailsIn.get.bind fun w => ?_
    refine (Action.failsIn_ofExcept ?_).bind fun wanted => ?_
    · intro e he
      obtain ⟨detail, rfl⟩ := Condition.acceptAll_error hread he
      rfl
    · cases wanted with
      -- a record that does not meet the conditions is passed over
      | false => exact ih
      | true =>
        -- the failure is noted and thrown again
        refine (FailsIn.tryCatch ?_ ?_).bind fun _ => ih
        · refine (Action.failsIn_call (fun _ => rfl) (.execute session _) rfl).bind fun rows => ?_
          exact Action.failsIn_noteRows rows
        · intro e he
          exact (failsIn_modify _).bind fun _ => FailsIn.throw he

theorem failsWell_runIterate {values : List Value} (hfits : Command.iterate.Fits values) :
    FailsWell (runIterate ⟨some session, files, statement⟩ values) := by
  obtain ⟨name, conditions, rfl, hconditions⟩ := hfits
  obtain ⟨read, hread, hoperators⟩ := hconditions.exists_readAll
  unfold runIterate
  refine failsIn_argumentText_bind rfl ?_
  refine Action.failsIn_ofExcept_bind hread ?_
  refine FailsIn.get.bind fun w => ?_
  refine (Action.failsIn_ofExcept ?_).bind fun records => ?_
  · intro e he
    unfold RecordsetStore.records at he
    split at he
    · cases he
    · cases he
      rfl
  · refine (FailsIn.pure session).bind fun session => ?_
    exact (failsWell_iterateOver hoperators records).bind fun _ => FailsIn.pure none

/-- Finding paths fails by the pattern or by a path that cannot be looked at. -/
theorem isCommandFailure_of_pathRecords {pattern : String} {e : Error}
    (h : pathRecords files pattern = .error e) : e.isCommandFailure = true := by
  unfold pathRecords at h
  split at h
  · obtain ⟨found, _, hfails⟩ := Outcome.exists_of_mapM_eq_error h
    cases found with
    | ok path => cases hfails
    | error fault =>
      cases hfails
      rfl
  · cases h
    rfl

/-- **A command whose failure is captured** fails for reasons that lie in the data, the files and
the database. -/
theorem failsWell_perform {c : Command} (hcaptures : c.capturesErrors = true) {values : List Value}
    (hfits : c.Fits values) : FailsWell (c.perform ⟨some session, files, statement⟩ values) := by
  cases c with
  | assign =>
    obtain _ | ⟨hname, _ | ⟨_, ⟨⟩⟩⟩ := hfits
    refine failsIn_argumentText_bind rfl (failsIn_argument_bind rfl ?_)
    exact (Action.failsIn_assign hname _).bind fun _ => FailsIn.pure none
  | assignResult =>
    obtain _ | ⟨hname, ⟨⟩⟩ := hfits
    refine failsIn_argumentText_bind rfl ?_
    refine failsWell_querySingle.bind fun value => ?_
    exact (Action.failsIn_assign hname value).bind fun _ => FailsIn.pure none
  | execute => exact failsWell_runStatement
  | executeIf =>
    refine (failsWell_condition hfits).bind fun holds => ?_
    cases holds with
    | false => exact FailsIn.pure none
    | true => exact failsWell_runStatement
  | test =>
    obtain _ | ⟨⟨op, hop⟩, _ | ⟨_, ⟨⟩⟩⟩ := hfits
    refine failsIn_argumentText_bind rfl (failsIn_argument_bind rfl ?_)
    refine failsWell_querySingle.bind fun actual => ?_
    refine (failsWell_compare hop actual _).bind fun holds => ?_
    cases holds <;> exact FailsIn.pure _
  | recordset =>
    obtain _ | ⟨_, ⟨⟩⟩ := hfits
    refine failsIn_argumentText_bind rfl ?_
    refine (FailsIn.pure session).bind fun session => ?_
    refine (Action.failsIn_call (fun _ => rfl) (.queryRows session statement) rfl).bind ?_
    intro rows
    exact (Action.failsIn_store (fun _ => rfl) _ _).bind fun _ => FailsIn.pure none
  | removeRecordset =>
    obtain _ | ⟨_, ⟨⟩⟩ := hfits
    refine failsIn_argumentText_bind rfl ?_
    exact (failsIn_modify _).bind fun _ => FailsIn.pure none
  | iterate => exact failsWell_runIterate hfits
  | recordsetOfPaths =>
    obtain _ | ⟨_, _ | ⟨_, ⟨⟩⟩⟩ := hfits
    refine failsIn_argumentText_bind rfl (failsIn_argumentText_bind rfl ?_)
    refine (Action.failsIn_ofExcept fun e => isCommandFailure_of_pathRecords).bind fun records => ?_
    · exact (Action.failsIn_store (fun _ => rfl) _ records).bind fun _ => FailsIn.pure none
  | exitIf => cases hcaptures
  | exitStepIf => cases hcaptures
  | failIf => cases hcaptures
  | onError => cases hcaptures

/-! ## Commands that decide how the transform goes on -/

/-- The condition given by three arguments is their comparison, and changes nothing. -/
theorem ensures_condition {left operator right : Value} {w : Workspace}
    {Q : List Exchange → Except Error Bool → Workspace → Prop} :
    Ensures (condition [left, operator, right]) w Q ↔
      Q [] (w.evaluator.compare operator.display left right) w := Iff.rfl

/-- What follows a condition fails by itself, or the comparison fails before it. -/
theorem condition_bind_error {values : List Value}
    (hfits : List.Forall₂ ArgumentKind.Fits [.expression, .operator, .expression] values)
    {w : Workspace} {f : Bool → Action (Option Signal)} {P : Error → Prop}
    (hf : ∀ holds, Ensures (f holds) w fun _ r _ => ∀ e, r = .error e → P e) :
    Ensures (condition values >>= f) w fun _ r _ => ∀ e, r = .error e →
      P e ∨ ∃ left operator right, values = [left, operator, right] ∧
        w.evaluator.compare operator.display left right = .error e ∧
        ∃ detail, e = .expression detail := by
  obtain ⟨left, operator, right, op, rfl, hop⟩ := exists_of_condition hfits
  rw [Ensures.bind_iff, ensures_condition]
  cases hcompare : w.evaluator.compare operator.display left right with
  | error e =>
    intro e' he'
    cases he'
    exact .inr ⟨left, operator, right, rfl, hcompare, Evaluator.compare_error hop hcompare⟩
  | ok holds =>
    refine (hf holds).mono ?_
    intro _ r _ h e he
    exact .inl (h e he)

/-- **A command that looks at a condition only** fails in the comparison, or because it is told
to. -/
theorem perform_error_of_condition {c : Command}
    (hc : c = .exitIf ∨ c = .exitStepIf ∨ c = .failIf) {values : List Value}
    (hfits : c.Fits values) (around : Surroundings) (w : Workspace) :
    Ensures (c.perform around values) w fun _ r _ => ∀ e, r = .error e →
      (c = .failIf ∧ ∃ detail, e = .forced detail) ∨
      ∃ left operator right, values = [left, operator, right] ∧
        w.evaluator.compare operator.display left right = .error e ∧
        ∃ detail, e = .expression detail := by
  rcases hc with rfl | rfl | rfl
  · refine condition_bind_error hfits fun holds => ?_
    cases holds <;>
      · intro e he
        cases he
  · refine condition_bind_error hfits fun holds => ?_
    cases holds <;>
      · intro e he
        cases he
  · refine condition_bind_error hfits fun holds => ?_
    cases holds with
    | false =>
      intro e he
      cases he
    | true =>
      intro e he
      cases he
      exact ⟨rfl, _, rfl⟩

/-- **The error handler** fails because it is told to, or in its statement. -/
theorem runHandler_error {values : List Value} (hfits : Command.onError.Fits values)
    (session : Session) (files : Files) (statement : String) (w : Workspace) :
    Ensures (runHandler ⟨some session, files, statement⟩ values) w fun exchanges r _ =>
      ∀ e, r = .error e → (∃ detail, e = .forced detail) ∨
        ∃ argument sql, values = [argument] ∧
          HandlerAction.read argument.display = .ok .execute ∧
          exchanges = [⟨.execute session sql, .error e⟩] := by
  obtain ⟨argument, action, rfl, haction⟩ := hfits
  have hok : ∀ {signal : Option Signal} {e : Error} {P : Prop},
      (Except.ok signal : Except Error (Option Signal)) = .error e → P := by
    intro signal e P h
    cases h
  unfold runHandler argumentText StepScript.argument
  simp only [List.getElem?_cons_zero, Ensures.bind_iff, Ensures.map_iff, Ensures.pure_iff,
    Except.map, Action.ensures_ofExcept, haction, Ensures.get_iff]
  cases w.channel.pending with
  | none => exact fun e he => hok he
  | some e =>
    cases action with
    | resume => exact fun e he => hok he
    | exitStep => exact fun e he => hok he
    | fail =>
      intro e' he'
      cases he'
      exact .inl ⟨_, rfl⟩
    | execute =>
      simp only [Surroundings.need, Ensures.bind_iff, Ensures.pure_iff, Action.ensures_execute,
        List.nil_append]
      intro answer
      cases answer with
      | ok rows =>
        simp only [Action.ensures_noteRows, Ensures.modify_iff]
        exact fun e he => hok he
      | error e' =>
        intro e he
        cases he
        exact .inr ⟨argument, _, rfl, haction, rfl⟩

end Command

end StepScript
