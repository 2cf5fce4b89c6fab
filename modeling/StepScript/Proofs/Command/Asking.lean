/-
# What commands and runs ask

Commands and runs of scripts only run statements and queries, and only in the session they were
given.  They open no session and close none.
-/
import StepScript.Interpreter
import StepScript.Proofs.Command.Ensures

namespace StepScript

/-- A statement or a query in a session. -/
def Call.IsStatementOn (session : Session) : Call → Prop
  | .execute s _ => s = session
  | .queryValue s _ => s = session
  | .queryRows s _ => s = session
  | _ => False

/-! ## Attempts -/

namespace Attempt

variable (session : Session) (sql : String)

theorem asks_execute : (execute session sql).run.Asks (Call.IsStatementOn session) :=
  ⟨rfl, fun _ => trivial⟩

theorem asks_queryValue : (queryValue session sql).run.Asks (Call.IsStatementOn session) :=
  ⟨rfl, fun _ => trivial⟩

theorem asks_queryRows : (queryRows session sql).run.Asks (Call.IsStatementOn session) :=
  ⟨rfl, fun _ => trivial⟩

theorem asks_bind {α β : Type} {P : Call → Prop} {x : Attempt α} {f : α → Attempt β}
    (hx : x.run.Asks P) (hf : ∀ a, (f a).run.Asks P) : (x >>= f).run.Asks P := by
  rw [ExceptT.run_bind]
  refine hx.bind fun r => ?_
  cases r with
  | ok a => exact hf a
  | error e => trivial

end Attempt

/-! ## Parts of commands and runs -/

/-- Every call of an action has a property. -/
def AsksOnly {σ α : Type} (P : Call → Prop) (x : Stateful σ α) : Prop :=
  ∀ s, (x.run.run s).Asks P

namespace AsksOnly

variable {σ α β : Type} {P : Call → Prop}

theorem pure (a : α) : AsksOnly P (Pure.pure a : Stateful σ α) := fun _ => trivial

theorem throw (e : Error) : AsksOnly P (MonadExcept.throw e : Stateful σ α) := fun _ => trivial

theorem get : AsksOnly P (MonadState.get : Stateful σ σ) := fun _ => trivial

theorem set (s : σ) : AsksOnly P (MonadStateOf.set s : Stateful σ PUnit) := fun _ => trivial

theorem bind {x : Stateful σ α} {f : α → Stateful σ β} (hx : AsksOnly P x)
    (hf : ∀ a, AsksOnly P (f a)) : AsksOnly P (x >>= f) := by
  intro s
  rw [ExceptT.run_bind, StateT.run_bind]
  refine (hx s).bind ?_
  rintro ⟨e | a, s'⟩
  · trivial
  · exact hf a s'

theorem map {x : Stateful σ α} (hx : AsksOnly P x) (f : α → β) : AsksOnly P (f <$> x) := by
  rw [← bind_pure_comp]
  exact hx.bind fun a => pure (f a)

theorem tryCatch {x : Stateful σ α} {f : Error → Stateful σ α} (hx : AsksOnly P x)
    (hf : ∀ e, AsksOnly P (f e)) : AsksOnly P (MonadExcept.tryCatch x f) := by
  intro s
  rw [ExceptT.run_tryCatch, StateT.run_bind]
  refine (hx s).bind ?_
  rintro ⟨e | a, s'⟩
  · exact hf e s'
  · trivial

end AsksOnly

theorem asksOnly_modify {σ : Type} {P : Call → Prop} (f : σ → σ) :
    AsksOnly P (modify f : Stateful σ PUnit) := fun _ => trivial

/-! ## Actions -/

namespace Action

variable {α : Type} {P : Call → Prop}

theorem asksOnly_ofExcept (r : Except Error α) : AsksOnly P (ofExcept r) := fun _ => trivial

theorem asksOnly_ofAttempt {attempt : Attempt α} (h : attempt.run.Asks P) :
    AsksOnly P (ofAttempt attempt) := by
  intro w
  show (attempt.run >>= fun r => Dialogue.done (r, w)).Asks P
  exact h.bind fun _ => trivial

theorem asksOnly_execute (session : Session) (sql : String) :
    AsksOnly (Call.IsStatementOn session) (ofAttempt (Attempt.execute session sql)) :=
  asksOnly_ofAttempt (Attempt.asks_execute session sql)

theorem asksOnly_queryValue (session : Session) (sql : String) :
    AsksOnly (Call.IsStatementOn session) (ofAttempt (Attempt.queryValue session sql)) :=
  asksOnly_ofAttempt (Attempt.asks_queryValue session sql)

theorem asksOnly_queryRows (session : Session) (sql : String) :
    AsksOnly (Call.IsStatementOn session) (ofAttempt (Attempt.queryRows session sql)) :=
  asksOnly_ofAttempt (Attempt.asks_queryRows session sql)

theorem asksOnly_assign (name : String) (value : Value) : AsksOnly P (assign name value) :=
  AsksOnly.get.bind fun _ => (asksOnly_ofExcept _).bind fun _ => AsksOnly.set _

theorem asksOnly_noteRows (rows : Nat) : AsksOnly P (noteRows rows) :=
  asksOnly_assign rowsVariable _

theorem asksOnly_store (name : String) (records : List Record) : AsksOnly P (store name records) :=
  AsksOnly.get.bind fun _ => (asksOnly_ofExcept _).bind fun _ => AsksOnly.set _

theorem asksOnly_compare (operator : String) (left right : Value) :
    AsksOnly P (compare operator left right) :=
  AsksOnly.get.bind fun _ => asksOnly_ofExcept _

end Action

section

variable {P : Call → Prop}

theorem asksOnly_argument (arguments : List Value) (index : Nat) :
    AsksOnly P (argument arguments index) := by
  unfold argument
  split
  · exact AsksOnly.pure _
  · exact AsksOnly.throw _

theorem asksOnly_argumentText (arguments : List Value) (index : Nat) :
    AsksOnly P (argumentText arguments index) :=
  (asksOnly_argument arguments index).map Value.display

end

/-! ## Commands -/

namespace Command

variable (session : Session) (files : Files) (body : String)

theorem asksOnly_condition {P : Call → Prop} (arguments : List Value) :
    AsksOnly P (condition arguments) := by
  refine (asksOnly_argumentText arguments 1).bind fun operator => ?_
  refine (asksOnly_argument arguments 0).bind fun left => ?_
  refine (asksOnly_argument arguments 2).bind fun right => ?_
  exact Action.asksOnly_compare operator left right

/-- The session of a command that has one is the only one it talks to. -/
theorem asksOnly_need_bind {α : Type} {f : Session → Action α}
    (hf : AsksOnly (Call.IsStatementOn session) (f session)) :
    AsksOnly (Call.IsStatementOn session)
      ((⟨some session, files, body⟩ : Surroundings).need >>= f) := hf

theorem asksOnly_runStatement :
    AsksOnly (Call.IsStatementOn session) (runStatement ⟨some session, files, body⟩) := by
  refine asksOnly_need_bind session files body ?_
  refine (Action.asksOnly_execute session _).bind fun rows => ?_
  exact (Action.asksOnly_noteRows rows).bind fun _ => AsksOnly.pure none

theorem asksOnly_querySingle :
    AsksOnly (Call.IsStatementOn session) (querySingle ⟨some session, files, body⟩) :=
  asksOnly_need_bind session files body (Action.asksOnly_queryValue session body)

theorem asksOnly_iterateOver (statement name : String) (conditions : List Condition)
    (records : List Record) :
    AsksOnly (Call.IsStatementOn session)
      (iterateOver session statement name conditions records) := by
  induction records with
  | nil => exact AsksOnly.pure ()
  | cons record rest ih =>
    unfold iterateOver
    refine AsksOnly.get.bind fun w => ?_
    refine (Action.asksOnly_ofExcept _).bind fun wanted => ?_
    have hrecord : AsksOnly (Call.IsStatementOn session) (tryCatch
        (do
          let rows ← Action.ofAttempt (Attempt.execute session (fillRecord name record statement))
          Action.noteRows rows)
        (fun e => do
          modify fun w => { w with channel := w.channel.note record }
          throw e) : Action Unit) := by
      refine AsksOnly.tryCatch ?_ ?_
      · refine (Action.asksOnly_execute session _).bind fun rows => ?_
        exact Action.asksOnly_noteRows rows
      · intro e
        exact (asksOnly_modify _).bind fun _ => AsksOnly.throw e
    cases wanted with
    | true => exact hrecord.bind fun _ => ih
    | false => exact ih

theorem asksOnly_runIterate (arguments : List Value) :
    AsksOnly (Call.IsStatementOn session) (runIterate ⟨some session, files, body⟩ arguments) := by
  refine (asksOnly_argumentText arguments 0).bind fun name => ?_
  refine (Action.asksOnly_ofExcept _).bind fun conditions => ?_
  refine AsksOnly.get.bind fun w => ?_
  refine (Action.asksOnly_ofExcept _).bind fun records => ?_
  refine asksOnly_need_bind session files body ?_
  refine (asksOnly_iterateOver session body name conditions records).bind fun _ => ?_
  exact AsksOnly.pure none

theorem asksOnly_runHandler (arguments : List Value) :
    AsksOnly (Call.IsStatementOn session) (runHandler ⟨some session, files, body⟩ arguments) := by
  unfold runHandler
  refine (asksOnly_argumentText arguments 0).bind fun text => ?_
  generalize HandlerAction.read text = read
  refine (Action.asksOnly_ofExcept read).bind fun action => ?_
  refine AsksOnly.get.bind fun w => ?_
  cases w.channel.pending with
  | none => exact AsksOnly.pure none
  | some e =>
    cases action with
    | resume => exact (AsksOnly.set _).bind fun _ => AsksOnly.pure none
    | exitStep => exact (AsksOnly.set _).bind fun _ => AsksOnly.pure _
    | execute =>
      refine asksOnly_need_bind session files body ?_
      refine (Action.asksOnly_execute session _).bind fun rows => ?_
      refine (Action.asksOnly_noteRows rows).bind fun _ => ?_
      exact (asksOnly_modify _).bind fun _ => AsksOnly.pure none
    | fail => exact AsksOnly.throw _

theorem asksOnly_perform (c : Command) (arguments : List Value) :
    AsksOnly (Call.IsStatementOn session) (c.perform ⟨some session, files, body⟩ arguments) := by
  cases c with
  | assign =>
    refine (asksOnly_argumentText arguments 0).bind fun name => ?_
    refine (asksOnly_argument arguments 1).bind fun value => ?_
    exact (Action.asksOnly_assign name value).bind fun _ => AsksOnly.pure none
  | assignResult =>
    refine (asksOnly_argumentText arguments 0).bind fun name => ?_
    refine (asksOnly_querySingle session files body).bind fun value => ?_
    exact (Action.asksOnly_assign name value).bind fun _ => AsksOnly.pure none
  | execute => exact asksOnly_runStatement session files body
  | executeIf =>
    refine (asksOnly_condition arguments).bind fun holds => ?_
    cases holds with
    | true => exact asksOnly_runStatement session files body
    | false => exact AsksOnly.pure none
  | test =>
    refine (asksOnly_argumentText arguments 0).bind fun operator => ?_
    refine (asksOnly_argument arguments 1).bind fun expected => ?_
    refine (asksOnly_querySingle session files body).bind fun actual => ?_
    refine (Action.asksOnly_compare operator actual expected).bind fun holds => ?_
    cases holds <;> exact AsksOnly.pure _
  | exitIf =>
    refine (asksOnly_condition arguments).bind fun holds => ?_
    cases holds <;> exact AsksOnly.pure _
  | exitStepIf =>
    refine (asksOnly_condition arguments).bind fun holds => ?_
    cases holds <;> exact AsksOnly.pure _
  | failIf =>
    refine (asksOnly_condition arguments).bind fun holds => ?_
    cases holds with
    | true => exact AsksOnly.throw _
    | false => exact AsksOnly.pure none
  | recordset =>
    refine (asksOnly_argumentText arguments 0).bind fun name => ?_
    refine asksOnly_need_bind session files body ?_
    refine (Action.asksOnly_queryRows session body).bind fun rows => ?_
    exact (Action.asksOnly_store name _).bind fun _ => AsksOnly.pure none
  | removeRecordset =>
    refine (asksOnly_argumentText arguments 0).bind fun name => ?_
    exact (asksOnly_modify _).bind fun _ => AsksOnly.pure none
  | iterate => exact asksOnly_runIterate session files body arguments
  | recordsetOfPaths =>
    refine (asksOnly_argumentText arguments 0).bind fun name => ?_
    refine (asksOnly_argumentText arguments 1).bind fun pattern => ?_
    refine (Action.asksOnly_ofExcept _).bind fun records => ?_
    exact (Action.asksOnly_store name records).bind fun _ => AsksOnly.pure none
  | onError => exact asksOnly_runHandler session files body arguments

/-- A command only runs statements and queries in its session. -/
theorem asksOnly_run (c : Command) (arguments : List Value) :
    AsksOnly (Call.IsStatementOn session) (c.run ⟨some session, files, body⟩ arguments) := by
  unfold Command.run
  split
  · refine (asksOnly_perform session files body c arguments).tryCatch fun e => ?_
    exact (asksOnly_modify _).bind fun _ => AsksOnly.pure none
  · exact asksOnly_perform session files body c arguments

end Command

/-! ## Runs -/

theorem asksOnly_raisePending {P : Call → Prop} : AsksOnly P Action.raisePending := by
  refine AsksOnly.get.bind fun w => ?_
  refine (AsksOnly.set _).bind fun _ => ?_
  cases w.channel.pending with
  | some e => exact AsksOnly.throw _
  | none => exact AsksOnly.pure ()

theorem asksOnly_runNext (registry : Registry Known) (session : Session) (files : Files)
    (s : Statement) :
    AsksOnly (Call.IsStatementOn session) (Action.runNext registry (some session) files s) := by
  have hstatement : AsksOnly (Call.IsStatementOn session)
      (Action.runStatement registry (some session) files s) := by
    refine AsksOnly.bind (AsksOnly.get.bind fun w => Action.asksOnly_ofExcept _) fun arguments => ?_
    refine AsksOnly.get.bind fun w => ?_
    refine (Action.asksOnly_ofExcept _).bind fun c => ?_
    exact Command.asksOnly_run session files _ c arguments
  unfold Action.runNext
  split
  · exact asksOnly_raisePending.bind fun _ => hstatement
  · exact hstatement

theorem Run.asksOnly_ofAction {α : Type} {P : Call → Prop} {x : Action α} (h : AsksOnly P x) :
    AsksOnly P (Run.ofAction x) := by
  intro p
  show (x.run.run p.workspace >>= fun r => Dialogue.done (r.1, { p with workspace := r.2 })).Asks P
  exact (h p.workspace).bind fun _ => trivial

section

variable {σ : Type} {P : Call → Prop} {enter : Script → Stateful σ Unit}
  {perform : Nat → Statement → Stateful σ (Option Signal)} {leave : Stateful σ Unit}

theorem asksOnly_performEach (hperform : ∀ number s, AsksOnly P (perform number s)) (number : Nat)
    (statements : List Statement) : AsksOnly P (performEach perform number statements) := by
  induction statements generalizing number with
  | nil => exact AsksOnly.pure none
  | cons s rest ih =>
    refine (hperform number s).bind fun signal => ?_
    cases signal with
    | none => exact ih (number + 1)
    | some signal => exact AsksOnly.pure _

theorem asksOnly_performAll (henter : ∀ script, AsksOnly P (enter script))
    (hperform : ∀ number s, AsksOnly P (perform number s)) (hleave : AsksOnly P leave)
    (scripts : List Script) : AsksOnly P (performAll enter perform leave scripts) := by
  induction scripts with
  | nil => exact AsksOnly.pure ()
  | cons script rest ih =>
    refine (henter script).bind fun _ => ?_
    refine (asksOnly_performEach hperform 1 script.statements).bind fun signal => ?_
    match signal with
    | none => exact hleave.bind fun _ => ih
    | some .stepExit => exact ih
    | some .transformExit => exact AsksOnly.pure ()

end

/-- **A run of scripts only runs statements and queries in its session.** -/
theorem asksOnly_scripts (registry : Registry Known) (session : Session) (files : Files)
    (scripts : List Script) :
    AsksOnly (Call.IsStatementOn session) (Run.scripts registry session files scripts) := by
  refine asksOnly_performAll (fun script => asksOnly_modify _) (fun number s => ?_)
    (Run.asksOnly_ofAction asksOnly_raisePending) scripts
  refine (asksOnly_modify _).bind fun _ => ?_
  exact Run.asksOnly_ofAction (asksOnly_runNext registry session files s)

end StepScript
