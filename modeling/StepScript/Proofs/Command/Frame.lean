/-
# What commands leave alone

A command that succeeds changes at most one session variable or one recordset, and its name and its
first argument tell which.  A command that fails changes neither: each reads its arguments and asks
the database before it writes.  Only an iteration may have noted the rows of the records before the
one it fails at.
-/
import StepScript.Proofs.Command.Channel
import StepScript.Proofs.Interpreter.Journal

namespace StepScript

/-! ## Changes -/

/-- Two workspaces have the same environment, session variables and recordsets, except for one
variable and one recordset at most. -/
structure SameBut (assigned? recordset? : Option String) (w w' : Workspace) : Prop where
  environment : w'.evaluator.environment = w.evaluator.environment
  session : ∀ name, assigned? ≠ some name →
    w'.evaluator.session.get? name = w.evaluator.session.get? name
  recordsets : ∀ name, recordset? ≠ some name → w'.recordsets.get? name = w.recordsets.get? name

namespace SameBut

variable {assigned? recordset? : Option String} {w w' w'' : Workspace}

/-- The error channel is no part of the comparison. -/
theorem of_eq (hevaluator : w'.evaluator = w.evaluator)
    (hrecordsets : w'.recordsets = w.recordsets) : SameBut assigned? recordset? w w' := by
  refine ⟨by rw [hevaluator], fun name _ => by rw [hevaluator], fun name _ => by rw [hrecordsets]⟩

theorem refl (w : Workspace) : SameBut assigned? recordset? w w :=
  of_eq rfl rfl

theorem trans (h : SameBut assigned? recordset? w w') (h' : SameBut assigned? recordset? w' w'') :
    SameBut assigned? recordset? w w'' where
  environment := h'.environment.trans h.environment
  session name hname := (h'.session name hname).trans (h.session name hname)
  recordsets name hname := (h'.recordsets name hname).trans (h.recordsets name hname)

/-- Binding a variable changes no other one. -/
theorem insert_variable (w : Workspace) (name : String) (value : Value) :
    SameBut (some name) recordset? w { w with
      evaluator := { w.evaluator with session := w.evaluator.session.insert name value } } where
  environment := rfl
  session other hother := by
    have hne : name ≠ other := fun heq => hother (congrArg some heq)
    exact (Table.get?_insert _ _ _ _).trans (if_neg hne)
  recordsets _ _ := rfl

theorem noted (w : Workspace) (rows : Nat) :
    SameBut (some rowsVariable) recordset? w (Action.noted w rows) :=
  insert_variable w rowsVariable _

/-- Storing a recordset changes no other one. -/
theorem insert_recordset (w : Workspace) (name : String) (records : List Record) :
    SameBut assigned? (some name) w { w with recordsets := w.recordsets.insert name records } where
  environment := rfl
  session _ _ := rfl
  recordsets other hother := by
    have hne : name ≠ other := fun heq => hother (congrArg some heq)
    exact (Table.get?_insert _ _ _ _).trans (if_neg hne)

/-- Removing a recordset changes no other one. -/
theorem erase_recordset (w : Workspace) (name : String) :
    SameBut assigned? (some name) w { w with recordsets := w.recordsets.erase name } where
  environment := rfl
  session _ _ := rfl
  recordsets other hother := by
    have hne : name ≠ other := fun heq => hother (congrArg some heq)
    exact (Table.get?_erase _ _ _).trans (if_neg hne)

end SameBut

namespace Command

/-- The session variable that a command may change if it succeeds. -/
def assigned? (c : Command) (arguments : List Value) : Option String :=
  match c with
  | .assign | .assignResult => arguments[0]?.map Value.display
  | .execute | .executeIf | .iterate | .onError => some rowsVariable
  | _ => none

/-- The recordset that a command may change if it succeeds. -/
def recordset? (c : Command) (arguments : List Value) : Option String :=
  match c with
  | .recordset | .removeRecordset | .recordsetOfPaths => arguments[0]?.map Value.display
  | _ => none

/-- The session variable that a command may have changed before it failed. -/
def variableOfFailure? : Command → Option String
  | .iterate => some rowsVariable
  | _ => none

/-- A command has changed at most what it may, by how it ended. -/
structure Changes (c : Command) (arguments : List Value) (w : Workspace)
    (r : Except Error (Option Signal)) (w' : Workspace) : Prop where
  success : ∀ signal, r = .ok signal →
    SameBut (c.assigned? arguments) (c.recordset? arguments) w w'
  failure : ∀ e, r = .error e → SameBut c.variableOfFailure? none w w'

section

variable {c : Command} {arguments : List Value} {w w' : Workspace}

theorem changes_ok {signal : Option Signal}
    (h : SameBut (c.assigned? arguments) (c.recordset? arguments) w w') :
    c.Changes arguments w (.ok signal) w' :=
  ⟨fun _ _ => h, nofun⟩

theorem changes_error {e : Error} (h : SameBut c.variableOfFailure? none w w') :
    c.Changes arguments w (.error e) w' :=
  ⟨nofun, fun _ _ => h⟩

/-- A command that has changed nothing yet may end in any way. -/
theorem changes_self (r : Except Error (Option Signal)) : c.Changes arguments w r w :=
  ⟨fun _ _ => SameBut.refl w, fun _ _ => SameBut.refl w⟩

theorem changes_pure (signal : Option Signal) :
    Ensures (pure signal) w fun _ => c.Changes arguments w :=
  Ensures.pure_iff.2 (changes_self _)

theorem changes_throw (e : Error) : Ensures (throw e) w fun _ => c.Changes arguments w :=
  Ensures.throw_iff.2 (changes_self _)

/-- Behind a part that changes nothing, the rest of a command is looked at alone. -/
theorem ensures_changes_bind {α : Type} {x : Action α} {f : α → Action (Option Signal)}
    (hx : Keeps id x) (hf : ∀ a, Ensures (f a) w fun _ => c.Changes arguments w) :
    Ensures (x >>= f) w fun _ => c.Changes arguments w :=
  hx.ensures_bind (fun _ => changes_self _) hf

/-- Behind an argument, the rest of a command is looked at with the text of that argument. -/
theorem ensures_changes_argumentText {index : Nat} {f : String → Action (Option Signal)}
    (hf : ∀ name, arguments[index]?.map Value.display = some name →
      Ensures (f name) w fun _ => c.Changes arguments w) :
    Ensures (argumentText arguments index >>= f) w fun _ => c.Changes arguments w := by
  exact ensures_argumentText_bind (fun _ => changes_self _) hf

/-! ## Single writes -/

theorem changes_assign {name : String} (hname : c.assigned? arguments = some name) (value : Value) :
    Ensures (do Action.assign name value; pure none) w fun _ => c.Changes arguments w := by
  unfold Action.assign Evaluator.assign
  simp only [Ensures.bind_iff, Ensures.get_iff, Action.ensures_ofExcept, Ensures.set_iff,
    Ensures.pure_iff]
  by_cases hvalid : Reference.isVariableName name = true
  · rw [if_pos hvalid]
    refine changes_ok ?_
    rw [hname]
    exact SameBut.insert_variable w name value
  · rw [if_neg hvalid]
    exact changes_self _

theorem changes_store {name : String} (hname : c.recordset? arguments = some name)
    (records : List Record) :
    Ensures (do Action.store name records; pure none) w fun _ => c.Changes arguments w := by
  unfold Action.store RecordsetStore.store
  simp only [Ensures.bind_iff, Ensures.get_iff, Action.ensures_ofExcept, Ensures.set_iff,
    Ensures.pure_iff]
  cases RecordsetStore.check records with
  | error e => exact changes_self _
  | ok _ =>
    refine changes_ok ?_
    rw [hname]
    exact SameBut.insert_recordset w name records

theorem changes_runStatement (hrows : c.assigned? arguments = some rowsVariable)
    (around : Surroundings) :
    Ensures (runStatement around) w fun _ => c.Changes arguments w := by
  unfold runStatement
  refine ensures_changes_bind (keeps_need around) fun session => ?_
  simp only [Ensures.bind_iff, Action.ensures_execute]
  intro answer
  cases answer with
  | error e => exact changes_self _
  | ok rows =>
    simp only [Action.ensures_noteRows, Ensures.pure_iff]
    refine changes_ok ?_
    rw [hrows]
    exact SameBut.noted w rows

end

/-! ## The iteration and the handler -/

/-- However far an iteration comes, it changes the number of rows only. -/
theorem iterateOver_sameBut (session : Session) (statement name : String)
    (conditions : List Condition) (records : List Record) (w : Workspace) :
    Ensures (iterateOver session statement name conditions records) w fun _ _ w' =>
      SameBut (some rowsVariable) none w w' := by
  induction records generalizing w with
  | nil =>
    rw [iterateOver, Ensures.pure_iff]
    exact SameBut.refl w
  | cons record records ih =>
    rw [iterateOver]
    simp only [Ensures.bind_iff, Ensures.get_iff, Action.ensures_ofExcept]
    cases Condition.acceptAll w.evaluator record conditions with
    | error e => exact SameBut.refl w
    | ok wanted =>
      cases wanted with
      | false => exact ih w
      | true =>
        simp only [if_true, Ensures.tryCatch_iff, Ensures.bind_iff, Action.ensures_execute]
        intro answer
        cases answer with
        | error e =>
          simp only [Ensures.modify_iff, Ensures.throw_iff]
          exact SameBut.of_eq rfl rfl
        | ok rows =>
          simp only [Action.ensures_noteRows]
          refine (ih (Action.noted w rows)).mono ?_
          intro _ _ w' h
          exact (SameBut.noted w rows).trans h

theorem changes_runIterate (around : Surroundings) (arguments : List Value) (w : Workspace) :
    Ensures (runIterate around arguments) w fun _ => iterate.Changes arguments w := by
  unfold runIterate
  refine ensures_changes_bind (keeps_argumentText arguments 0) fun name => ?_
  refine ensures_changes_bind (Action.keeps_ofExcept _) fun conditions => ?_
  refine ensures_changes_bind Keeps.get fun w₀ => ?_
  refine ensures_changes_bind (Action.keeps_ofExcept _) fun records => ?_
  refine ensures_changes_bind (keeps_need around) fun session => ?_
  rw [Ensures.bind_iff]
  refine (iterateOver_sameBut session around.statement name conditions records w).mono ?_
  intro before r w' h
  cases r with
  | error e => exact changes_error h
  | ok _ =>
    rw [Ensures.pure_iff]
    exact changes_ok h

theorem changes_runHandler (around : Surroundings) (arguments : List Value) (w : Workspace) :
    Ensures (runHandler around arguments) w fun _ => onError.Changes arguments w := by
  unfold runHandler
  refine ensures_changes_bind (keeps_argumentText arguments 0) fun text => ?_
  rw [Ensures.bind_iff, Action.ensures_ofExcept]
  cases HandlerAction.read text with
  | error e => exact changes_self _
  | ok action =>
    simp only [Ensures.bind_iff, Ensures.get_iff]
    cases w.channel.pending with
    | none => exact changes_pure none
    | some e =>
      cases action with
      | resume =>
        simp only [Ensures.bind_iff, Ensures.set_iff, Ensures.pure_iff]
        exact changes_ok (SameBut.of_eq rfl rfl)
      | exitStep =>
        simp only [Ensures.bind_iff, Ensures.set_iff, Ensures.pure_iff]
        exact changes_ok (SameBut.of_eq rfl rfl)
      | execute =>
        refine ensures_changes_bind (keeps_need around) fun session => ?_
        simp only [Ensures.bind_iff, Action.ensures_execute]
        intro answer
        cases answer with
        | error e => exact changes_self _
        | ok rows =>
          simp only [Action.ensures_noteRows, Ensures.modify_iff, Ensures.pure_iff]
          -- the channel is emptied behind the note
          exact changes_ok ((SameBut.noted w rows).trans (SameBut.of_eq rfl rfl))
      | fail => exact changes_throw _

/-! ## All commands -/

/-- **What a command may change.** -/
theorem changes_perform (c : Command) (around : Surroundings) (arguments : List Value)
    (w : Workspace) :
    Ensures (c.perform around arguments) w fun _ => c.Changes arguments w := by
  cases c with
  | assign =>
    refine ensures_changes_argumentText fun name hname => ?_
    refine ensures_changes_bind (keeps_argument arguments 1) fun value => ?_
    exact changes_assign (c := .assign) hname value
  | assignResult =>
    refine ensures_changes_argumentText fun name hname => ?_
    refine ensures_changes_bind (keeps_querySingle around) fun value => ?_
    exact changes_assign (c := .assignResult) hname value
  | execute => exact changes_runStatement rfl around
  | executeIf =>
    refine ensures_changes_bind (keeps_condition arguments) fun holds => ?_
    cases holds
    · exact changes_pure none
    · exact changes_runStatement rfl around
  | test =>
    refine ensures_changes_bind (keeps_argumentText arguments 0) fun operator => ?_
    refine ensures_changes_bind (keeps_argument arguments 1) fun expected => ?_
    refine ensures_changes_bind (keeps_querySingle around) fun actual => ?_
    refine ensures_changes_bind (Action.keeps_compare operator actual expected) fun holds => ?_
    cases holds <;> exact changes_pure _
  | exitIf =>
    refine ensures_changes_bind (keeps_condition arguments) fun holds => ?_
    cases holds <;> exact changes_pure _
  | exitStepIf =>
    refine ensures_changes_bind (keeps_condition arguments) fun holds => ?_
    cases holds <;> exact changes_pure _
  | failIf =>
    refine ensures_changes_bind (keeps_condition arguments) fun holds => ?_
    cases holds
    · exact changes_pure none
    · exact changes_throw _
  | recordset =>
    refine ensures_changes_argumentText fun name hname => ?_
    refine ensures_changes_bind (keeps_need around) fun session => ?_
    refine ensures_changes_bind (Action.keeps_ofAttempt _) fun rows => ?_
    exact changes_store (c := .recordset) hname _
  | removeRecordset =>
    refine ensures_changes_argumentText fun name hname => ?_
    simp only [Ensures.bind_iff, Ensures.modify_iff, Ensures.pure_iff]
    refine changes_ok ?_
    rw [show removeRecordset.recordset? arguments = some name from hname]
    exact SameBut.erase_recordset w name
  | iterate => exact changes_runIterate around arguments w
  | recordsetOfPaths =>
    refine ensures_changes_argumentText fun name hname => ?_
    refine ensures_changes_bind (keeps_argumentText arguments 1) fun pattern => ?_
    refine ensures_changes_bind (Action.keeps_ofExcept _) fun records => ?_
    exact changes_store (c := .recordsetOfPaths) hname records
  | onError => exact changes_runHandler around arguments w

/-! ## Captured failures -/

/-- What a run of a command has done to the workspace, by how the command ended. -/
structure Framed (c : Command) (arguments : List Value) (w : Workspace)
    (r : Except Error (Option Signal)) (w' : Workspace) : Prop
    extends Changes c arguments w r w' where
  /-- Only the handler takes a failure out of the channel. -/
  pending : c ≠ .onError → w.channel.hasPending = true → w'.channel.hasPending = true
  /-- A success leaves no failure that was not there. -/
  quiet : ∀ signal, r = .ok signal → ∀ e, w'.channel.pending = some e → w.channel.pending = some e

/-- Whether a failure is captured or not makes a difference to the channel only. -/
theorem Changes.settle {c : Command} {arguments : List Value} {w w' : Workspace}
    {r : Except Error (Option Signal)} (h : c.Changes arguments w r w') :
    c.Changes arguments w r (c.settle (r, w')).2 := by
  cases r with
  | ok signal => exact h
  | error e =>
    refine changes_error ?_
    rw [Command.settle]
    split
    · exact (h.failure e rfl).trans (SameBut.of_eq rfl rfl)
    · exact h.failure e rfl

/-- A command that is no handler leaves a failure in the channel, its own or the one before. -/
theorem hasPending_settle {c : Command} {w w' : Workspace} {r : Except Error (Option Signal)}
    (h : w'.channel.pending = w.channel.pending) (hpending : w.channel.hasPending = true) :
    (c.settle (r, w')).2.channel.hasPending = true := by
  have hkept : w'.channel.hasPending = true := by rwa [ErrorChannel.hasPending, h]
  cases r with
  | ok signal => exact hkept
  | error e =>
    rw [Command.settle]
    split
    · rfl
    · exact hkept

/-- A command that succeeds leaves the failure in the channel as it is, or none. -/
theorem perform_quiet (c : Command) (around : Surroundings) (arguments : List Value)
    (w : Workspace) :
    Ensures (c.perform around arguments) w fun _ r w' => ∀ signal, r = .ok signal →
      ∀ e, w'.channel.pending = some e → w.channel.pending = some e := by
  by_cases hhandler : c = .onError
  · subst hhandler
    refine (runHandler_channel around arguments w).mono ?_
    intro _ r w' h signal hr e he
    rcases h signal hr with ⟨_, _, rfl⟩ | ⟨hempty, _⟩
    · exact he
    · rw [hempty] at he
      cases he
  · refine (perform_channel hhandler around arguments w).mono ?_
    intro _ r w' h signal _ e he
    rw [← h.1, he]

/-- **What a command leaves alone.**  A run of a command ends as the command did, a captured failure
being left in the channel.  If the command failed, the environment, the session variables and the
recordsets are as before, except that an iteration may have noted rows; if it succeeded, they differ
at most in the variable or the recordset that the command is there to change.  A failure in the
channel stays there unless the command is the handler, and a success adds none. -/
theorem run_framed (c : Command) (around : Surroundings) (arguments : List Value) (w : Workspace) :
    Ensures (c.run around arguments) w fun exchanges outcome w' =>
      ∃ r left, ((c.perform around arguments).run.run w).Leads exchanges (r, left) ∧
        (outcome, w') = c.settle (r, left) ∧ c.Framed arguments w r w' := by
  unfold Ensures
  rw [Command.run_eq_settle, Dialogue.always_map]
  refine Dialogue.always_iff.2 fun exchanges result hleads => ?_
  obtain ⟨r, left⟩ := result
  have hchanges := Dialogue.always_iff.1 (changes_perform c around arguments w) _ _ hleads
  have hquiet := Dialogue.always_iff.1 (perform_quiet c around arguments w) _ _ hleads
  refine ⟨r, left, hleads, rfl, hchanges.settle, ?_, ?_⟩
  · intro hhandler hpending
    have hchannel := Dialogue.always_iff.1 (perform_channel hhandler around arguments w) _ _ hleads
    exact hasPending_settle hchannel.1 hpending
  · rintro signal rfl
    exact hquiet signal rfl

end Command

end StepScript
