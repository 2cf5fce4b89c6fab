/-
# Names as they are written

The name of a variable or of a recordset in a tag is checked as it stands there, evaluated like any
other argument, and used as the text of its value.  The text is the name, except for the words for
truth values: these are written out in lower case, however the tag spells them.
-/
import StepScript.Proofs.Command.Iteration
import StepScript.Proofs.Command.Recordsets
import StepScript.Proofs.Interpreter.Handling
import StepScript.Proofs.Interpreter.Visits

namespace StepScript

open RecordsetStore

/-! ## The spelling of an argument -/

/-- Whether the value of a name is written like the name. -/
def KeepsSpelling (name : String) : Prop :=
  IsTruthWord name.toList → name = "true" ∨ name = "false"

/-- **Evaluation keeps the spelling of a name** exactly if it is no word for a truth value, or one
in lower case. -/
theorem Evaluator.display_evaluate_iff (e : Evaluator) {name : String} {v : Value}
    (ht : IsToken name.toList) (hname : Text.isName name.toList = true)
    (hv : e.evaluate (.text name) = .ok v) : v.display = name ↔ KeepsSpelling name := by
  rw [e.evaluate_of_isBare ht (isBare_of_isName hname)] at hv
  split at hv
  next htrue =>
    cases hv
    constructor
    · intro h _
      exact .inl h.symm
    · intro h
      rcases h (.inl htrue) with rfl | rfl
      · rfl
      · exact absurd htrue (by decide)
  next htrue =>
    split at hv
    next hfalse =>
      cases hv
      constructor
      · intro h _
        exact .inr h.symm
      · intro h
        rcases h (.inr hfalse) with rfl | rfl
        · exact absurd hfalse (by decide)
        · rfl
    next hfalse =>
      cases hv
      exact ⟨fun _ h => absurd h (by rintro (h | h) <;> contradiction), fun _ => rfl⟩

/-! ## Commands that take a name -/

namespace Command

/-- Whether the first argument of a command is the name of a variable or of a recordset. -/
def namesFirst (c : Command) : Bool :=
  c.argumentKinds.head? == some .variableName || c.argumentKinds.head? == some .recordsetName

theorem isName_of_accepts {c : Command} (hc : c.namesFirst = true) {name : String}
    {rest : List String} (ht : IsToken name.toList) (h : c.accepts (name :: rest) = true) :
    Text.isName name.toList = true := by
  have hvariable : ∀ {kinds}, acceptsArguments (.variableName :: kinds) (name :: rest) = true →
      Text.isName name.toList = true := by
    intro kinds h
    simp only [acceptsArguments, ArgumentKind.accepts, ht.trimmed, Bool.and_eq_true] at h
    exact Reference.isName_of_isVariableName h.1
  have hrecordset : ∀ {kinds}, acceptsArguments (.recordsetName :: kinds) (name :: rest) = true →
      Text.isName name.toList = true := by
    intro kinds h
    simp only [acceptsArguments, ArgumentKind.accepts, ht.trimmed, Reference.isRecordsetName,
      ht.trim, Bool.and_eq_true] at h
    exact h.1
  cases c with
  | assign => exact hvariable h
  | assignResult => exact hvariable h
  | recordset => exact hrecordset h
  | removeRecordset => exact hrecordset h
  | recordsetOfPaths => exact hrecordset h
  | iterate =>
    simp only [accepts, Reference.isRecordsetName, ht.trim, Bool.and_eq_true] at h
    exact h.1
  | _ => exact absurd hc (by decide)

/-- What a command has done with the variable or the recordset of a name when it has succeeded. -/
inductive Uses (name : String) (values : List Value) (session : Session) (files : Files)
    (statement : String) (w : Workspace) : Command → List Exchange → Workspace → Prop
  | assign {value : Value} {w' : Workspace} (hvalue : values.head? = some value)
      (hbound : w'.evaluator.session.get? name = some value)
      (hothers : SameBut (some name) none w w') :
      Uses name values session files statement w .assign [] w'
  | assignResult {value : Value} {w' : Workspace}
      (hbound : w'.evaluator.session.get? name = some value)
      (hothers : SameBut (some name) none w w') :
      Uses name values session files statement w .assignResult
        [⟨.queryValue session statement, .ok value⟩] w'
  | recordset {rows : List Record} {w' : Workspace}
      (hstored : w'.recordsets.get? name = some (rows.map (Table.map fieldValue)))
      (hothers : SameBut none (some name) w w') :
      Uses name values session files statement w .recordset
        [⟨.queryRows session statement, .ok rows⟩] w'
  | recordsetOfPaths {pattern : Value} {records : List Record} {w' : Workspace}
      (hpattern : values.head? = some pattern)
      (hrecords : pathRecords files pattern.display = .ok records)
      (hstored : w'.recordsets.get? name = some records)
      (hothers : SameBut none (some name) w w') :
      Uses name values session files statement w .recordsetOfPaths [] w'
  | removeRecordset {w' : Workspace} (hremoved : w'.recordsets.get? name = none)
      (hothers : SameBut none (some name) w w') :
      Uses name values session files statement w .removeRecordset [] w'
  | iterate {conditions : List Condition} {records : List Record} {exchanges : List Exchange}
      {w' : Workspace} (hconditions : Condition.readAll values = .ok conditions)
      (hrecords : w.recordsets.get? name = some records)
      (h : Iteration.Passes ⟨session, statement, name, conditions⟩ w records exchanges w') :
      Uses name values session files statement w .iterate exchanges w'

/-! ## What each of them does -/

/-- A variable that could be bound has the value. -/
theorem ensures_assign_bind (name : String) (value : Value) (w : Workspace) :
    Ensures (do Action.assign name value; pure none) w
      fun exchanges (r : Except Error (Option Signal)) w' => exchanges = [] ∧
        ∀ signal, r = .ok signal → w'.evaluator.session.get? name = some value := by
  unfold Action.assign Evaluator.assign
  simp only [Ensures.bind_iff, Ensures.get_iff, Action.ensures_ofExcept, Ensures.set_iff,
    Ensures.pure_iff]
  by_cases hvalid : Reference.isVariableName name = true
  · rw [if_pos hvalid]
    exact ⟨rfl, fun _ _ => Table.get?_insert_self _ _ _⟩
  · rw [if_neg hvalid]
    refine ⟨rfl, fun signal hr => ?_⟩
    cases hr

theorem ensures_assign (around : Surroundings) (arguments : List Value) (w : Workspace) :
    Ensures (assign.perform around arguments) w fun exchanges r w' => ∀ signal, r = .ok signal →
      exchanges = [] ∧ ∃ name value, arguments[0]?.map Value.display = some name ∧
        arguments[1]? = some value ∧ w'.evaluator.session.get? name = some value := by
  refine ensures_argumentText_bind (fun _ => nofun) fun name hname => ?_
  refine ensures_argument_bind (fun _ => nofun) fun value hvalue => ?_
  refine (ensures_assign_bind name value w).mono ?_
  rintro _ r w' ⟨hnone, h⟩ signal hr
  exact ⟨hnone, name, value, hname, hvalue, h signal hr⟩

theorem ensures_assignResult (around : Surroundings) (arguments : List Value) (w : Workspace) :
    Ensures (assignResult.perform around arguments) w fun exchanges r w' =>
      ∀ signal, r = .ok signal → ∃ name session value,
        arguments[0]?.map Value.display = some name ∧ around.session = some session ∧
        exchanges = [⟨.queryValue session around.statement, .ok value⟩] ∧
        w'.evaluator.session.get? name = some value := by
  refine ensures_argumentText_bind (fun _ => nofun) fun name hname => ?_
  show Ensures ((around.need >>= fun session => _) >>= _) w _
  rw [bind_assoc]
  refine ensures_need_bind (fun _ => nofun) fun session hsession => ?_
  rw [Ensures.bind_iff, Action.ensures_queryValue]
  intro answer
  cases answer with
  | error e => exact nofun
  | ok value =>
    refine (ensures_assign_bind name value w).mono ?_
    rintro _ r w' ⟨rfl, h⟩ signal hr
    exact ⟨name, session, value, hname, hsession, rfl, h signal hr⟩

/-- A command that succeeds has used the text of its first argument as the name. -/
theorem uses_of_leads {c : Command} (hc : c.namesFirst = true) {session : Session}
    {files : Files} {statement : String} {name : Value} {values : List Value}
    {w w' : Workspace} {exchanges : List Exchange} {signal : Option Signal}
    (hleads : ((c.perform ⟨some session, files, statement⟩ (name :: values)).run.run w).Leads
      exchanges (.ok signal, w')) :
    Uses name.display values session files statement w c exchanges w' := by
  have hothers := ((changes_perform c _ _ w).of_leads hleads).success signal rfl
  cases c with
  | assign =>
    obtain ⟨rfl, text, value, htext, hvalue, hbound⟩ :=
      (ensures_assign _ _ w).of_leads hleads signal rfl
    cases htext
    exact .assign (by rw [List.head?_eq_getElem?]; exact hvalue) hbound hothers
  | assignResult =>
    obtain ⟨text, session', value, htext, hsession, rfl, hbound⟩ :=
      (ensures_assignResult _ _ w).of_leads hleads signal rfl
    cases htext
    cases hsession
    exact .assignResult hbound hothers
  | recordset =>
    have hqueries := (ensures_recordset _ _ w).of_leads hleads
    generalize hr : (.ok signal : Except Error (Option Signal)) = r at hqueries
    cases hqueries with
    | unasked => cases hr
    | failed => cases hr
    | returned hname hsession hstores =>
      cases hname
      cases hsession
      cases hstores with
      | stored => exact .recordset (Table.get?_insert_self _ _ _) hothers
      | refused => cases hr
  | recordsetOfPaths =>
    have hlists := (ensures_recordsetOfPaths _ _ w).of_leads hleads
    generalize hr : (.ok signal : Except Error (Option Signal)) = r at hlists
    cases hlists with
    | unlisted => cases hr
    | listed hname hpattern hrecords hstores =>
      cases hname
      obtain ⟨pattern, hvalue, rfl⟩ := Option.map_eq_some_iff.1 hpattern
      cases hstores with
      | stored =>
        exact .recordsetOfPaths (by rw [List.head?_eq_getElem?]; exact hvalue) hrecords
          (Table.get?_insert_self _ _ _) hothers
      | refused => cases hr
  | removeRecordset =>
    have hremoves := (ensures_removeRecordset _ _ w).of_leads hleads
    cases hremoves with
    | removed hname =>
      cases hname
      exact .removeRecordset (by rw [Table.get?_erase, if_pos rfl]) hothers
  | iterate =>
    rcases (ensures_runIterate session files statement (name :: values) w).of_leads hleads with
      ⟨_, ⟨e, he⟩, _⟩ | ⟨first, rest, conditions, records, r', hfirst, hread, hrecords, hr, hends⟩
    · cases he
    · cases hfirst
      cases hends with
      | finished h => exact .iterate hread hrecords h
      | undecided => cases hr
      | refused => cases hr
  | _ => exact absurd hc (by decide)

/-- All commands that take a name leave their failures in the channel. -/
theorem capturesErrors_of_namesFirst {c : Command} (hc : c.namesFirst = true) :
    c.capturesErrors = true := by
  revert hc
  cases c <;> decide

end Command

/-! ## Statements -/

/-- A statement that is no error handler and ends without an error has run its command, with the
values of its arguments and an empty channel. -/
theorem Action.leads_run_of_leads_runNext {s : Statement} {c : Command}
    (hcommand : c.name = s.command) (hhandler : c ≠ .onError) {session : Session} {files : Files}
    {w w' : Workspace} {exchanges : List Exchange} {signal : Option Signal}
    (hleads : ((runNext Registry.withBuiltins (some session) files s).run.run w).Leads exchanges
      (.ok signal, w')) :
    ∃ values, Evaluated w.evaluator s.arguments values ∧
      ((c.run ⟨some session, files, w.evaluator.fill (reservedNames w.recordsets) s.body⟩
        values).run.run { w with channel := ErrorChannel.empty }).Leads exchanges
          (.ok signal, w') := by
  have hname : s.command ≠ Command.onError.name := fun h =>
    hhandler (Command.eq_of_name_eq (hcommand.trans h))
  have hensures : Ensures (runBehind (runStatement Registry.withBuiltins (some session) files) s) w
      fun exchanges r w' => ∀ signal, r = .ok signal →
        ∃ values, Evaluated w.evaluator s.arguments values ∧
          ((c.run ⟨some session, files, w.evaluator.fill (reservedNames w.recordsets) s.body⟩
            values).run.run { w with channel := ErrorChannel.empty }).Leads exchanges
              (.ok signal, w') := by
    refine ensures_runBehind (fun _ _ _ => nofun) fun _ => ?_
    rw [Journaled.ready, if_neg hname]
    unfold runStatement evaluateArguments runNamed
    simp only [Ensures.bind_iff, Ensures.get_iff, ensures_ofExcept,
      Registry.command_withBuiltins.2 hcommand]
    cases hvalues : s.arguments.mapM fun text => w.evaluator.evaluate (.text text) with
    | error e =>
      intro signal hr
      cases hr
    | ok values =>
      refine Dialogue.always_iff.2 fun exchanges result hleads signal hr => ?_
      obtain ⟨r, w'⟩ := result
      cases hr
      exact ⟨values, Outcome.mapM_eq_ok.1 hvalues, hleads⟩
  exact hensures.of_leads hleads signal rfl

/-- **Names are used as they are written.**  A statement of a step file that is accepted, takes the
name of a variable or of a recordset and ends without leaving an error has bound, stored, removed or
read what has exactly this name, whatever the variables and the answers of the database were, and
changed no other variable and no other recordset.  The name must not be a word for a truth value in
other than lower case. -/
theorem names_used_as_written {contents : String} {statements : List Statement} {s : Statement}
    {c : Command} {name : String} {rest : List String}
    (hread : Statement.readAll contents = .ok statements) (hs : s ∈ statements)
    (hcommand : c.name = s.command) (haccepts : c.accepts s.arguments = true)
    (hc : c.namesFirst = true) (harguments : s.arguments = name :: rest)
    (hspelling : KeepsSpelling name) {session : Session} {files : Files} {w w' : Workspace}
    {exchanges : List Exchange} {signal : Option Signal}
    (hleads : ((Action.runNext Registry.withBuiltins (some session) files s).run.run w).Leads
      exchanges (.ok signal, w')) (hquiet : w'.channel.pending = none) :
    ∃ values, Evaluated w.evaluator rest values ∧
      c.Uses name values session files (w.evaluator.fill (reservedNames w.recordsets) s.body)
        { w with channel := ErrorChannel.empty } exchanges w' := by
  have htoken : IsToken name.toList :=
    Statement.isToken_of_readAll hread s hs name (by rw [harguments]; exact List.mem_cons_self)
  have hisname : Text.isName name.toList = true :=
    Command.isName_of_accepts hc htoken (harguments ▸ haccepts)
  have hhandler : c ≠ .onError := by
    rintro rfl
    cases hc
  obtain ⟨values, hvalues, hrun⟩ := Action.leads_run_of_leads_runNext hcommand hhandler hleads
  rw [harguments] at hvalues
  obtain ⟨v, values, hv, hrest, rfl⟩ := List.forall₂_cons_left_iff.1 hvalues
  refine ⟨values, hrest, ?_⟩
  rw [← (w.evaluator.display_evaluate_iff htoken hisname hv).2 hspelling]
  obtain ⟨r, left, hperform, hsettle, _⟩ := (c.run_framed _ _ _).of_leads hrun
  cases r with
  | ok _ =>
    cases hsettle
    exact Command.uses_of_leads hc hperform
  | error e =>
    -- a failure would be in the channel
    rw [Command.settle, if_pos (Command.capturesErrors_of_namesFirst hc)] at hsettle
    cases hsettle
    cases hquiet

/-! ## Names in either spelling -/

/-- A statement that binds a variable to `5`. -/
def assignment (name : String) : Statement :=
  ⟨"assign", [name, "5"], " ", "/*-assign " ++ name ++ " 5-*/ "⟩

/-- A workspace with nothing but a variable of this name bound to `5`. -/
def boundWorkspace (name : String) : Workspace :=
  ⟨⟨Table.empty, Table.empty.insert name (.text "5")⟩, ErrorChannel.empty, Table.empty⟩

/-- A dialogue that asks a database nothing leads to its result without exchanges. -/
theorem Dialogue.leads_of_silent {α σ : Type} {d : Dialogue α} {a : α} (db : Backend σ) (state : σ)
    (hsilent : (d.log db state).map Exchange.call = []) (ha : (d.run db state).1 = a) :
    d.Leads [] a := by
  have hleads := Dialogue.leads_log db d state
  rwa [List.map_eq_nil_iff.1 hsilent, ha] at hleads

theorem names_used_as_written_assignment :
    ∃ values, Evaluated (bareWorkspace Table.empty).evaluator ["5"] values ∧
      Command.assign.Uses "x" values 0 Files.none
        ((bareWorkspace Table.empty).evaluator.fill (reservedNames Table.empty) " ")
        (bareWorkspace Table.empty) [] (boundWorkspace "x") := by
  have hread : Statement.readAll "/*-assign x 5-*/ " = .ok [assignment "x"] := by decide +kernel
  have hleads : ((Action.runNext Registry.withBuiltins (some 0) Files.none
      (assignment "x")).run.run (bareWorkspace Table.empty)).Leads []
        (.ok none, boundWorkspace "x") :=
    Dialogue.leads_of_silent refusal () (by decide +kernel) (by decide +kernel)
  have hspelling : KeepsSpelling "x" := by
    rintro (h | h) <;> exact absurd h (by decide)
  exact names_used_as_written hread List.mem_cons_self rfl (by decide +kernel) rfl rfl hspelling
    hleads rfl

/-- A variable named by a word for a truth value in capitals is not the one that is bound. -/
theorem not_names_used_as_written_of_capitals :
    Statement.readAll "/*-assign TRUE 5-*/ " = .ok [assignment "TRUE"] ∧
    Command.assign.accepts (assignment "TRUE").arguments = true ∧
    ((Action.runNext Registry.withBuiltins (some 0) Files.none
      (assignment "TRUE")).run.run (bareWorkspace Table.empty)).Leads []
        (.ok none, boundWorkspace "true") ∧
    (boundWorkspace "true").channel.pending = none ∧
    (boundWorkspace "true").evaluator.session.get? "TRUE" = none ∧
    (boundWorkspace "true").evaluator.session.get? "true" = some (.text "5") := by
  refine ⟨by decide +kernel, by decide +kernel, ?_, rfl, by decide +kernel, by decide +kernel⟩
  exact Dialogue.leads_of_silent refusal () (by decide +kernel)
    (by decide +kernel)

end StepScript
