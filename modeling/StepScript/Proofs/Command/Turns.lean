/-
# Iterations turn by turn

The trace of the iterate command.  Each record that the command goes through is a turn: it is judged
by the variables as they are when it is reached, and either passed over or made into a statement
that the database executes.  The only variable that a turn changes is the number of affected rows,
so what a record finds depends on the last statement before it and on nothing else.  The command
ends behind the last record, at a comparison that fails, or at a statement that the database
refuses.
-/
import StepScript.Proofs.Command.Iteration
import StepScript.Proofs.Interpreter.Journal
import StepScript.Proofs.Outcome

namespace StepScript

/-! ## Noting rows again -/

namespace Table

variable {α : Type}

theorem insertEntry_insertEntry (name : String) (old new : α) (entries : List (String × α)) :
    insertEntry name new (insertEntry name old entries) = insertEntry name new entries := by
  induction entries with
  | nil => simp [insertEntry]
  | cons head rest ih =>
    obtain ⟨key, value⟩ := head
    by_cases hlt : name < key
    · simp [insertEntry, hlt]
    · by_cases heq : name = key
      · simp [insertEntry, heq]
      · simp [insertEntry, hlt, heq, ih]

/-- The second of two values under one name is the one that stays. -/
theorem insert_insert (t : Table α) (name : String) (old new : α) :
    (t.insert name old).insert name new = t.insert name new := by
  have hentries := insertEntry_insertEntry name old new t.entries
  unfold insert
  simp only [hentries]

end Table

theorem Action.noted_noted (w : Workspace) (before rows : Nat) :
    noted (noted w before) rows = noted w rows := by
  unfold noted
  rw [Table.insert_insert]

/-! ## Conditions one by one -/

namespace Condition

variable {evaluator : Evaluator} {record : Record} {conditions : List Condition} {e : Error}

theorem acceptAll_cons (c : Condition) :
    acceptAll evaluator record (c :: conditions) =
      c.accepts evaluator record >>= fun wanted =>
        if wanted then acceptAll evaluator record conditions else .ok false := by
  rw [acceptAll]

/-- A record satisfies a list of conditions if it satisfies each of them. -/
theorem acceptAll_eq_true : acceptAll evaluator record conditions = .ok true ↔
    ∀ c ∈ conditions, c.accepts evaluator record = .ok true := by
  induction conditions with
  | nil => simp [acceptAll]
  | cons c rest ih =>
    rw [acceptAll_cons, List.forall_mem_cons, ← ih]
    cases c.accepts evaluator record with
    | error _ => exact iff_of_false nofun (fun h => nomatch h.1)
    | ok wanted =>
      cases wanted with
      | false => exact iff_of_false nofun (fun h => nomatch h.1)
      | true => exact (and_iff_right rfl).symm

/-- A condition cannot be judged if its comparison fails. -/
theorem accepts_eq_error {c : Condition} : c.accepts evaluator record = .error e ↔
    evaluator.compare c.operator ((record.get? c.field).getD .null) c.expression = .error e := by
  unfold accepts
  cases evaluator.compare c.operator ((record.get? c.field).getD .null) c.expression with
  | error _ => exact Iff.rfl
  | ok _ => exact iff_of_false nofun nofun

/-- A list of conditions cannot be judged if a comparison fails, and the record satisfies the
conditions before that. -/
theorem acceptAll_eq_error : acceptAll evaluator record conditions = .error e ↔
    ∃ before c behind, conditions = before ++ c :: behind ∧
      (∀ d ∈ before, d.accepts evaluator record = .ok true) ∧
      evaluator.compare c.operator ((record.get? c.field).getD .null) c.expression = .error e := by
  induction conditions with
  | nil => simp [acceptAll]
  | cons c rest ih =>
    rw [acceptAll_cons]
    constructor
    · intro h
      rcases Outcome.bind_eq_error.1 h with h | ⟨wanted, hwanted, h⟩
      · exact ⟨[], c, rest, rfl, List.forall_mem_nil _, accepts_eq_error.1 h⟩
      · cases wanted with
        | false => cases h
        | true =>
          obtain ⟨before, d, behind, rfl, hbefore, hd⟩ := ih.1 h
          exact ⟨c :: before, d, behind, rfl, List.forall_mem_cons.2 ⟨hwanted, hbefore⟩, hd⟩
    · rintro ⟨before, d, behind, hconditions, hbefore, hd⟩
      cases before with
      | nil =>
        cases hconditions
        rw [accepts_eq_error.2 hd]
        rfl
      | cons first before =>
        cases hconditions
        obtain ⟨hfirst, hbefore⟩ := List.forall_mem_cons.1 hbefore
        rw [hfirst]
        exact ih.2 ⟨before, d, behind, rfl, hbefore, hd⟩

end Condition

/-! ## Turns -/

/-- A record that an iteration went through. -/
structure Turn where
  record : Record
  /-- The rows that the statement made from the record affected, unless it was passed over. -/
  rows : Option Nat

namespace Iteration

variable {i : Iteration} {w w' : Workspace} {t : Turn} {turns : List Turn} {records : List Record}
  {exchanges : List Exchange} {r : Except Error Unit}

/-- The workspace behind turns: the number of affected rows is that of the last statement, and
nothing is changed if there was none. -/
def behind (w : Workspace) (turns : List Turn) : Workspace :=
  match (turns.filterMap Turn.rows).getLast? with
  | some rows => Action.noted w rows
  | none => w

/-- What turns asked the database: the statement of each record that was not passed over, in
order. -/
def sent (i : Iteration) (turns : List Turn) : List Exchange :=
  turns.filterMap fun t => t.rows.map (i.success t.record)

/-- A statement was made from exactly those records that satisfy the conditions, by the variables
behind the turns before. -/
def Judged (i : Iteration) (w : Workspace) (turns : List Turn) : Prop :=
  ∀ before t others, turns = before ++ t :: others →
    i.wants (behind w before) t.record = .ok t.rows.isSome

/-- The trace of the command over records, a failure at its end having become the failure in the
channel. -/
inductive Traces (i : Iteration) (w : Workspace) (records : List Record) :
    List Exchange → Workspace → Prop
  /-- All records have their turns. -/
  | completed {turns : List Turn} (hrecords : records = turns.map Turn.record)
      (hjudged : i.Judged w turns) : Traces i w records (i.sent turns) (behind w turns)
  /-- The conditions of the next record cannot be judged: nothing is sent for it, and it is not
  noted. -/
  | undecided {turns : List Turn} {record : Record} {others : List Record} {e : Error}
      (hrecords : records = turns.map Turn.record ++ record :: others)
      (hjudged : i.Judged w turns) (hwants : i.wants (behind w turns) record = .error e) :
      Traces i w records (i.sent turns) { behind w turns with channel := w.channel.deposit e }
  /-- The statement of the next record is refused: that is the last one sent, and the record is
  noted. -/
  | refused {turns : List Turn} {record : Record} {others : List Record} {e : Error}
      (hrecords : records = turns.map Turn.record ++ record :: others)
      (hjudged : i.Judged w turns) (hwants : i.wants (behind w turns) record = .ok true) :
      Traces i w records (i.sent turns ++ [i.refusal record e])
        { behind w turns with channel := (w.channel.note record).deposit e }

theorem behind_cons (w : Workspace) (t : Turn) (turns : List Turn) :
    behind w (t :: turns) = behind (behind w [t]) turns := by
  obtain ⟨record, rows⟩ := t
  cases rows with
  | none => rfl
  | some first =>
    have hrows : (⟨record, some first⟩ :: turns).filterMap Turn.rows =
        first :: turns.filterMap Turn.rows := rfl
    unfold behind
    rw [hrows, List.getLast?_cons]
    cases (turns.filterMap Turn.rows).getLast? with
    | none => rfl
    | some last => exact (Action.noted_noted w first last).symm

theorem channel_behind (w : Workspace) (turns : List Turn) :
    (behind w turns).channel = w.channel := by
  unfold behind
  cases (turns.filterMap Turn.rows).getLast? <;> rfl

theorem recordsets_behind (w : Workspace) (turns : List Turn) :
    (behind w turns).recordsets = w.recordsets := by
  unfold behind
  cases (turns.filterMap Turn.rows).getLast? <;> rfl

theorem judged_nil : i.Judged w [] := by
  intro before t others h
  cases before <;> cases h

/-- The first turn is judged by the variables at hand, the others behind it. -/
theorem judged_cons : i.Judged w (t :: turns) ↔
    i.wants w t.record = .ok t.rows.isSome ∧ i.Judged (behind w [t]) turns := by
  constructor
  · intro h
    refine ⟨h [] t turns rfl, fun before t' others hturns => ?_⟩
    rw [← behind_cons]
    exact h (t :: before) t' others (congrArg (t :: ·) hturns)
  · rintro ⟨hfirst, hrest⟩ before t' others hturns
    cases before with
    | nil =>
      cases hturns
      exact hfirst
    | cons first before =>
      cases hturns
      rw [behind_cons]
      exact hrest before t' others rfl

/-- Records that an iteration goes through have turns. -/
theorem Passes.exists_turns (h : i.Passes w records exchanges w') :
    ∃ turns, records = turns.map Turn.record ∧ i.Judged w turns ∧ exchanges = i.sent turns ∧
      w' = behind w turns := by
  induction h with
  | nil w => exact ⟨[], rfl, judged_nil, rfl, rfl⟩
  | @skipped _ _ record _ _ hwants _ ih =>
    obtain ⟨turns, rfl, hjudged, rfl, rfl⟩ := ih
    exact ⟨⟨record, none⟩ :: turns, rfl, judged_cons.2 ⟨hwants, hjudged⟩, rfl, rfl⟩
  | @executed w _ record _ _ rows hwants _ ih =>
    obtain ⟨turns, rfl, hjudged, rfl, rfl⟩ := ih
    exact ⟨⟨record, some rows⟩ :: turns, rfl, judged_cons.2 ⟨hwants, hjudged⟩, rfl,
      (behind_cons w ⟨record, some rows⟩ turns).symm⟩

/-- Turns that are judged rightly are gone through. -/
theorem Judged.passes (h : i.Judged w turns) :
    i.Passes w (turns.map Turn.record) (i.sent turns) (behind w turns) := by
  induction turns generalizing w with
  | nil => exact .nil w
  | cons t turns ih =>
    obtain ⟨hfirst, hrest⟩ := judged_cons.1 h
    have hbehind := ih hrest
    rw [← behind_cons] at hbehind
    obtain ⟨record, rows⟩ := t
    cases rows with
    | none => exact .skipped hfirst hbehind
    | some rows => exact .executed hfirst hbehind

/-- The ways in which the loop ends are the traces of the command. -/
theorem traces_iff : i.Traces w records exchanges w' ↔
    ∃ r w'', i.Ends w records exchanges r w'' ∧
      w' = (match r with
        | .ok _ => w''
        | .error e => { w'' with channel := w''.channel.deposit e }) := by
  constructor
  · intro h
    cases h with
    | completed hrecords hjudged =>
      subst hrecords
      exact ⟨.ok (), _, .finished hjudged.passes, rfl⟩
    | @undecided turns _ _ e hrecords hjudged hwants =>
      refine ⟨.error e, _, .undecided hrecords hjudged.passes hwants, ?_⟩
      rw [channel_behind]
    | @refused turns record others e hrecords hjudged hwants =>
      refine ⟨.error e, _, .refused ⟨⟨_, others, _, hrecords, hjudged.passes, rfl⟩, hwants⟩, ?_⟩
      rw [channel_behind]
  · rintro ⟨r, w'', h, rfl⟩
    cases h with
    | finished h =>
      obtain ⟨turns, hrecords, hjudged, rfl, rfl⟩ := h.exists_turns
      exact .completed hrecords hjudged
    | undecided hrecords h hwants =>
      obtain ⟨turns, rfl, hjudged, rfl, rfl⟩ := h.exists_turns
      rw [channel_behind]
      exact .undecided hrecords hjudged hwants
    | refused h =>
      obtain ⟨⟨passed, others, before, hrecords, h, rfl⟩, hwants⟩ := h
      obtain ⟨turns, rfl, hjudged, rfl, rfl⟩ := h.exists_turns
      rw [channel_behind]
      exact .refused hrecords hjudged hwants

end Iteration

/-! ## The command -/

theorem Command.leads_iterate {session : Session} {files : Files} {statement : String}
    {name : Value} {values : List Value} {conditions : List Condition} {records : List Record}
    {w w' : Workspace} {exchanges : List Exchange} {r : Except Error (Option Signal)}
    (hread : Condition.readAll values = .ok conditions)
    (hrecords : w.recordsets.get? name.display = some records) :
    ((iterate.run ⟨some session, files, statement⟩ (name :: values)).run.run w).Leads exchanges
      (r, w') ↔ r = .ok none ∧
        Iteration.Traces ⟨session, statement, name.display, conditions⟩ w records exchanges w' := by
  rw [run_eq_settle, Dialogue.leads_map, Iteration.traces_iff]
  constructor
  · rintro ⟨⟨r', w''⟩, hleads, hsettled⟩
    obtain ⟨ending, rfl, hends⟩ := (leads_runIterate hread hrecords).1 hleads
    cases ending with
    | ok _ =>
      cases hsettled
      exact ⟨rfl, _, _, hends, rfl⟩
    | error e =>
      cases hsettled
      exact ⟨rfl, _, _, hends, rfl⟩
  · rintro ⟨rfl, ending, w'', hends, rfl⟩
    refine ⟨(ending.map fun _ => none, w''), ?_, ?_⟩
    · exact (leads_runIterate hread hrecords).2 ⟨ending, rfl, hends⟩
    · cases ending <;> rfl

/-- **The trace of an iteration.**  With conditions that can be read and a recordset that is there,
the command never fails itself, and whatever the database answers, what it asks and leaves behind is
a trace over the records; each trace is possible.  A record is wanted if it satisfies all the
conditions, and cannot be judged if a comparison fails behind conditions that it satisfies.  The
recordsets stay as they are. -/
theorem iterate_traces_records (session : Session) (files : Files) (statement : String)
    {name : Value} {values : List Value} {conditions : List Condition} {records : List Record}
    {w : Workspace} (hread : Condition.readAll values = .ok conditions)
    (hrecords : w.recordsets.get? name.display = some records) :
    let i : Iteration := ⟨session, statement, name.display, conditions⟩
    let action := Command.iterate.run ⟨some session, files, statement⟩ (name :: values)
    (∀ exchanges r w', (action.run.run w).Leads exchanges (r, w') ↔
      r = .ok none ∧ i.Traces w records exchanges w') ∧
    (∀ {τ : Type} (db : Backend τ) (state : τ), ∃ exchanges w' state',
      (action.run.run w).recorded.run db state = (((.ok none, w'), exchanges), state') ∧
      i.Traces w records exchanges w') ∧
    (∀ exchanges w', i.Traces w records exchanges w' → w'.recordsets = w.recordsets) ∧
    (∀ found record, i.wants found record = .ok true ↔
      ∀ c ∈ conditions, c.accepts found.evaluator record = .ok true) ∧
    ∀ found record e, i.wants found record = .error e ↔
      ∃ before c behind, conditions = before ++ c :: behind ∧
        (∀ d ∈ before, d.accepts found.evaluator record = .ok true) ∧
        found.evaluator.compare c.operator ((record.get? c.field).getD .null) c.expression =
          .error e := by
  intro i action
  have hleads : ∀ exchanges r w', (action.run.run w).Leads exchanges (r, w') ↔
      r = .ok none ∧ i.Traces w records exchanges w' :=
    fun _ _ _ => Command.leads_iterate hread hrecords
  refine ⟨hleads, ?_, ?_, fun _ _ => Condition.acceptAll_eq_true,
    fun _ _ _ => Condition.acceptAll_eq_error⟩
  · intro τ db state
    have hrun := Dialogue.leads_run db (action.run.run w) state
    generalize (action.run.run w).recorded.run db state = recorded at hrun ⊢
    obtain ⟨⟨⟨r, w'⟩, exchanges⟩, state'⟩ := recorded
    obtain ⟨rfl, htraces⟩ := (hleads _ _ _).1 hrun
    exact ⟨exchanges, w', state', rfl, htraces⟩
  · intro exchanges w' h
    cases h with
    | completed => exact Iteration.recordsets_behind w _
    | undecided => exact Iteration.recordsets_behind w _
    | refused => exact Iteration.recordsets_behind w _

/-- A database that executes one statement, which affects two rows, and refuses the next. -/
def oneExecuted : Backend Nat where
  answer call n :=
    (match call with
      | .execute .. => if n = 0 then .ok 2 else .error (.database "no")
      | _ => .error (.database "no"), n + 1)

/-- Of three records, the first and the last exceed the number of rows affected before.  The first
statement sets this number to that of the second record, which is therefore passed over, and the
last statement is refused. -/
theorem iterate_traces_records_rows_condition :
    let records : List Record := [1, 2, 3].map fun n => Table.empty.insert "id" (.integer n)
    let values : List Value :=
      [.text "include", .text "id", .text ">", .text ":last_statement_rows_affected"]
    let condition : Condition := ⟨.keep, "id", ">", .text ":last_statement_rows_affected"⟩
    let w : Workspace := ⟨⟨Table.empty, Table.empty.insert rowsVariable (.integer 0)⟩,
      ErrorChannel.empty, Table.empty.insert "src" records⟩
    Condition.readAll values = .ok [condition] ∧ w.recordsets.get? "src" = some records ∧
    ∃ exchanges w', Iteration.Traces ⟨0, "insert into t values (:src.id);", "src", [condition]⟩ w
        records exchanges w' ∧
      exchanges.map Exchange.call = [.execute 0 "insert into t values (1);",
        .execute 0 "insert into t values (3);"] ∧
      w'.evaluator.session.get? rowsVariable = some (.integer 2) ∧
      w'.channel =
        ⟨some (.database "no"), some (Table.empty.insert "id" (.integer 3))⟩ := by
  intro records values condition w
  have hread : Condition.readAll values = .ok [condition] := by decide +kernel
  have hrecords : w.recordsets.get? "src" = some records := by decide +kernel
  obtain ⟨-, hrun, -⟩ := iterate_traces_records 0 Files.none "insert into t values (:src.id);"
    (show Condition.readAll values = .ok [condition] from hread)
    (show w.recordsets.get? (Value.text "src").display = some records from hrecords)
  obtain ⟨exchanges, w', state', hrun, htraces⟩ := hrun oneExecuted 0
  have hend : (((Command.iterate.run ⟨some 0, Files.none, "insert into t values (:src.id);"⟩
      (.text "src" :: values)).run.run w).recorded.run oneExecuted 0).map
        (fun r => (r.2.map Exchange.call, r.1.2.evaluator.session.get? rowsVariable,
          r.1.2.channel)) id =
      (([.execute 0 "insert into t values (1);", .execute 0 "insert into t values (3);"],
        some (.integer 2),
        ⟨some (.database "no"), some (Table.empty.insert "id" (.integer 3))⟩), 2) := by
    decide +kernel
  rw [hrun, Prod.map_apply, Prod.mk.injEq, Prod.mk.injEq, Prod.mk.injEq] at hend
  obtain ⟨⟨hcalls, hrows, hchannel⟩, -⟩ := hend
  exact ⟨hread, hrecords, exchanges, w', htraces, hcalls, hrows, hchannel⟩

end StepScript
