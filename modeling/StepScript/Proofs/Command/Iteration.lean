/-
# Iterations record by record

What an iteration does, told without its loop.  `Passes` goes through records one by one: a record
that does not satisfy the conditions is passed over, and the statement made from any other one is
executed.  An iteration ends behind the last record, at a record whose conditions cannot be judged,
or at a record whose statement the database refuses.  Only the last one is noted in the channel.
-/
import StepScript.Proofs.Command.Ensures

namespace StepScript

/-- What an iteration goes by. -/
structure Iteration where
  session : Session
  /-- The body with its references filled in, those to fields excepted. -/
  statement : String
  /-- The name of the recordset. -/
  name : String
  conditions : List Condition

namespace Iteration

variable {i : Iteration} {w w' : Workspace} {record : Record} {rest records : List Record}
  {exchanges : List Exchange}

/-- The statement made from a record. -/
def sql (i : Iteration) (record : Record) : String :=
  fillRecord i.name record i.statement

/-- Whether a record satisfies the conditions, by the variables at hand. -/
def wants (i : Iteration) (w : Workspace) (record : Record) : Except Error Bool :=
  Condition.acceptAll w.evaluator record i.conditions

/-- The iteration over records. -/
abbrev loop (i : Iteration) (records : List Record) : Action Unit :=
  Command.iterateOver i.session i.statement i.name i.conditions records

/-- The database executes the statement made from a record. -/
def success (i : Iteration) (record : Record) (rows : Nat) : Exchange :=
  ⟨.execute i.session (i.sql record), .ok rows⟩

/-- The database refuses the statement made from a record. -/
def refusal (i : Iteration) (record : Record) (e : Error) : Exchange :=
  ⟨.execute i.session (i.sql record), .error e⟩

/-- The iteration goes through records to their end. -/
inductive Passes (i : Iteration) : Workspace → List Record → List Exchange → Workspace → Prop
  | nil (w : Workspace) : Passes i w [] [] w
  | skipped {w w' : Workspace} {record : Record} {rest : List Record} {exchanges : List Exchange}
      (hwants : i.wants w record = .ok false) (h : Passes i w rest exchanges w') :
      Passes i w (record :: rest) exchanges w'
  | executed {w w' : Workspace} {record : Record} {rest : List Record} {exchanges : List Exchange}
      {rows : Nat} (hwants : i.wants w record = .ok true)
      (h : Passes i (Action.noted w rows) rest exchanges w') :
      Passes i w (record :: rest) (i.success record rows :: exchanges) w'

/-- The iteration stops at one of the records because the database refuses the statement made from
it: the records before it have been gone through, and it satisfies the conditions. -/
structure Refused (i : Iteration) (w : Workspace) (records : List Record)
    (exchanges : List Exchange) (record : Record) (e : Error) (w' : Workspace) : Prop where
  exists_passed : ∃ passed rest before, records = passed ++ record :: rest ∧
    i.Passes w passed before w' ∧ exchanges = before ++ [i.refusal record e]
  wants : i.wants w' record = .ok true

/-- How an iteration over records can end. -/
inductive Ends (i : Iteration) (w : Workspace) (records : List Record) :
    List Exchange → Except Error Unit → Workspace → Prop
  | finished {exchanges : List Exchange} {w' : Workspace} (h : i.Passes w records exchanges w') :
      Ends i w records exchanges (.ok ()) w'
  /-- The conditions of a record cannot be judged. -/
  | undecided {passed rest : List Record} {record : Record} {exchanges : List Exchange}
      {w' : Workspace} {e : Error} (hrecords : records = passed ++ record :: rest)
      (h : i.Passes w passed exchanges w') (hwants : i.wants w' record = .error e) :
      Ends i w records exchanges (.error e) w'
  /-- The record whose statement is refused is noted. -/
  | refused {record : Record} {exchanges : List Exchange} {w' : Workspace} {e : Error}
      (h : i.Refused w records exchanges record e w') :
      Ends i w records exchanges (.error e) { w' with channel := w'.channel.note record }

/-! ## The loop -/

/-- One turn of the loop. -/
theorem run_loop_cons (i : Iteration) (record : Record) (rest : List Record) (w : Workspace) :
    (i.loop (record :: rest)).run.run w =
      match i.wants w record with
      | .error e => .done (.error e, w)
      | .ok false => (i.loop rest).run.run w
      | .ok true => .ask (.execute i.session (i.sql record)) fun answer =>
        match answer with
        | .error e => .done (.error e, { w with channel := w.channel.note record })
        | .ok rows => (i.loop rest).run.run (Action.noted w rows) := by
  rw [loop, Command.iterateOver]
  show (Action.ofExcept (i.wants w record) >>= _ : Action Unit).run.run w = _
  cases i.wants w record with
  | error e => rfl
  | ok wanted =>
    cases wanted with
    | false => rfl
    | true =>
      refine congrArg _ (funext fun answer => ?_)
      cases answer <;> rfl

section

variable {r : Except Error Unit} {rows : Nat}

/-- A record that is passed over makes no difference to how an iteration ends. -/
theorem Ends.skipped (hfirst : i.wants w record = .ok false)
    (h : i.Ends w rest exchanges r w') : i.Ends w (record :: rest) exchanges r w' := by
  cases h with
  | finished h => exact .finished (.skipped hfirst h)
  | undecided hrecords h hwants =>
    exact .undecided (congrArg (record :: ·) hrecords) (.skipped hfirst h) hwants
  | refused h =>
    obtain ⟨⟨passed, behind, before, hrecords, h, rfl⟩, hwants⟩ := h
    exact .refused ⟨⟨_, _, _, congrArg (record :: ·) hrecords, .skipped hfirst h, rfl⟩, hwants⟩

/-- Behind a record whose statement was executed, an iteration goes on. -/
theorem Ends.executed (hfirst : i.wants w record = .ok true)
    (h : i.Ends (Action.noted w rows) rest exchanges r w') :
    i.Ends w (record :: rest) (i.success record rows :: exchanges) r w' := by
  cases h with
  | finished h => exact .finished (.executed hfirst h)
  | undecided hrecords h hwants =>
    exact .undecided (congrArg (record :: ·) hrecords) (.executed hfirst h) hwants
  | refused h =>
    obtain ⟨⟨passed, behind, before, hrecords, h, rfl⟩, hwants⟩ := h
    exact .refused ⟨⟨_, _, _, congrArg (record :: ·) hrecords, .executed hfirst h, rfl⟩, hwants⟩

/-- The first record is one that cannot be judged, one to pass over, or one to execute the statement
of. -/
theorem Ends.cons_cases (h : i.Ends w (record :: rest) exchanges r w') :
    (∃ e, i.wants w record = .error e ∧ exchanges = [] ∧ r = .error e ∧ w' = w) ∨
    (i.wants w record = .ok false ∧ i.Ends w rest exchanges r w') ∨
    (i.wants w record = .ok true ∧
      ((∃ e, exchanges = [i.refusal record e] ∧ r = .error e ∧
          w' = { w with channel := w.channel.note record }) ∨
        ∃ rows others, exchanges = i.success record rows :: others ∧
          i.Ends (Action.noted w rows) rest others r w')) := by
  cases h with
  | finished h =>
    cases h with
    | skipped hfirst h => exact .inr (.inl ⟨hfirst, .finished h⟩)
    | executed hfirst h => exact .inr (.inr ⟨hfirst, .inr ⟨_, _, rfl, .finished h⟩⟩)
  | @undecided _ _ _ _ _ e hrecords h hwants =>
    cases h with
    | nil =>
      cases hrecords
      exact .inl ⟨e, hwants, rfl, rfl, rfl⟩
    | skipped hfirst h =>
      cases hrecords
      exact .inr (.inl ⟨hfirst, .undecided rfl h hwants⟩)
    | executed hfirst h =>
      cases hrecords
      exact .inr (.inr ⟨hfirst, .inr ⟨_, _, rfl, .undecided rfl h hwants⟩⟩)
  | @refused _ _ _ e h =>
    obtain ⟨⟨passed, behind, before, hrecords, h, rfl⟩, hwants⟩ := h
    cases h with
    | nil =>
      cases hrecords
      exact .inr (.inr ⟨hwants, .inl ⟨e, rfl, rfl, rfl⟩⟩)
    | skipped hfirst h =>
      cases hrecords
      exact .inr (.inl ⟨hfirst, .refused ⟨⟨_, _, _, rfl, h, rfl⟩, hwants⟩⟩)
    | executed hfirst h =>
      cases hrecords
      exact .inr (.inr ⟨hfirst, .inr ⟨_, _, rfl, .refused ⟨⟨_, _, _, rfl, h, rfl⟩, hwants⟩⟩⟩)

theorem ends_nil : i.Ends w [] exchanges r w' ↔ exchanges = [] ∧ r = .ok () ∧ w' = w := by
  constructor
  · intro h
    cases h with
    | finished h =>
      cases h
      exact ⟨rfl, rfl, rfl⟩
    | undecided hrecords => simp at hrecords
    | refused h =>
      obtain ⟨⟨_, _, _, hrecords, _⟩, _⟩ := h
      simp at hrecords
  · rintro ⟨rfl, rfl, rfl⟩
    exact .finished (.nil w')

/-- **The loop ends as an iteration ends**, and in every such way. -/
theorem leads_loop : ((i.loop records).run.run w).Leads exchanges (r, w') ↔
    i.Ends w records exchanges r w' := by
  induction records generalizing w exchanges with
  | nil =>
    rw [ends_nil]
    show (Dialogue.done (Except.ok (), w)).Leads _ _ ↔ _
    rw [Dialogue.leads_done, Prod.mk.injEq]
  | cons record rest ih =>
    rw [run_loop_cons]
    constructor
    · intro h
      cases hwants : i.wants w record with
      | error e =>
        rw [hwants] at h
        obtain ⟨rfl, hend⟩ := Dialogue.leads_done.1 h
        cases hend
        exact .undecided (List.nil_append _).symm (.nil _) hwants
      | ok wanted =>
        rw [hwants] at h
        cases wanted with
        | false => exact (ih.1 h).skipped hwants
        | true =>
          obtain ⟨answer, others, rfl, hnext⟩ := Dialogue.leads_ask.1 h
          cases answer with
          | ok rows => exact (ih.1 hnext).executed hwants
          | error e =>
            obtain ⟨rfl, hend⟩ := Dialogue.leads_done.1 hnext
            cases hend
            exact .refused ⟨⟨[], rest, [], rfl, .nil w, rfl⟩, hwants⟩
    · intro h
      rcases h.cons_cases with ⟨e, hwants, rfl, rfl, rfl⟩ | ⟨hwants, h⟩ |
        ⟨hwants, ⟨e, rfl, rfl, rfl⟩ | ⟨rows, others, rfl, hnext⟩⟩
      · rw [hwants]
        exact .done _
      · rw [hwants]
        exact ih.2 h
      · rw [hwants]
        exact .ask (.done _)
      · rw [hwants]
        exact .ask (ih.2 hnext)

end

end Iteration

/-! ## The command -/

namespace Command

variable {session : Session} {files : Files} {statement : String} {name : Value}
  {values : List Value} {conditions : List Condition} {records : List Record} {w w' : Workspace}
  {exchanges : List Exchange} {r : Except Error (Option Signal)}

/-- With conditions that can be read and a recordset that is there, the command is the iteration
over its records. -/
theorem run_runIterate (hread : Condition.readAll values = .ok conditions)
    (hrecords : w.recordsets.get? name.display = some records) :
    (runIterate ⟨some session, files, statement⟩ (name :: values)).run.run w =
      (fun ending => (ending.1.map fun _ => none, ending.2)) <$>
        (Iteration.loop ⟨session, statement, name.display, conditions⟩ records).run.run w := by
  have hfound : w.recordsets.records name.display = .ok records := by
    rw [RecordsetStore.records, hrecords]
  show (Action.ofExcept (Condition.readAll values) >>= _ : Action (Option Signal)).run.run w = _
  rw [hread]
  show (Action.ofExcept (w.recordsets.records name.display) >>= _ :
    Action (Option Signal)).run.run w = _
  rw [hfound]
  show (iterateOver session statement name.display conditions records >>= fun _ => pure none :
    Action (Option Signal)).run.run w = _
  rw [ExceptT.run_bind, StateT.run_bind, map_eq_pure_bind]
  refine congrArg _ (funext fun ending => ?_)
  obtain ⟨e | _, w'⟩ := ending <;> rfl

theorem leads_runIterate (hread : Condition.readAll values = .ok conditions)
    (hrecords : w.recordsets.get? name.display = some records) :
    ((runIterate ⟨some session, files, statement⟩ (name :: values)).run.run w).Leads exchanges
      (r, w') ↔ ∃ r' : Except Error Unit, r = r'.map (fun _ => none) ∧
        Iteration.Ends ⟨session, statement, name.display, conditions⟩ w records exchanges r'
          w' := by
  rw [run_runIterate hread hrecords, Dialogue.leads_map]
  constructor
  · rintro ⟨⟨r', w''⟩, h, heq⟩
    cases heq
    exact ⟨r', rfl, Iteration.leads_loop.1 h⟩
  · rintro ⟨r', rfl, h⟩
    exact ⟨(r', w'), Iteration.leads_loop.2 h, rfl⟩

/-- **All the command can do**: it fails without having asked or changed anything, or it iterates
over the recordset of its first argument by the conditions in the other ones. -/
theorem ensures_runIterate (session : Session) (files : Files) (statement : String)
    (arguments : List Value) (w : Workspace) :
    Ensures (runIterate ⟨some session, files, statement⟩ arguments) w fun exchanges r w' =>
      (exchanges = [] ∧ (∃ e, r = .error e) ∧ w' = w) ∨
      ∃ name values conditions records r', arguments = name :: values ∧
        Condition.readAll values = .ok conditions ∧
        w.recordsets.get? name.display = some records ∧
        r = Except.map (fun _ => none) r' ∧
        Iteration.Ends ⟨session, statement, name.display, conditions⟩ w records exchanges r'
          w' := by
  cases arguments with
  | nil => exact .inl ⟨rfl, ⟨_, rfl⟩, rfl⟩
  | cons name values =>
    cases hread : Condition.readAll values with
    | error e =>
      show Ensures (Action.ofExcept (Condition.readAll values) >>= _) w _
      rw [hread]
      exact .inl ⟨rfl, ⟨e, rfl⟩, rfl⟩
    | ok conditions =>
      cases hrecords : w.recordsets.get? name.display with
      | none =>
        have hmissing : w.recordsets.records name.display =
            .error (.recordsetNotFound name.display) := by
          rw [RecordsetStore.records, hrecords]
        show Ensures (Action.ofExcept (Condition.readAll values) >>= _) w _
        simp only [hread, Ensures.bind_iff, Action.ensures_ofExcept, Ensures.get_iff, hmissing]
        exact .inl ⟨rfl, ⟨_, rfl⟩, trivial⟩
      | some records =>
        refine Dialogue.always_iff.2 fun exchanges r h => ?_
        obtain ⟨r', hr, hends⟩ := (leads_runIterate hread hrecords).1 h
        exact .inr ⟨name, values, conditions, records, r', rfl, hread, hrecords, hr, hends⟩

end Command

end StepScript
