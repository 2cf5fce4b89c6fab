/-
# The record an error handler sees

Behind an iteration that failed, the error handler may refer to the record that failed.  The record
in the channel is that one and no other: it is there exactly if the statement directly before the
handler was an iteration whose statement for this record the database refused, and the failure in
the channel is then the answer of the database.  After any other failure there is no record, so a
record of an earlier statement is never taken for the one that failed.
-/
import StepScript.Proofs.Command.Iteration
import StepScript.Proofs.Interpreter.Account

namespace StepScript

/-! ## Going through records -/

/-- An iteration that goes on leaves the channel alone. -/
theorem Iteration.Passes.channel {i : Iteration} {w w' : Workspace} {records : List Record}
    {exchanges : List Exchange} (h : i.Passes w records exchanges w') : w'.channel = w.channel := by
  induction h with
  | nil w => rfl
  | skipped _ _ ih => exact ih
  | executed _ _ ih => exact ih

/-! ## Moments -/

namespace Moment

/-- The moment is an iteration that stopped because the database refused the statement made from a
record. -/
structure StoppedAt (session : Session) (m : Moment) (record : Record) (e : Error) : Prop where
  iterates : m.command = .iterate
  failed : m.outcome = .error e
  /-- The record is one of the recordset that the tag names, those before it have been gone through,
  it satisfies the conditions in the tag, and the last thing the database was asked is its
  statement, which it refused. -/
  refused : ∃ name values conditions records w, m.arguments = name :: values ∧
    Condition.readAll values = .ok conditions ∧
    m.before.recordsets.get? name.display = some records ∧
    Iteration.Refused ⟨session, m.body, name.display, conditions⟩ m.before records m.exchanges
      record e w

variable {session : Session} {files : Files} {m handler : Moment} {e : Error} {record : Record}

/-- A record that an iteration leaves in the empty channel is the one it stopped at. -/
theorem Genuine.stoppedAt_of_lastRecord (h : m.Genuine session files)
    (hempty : m.before.channel = ErrorChannel.empty) (hdeposits : m.Deposits e)
    (hiterates : m.command = .iterate) (hrecord : m.after.channel.lastRecord = some record) :
    m.StoppedAt session record e := by
  obtain ⟨w, hleads, hafter⟩ := h.performed
  rw [hdeposits.2, Command.settle, if_pos hdeposits.1] at hafter
  rw [hafter] at hrecord
  change w.channel.lastRecord = some record at hrecord
  rw [hiterates, hdeposits.2] at hleads
  -- what has passed over records only leaves the channel empty
  have hchannel : w.channel ≠ m.before.channel := by
    intro hsame
    rw [hsame, hempty] at hrecord
    cases hrecord
  rcases (Command.ensures_runIterate session files m.body m.arguments m.before).of_leads hleads with
    ⟨_, _, hw⟩ | ⟨name, values, conditions, records, r, hargs, hread, hget, hr, hends⟩
  · exact absurd (congrArg Workspace.channel hw) hchannel
  · refine ⟨hiterates, hdeposits.2, name, values, conditions, records, ?_⟩
    cases hends with
    | finished _ => cases hr
    | undecided _ hpasses _ => exact absurd hpasses.channel hchannel
    | @refused record' _ w' _ hrefused =>
      cases hr
      obtain rfl : record' = record := Option.some.inj hrecord
      exact ⟨w', hargs, hread, hget, hrefused⟩

/-- An iteration that stopped at a record leaves it in the channel. -/
theorem Genuine.lastRecord_of_stoppedAt (h : m.Genuine session files) (hdeposits : m.Deposits e)
    (hstopped : m.StoppedAt session record e) : m.after.channel.lastRecord = some record := by
  obtain ⟨hiterates, hfailed, name, values, conditions, records, w', hargs, hread, hget,
    hrefused⟩ :=
    hstopped
  obtain ⟨w, hleads, hafter⟩ := h.performed
  have hnoted : ((m.command.perform ⟨some session, files, m.body⟩ m.arguments).run.run
      m.before).Leads m.exchanges
        (.error e, { w' with channel := w'.channel.note record }) := by
    rw [hiterates, hargs]
    exact (Command.leads_runIterate hread hget).2 ⟨.error e, rfl, .refused hrefused⟩
  -- the same answers lead to one result
  have hsame := (hleads.eq_of_append hnoted (rfl : m.exchanges ++ [] = m.exchanges ++ [])).2
  obtain ⟨_, rfl⟩ := Prod.mk.inj hsame
  rw [hafter, hfailed, Command.settle, if_pos hdeposits.1]
  rfl

/-- **The record behind a failure** is the one at which the database refused a statement. -/
theorem Genuine.lastRecord_iff (h : m.Genuine session files)
    (hempty : m.before.channel = ErrorChannel.empty) (hdeposits : m.Deposits e) :
    m.after.channel.lastRecord = some record ↔ m.StoppedAt session record e := by
  refine ⟨fun hrecord => ?_, h.lastRecord_of_stoppedAt hdeposits⟩
  by_cases hiterates : m.command = .iterate
  · exact h.stoppedAt_of_lastRecord hempty hdeposits hiterates hrecord
  · -- a command that neither iterates nor handles errors leaves no record
    exfalso
    have hhandler : m.command ≠ .onError := by
      intro hcommand
      have hcaptures := hdeposits.1
      rw [hcommand] at hcaptures
      cases hcaptures
    obtain ⟨w, hleads, hafter⟩ := h.performed
    have hkept : w.channel = m.before.channel :=
      (Command.keeps_perform (f := Workspace.channel) (fun _ _ => rfl) (fun _ _ => rfl) hiterates
        hhandler _ m.arguments m.before).of_leads hleads
    rw [hafter, hdeposits.2, Command.settle, if_pos hdeposits.1] at hrecord
    change w.channel.lastRecord = some record at hrecord
    rw [hkept, hempty] at hrecord
    cases hrecord

/-- What an error handler knows of the failure of another moment. -/
structure Sees (session : Session) (handler m : Moment) (e : Error) : Prop where
  /-- The handler is the next statement of the step, with the failure to handle. -/
  receives : handler.Receives m e
  deposits : m.Deposits e
  /-- A record is there exactly if the moment is an iteration that the database stopped at it. -/
  record : ∀ record, handler.before.channel.lastRecord = some record ↔ m.StoppedAt session record e
  /-- With the action to execute its body, the handler fills in that record or none. -/
  statement : ∀ argument, handler.arguments = [argument] →
    HandlerAction.read argument.display = .ok .execute →
    ∃ answer, handler.exchanges = [⟨.execute session
      (fillFailure handler.body handler.before.channel.lastRecord e), answer⟩]

theorem Genuine.executes (h : handler.Genuine session files) (hcommand : handler.command = .onError)
    (hpending : handler.before.channel.pending = some e) {argument : Value}
    (harguments : handler.arguments = [argument])
    (haction : HandlerAction.read argument.display = .ok .execute) :
    ∃ answer, handler.exchanges = [⟨.execute session
      (fillFailure handler.body handler.before.channel.lastRecord e), answer⟩] := by
  obtain ⟨w, hleads, _⟩ := h.performed
  rw [hcommand, harguments] at hleads
  exact Command.exchanges_of_runHandler haction hpending hleads

end Moment

/-! ## Journals -/

/-- In a faithful journal, an error handler with a failure sees that of the moment before it. -/
theorem Journal.Faithful.sees {session : Session} {files : Files} {scripts : List Script}
    {exchanges : List Exchange} {j : Journal} (hj : j.Faithful session files scripts exchanges)
    {before behind : List Moment} {handler : Moment} {e : Error}
    (hmoments : j.moments = before ++ handler :: behind) (hcommand : handler.command = .onError)
    (hpending : handler.before.channel.pending = some e) :
    ∃ earlier m, before = earlier ++ [m] ∧ handler.Sees session m e := by
  obtain ⟨m, hlast, hdeposits, hchannel⟩ := hj.found before handler behind e hmoments hpending
  obtain ⟨earlier, rfl⟩ := List.getLast?_eq_some_iff.1 hlast
  have hm : m ∈ j.moments := by
    rw [hmoments]
    simp
  have hhandler : handler ∈ j.moments := by
    rw [hmoments]
    simp
  -- the moment before is no handler, for its failure was captured
  have hempty : m.before.channel = ErrorChannel.empty := by
    refine hj.clean m hm fun honError => ?_
    have hcaptures := hdeposits.1
    rw [honError] at hcaptures
    cases hcaptures
  have hreceived := hj.received
  rw [hmoments, List.append_assoc, List.singleton_append,
    List.isChain_append_cons_cons] at hreceived
  refine ⟨earlier, m, rfl, hreceived.2.1 e hdeposits, hdeposits, fun record => ?_, ?_⟩
  · rw [hchannel]
    exact (hj.genuine m hm).lastRecord_iff hempty hdeposits
  · intro argument harguments haction
    exact (hj.genuine handler hhandler).executes hcommand hpending harguments haction

/-- **The record an error handler sees is the record that failed.**  In a run of accepted scripts
against any database, each error handler that has a failure to handle sees that of the statement
directly before it in its step, and a record exactly if that statement was an iteration whose
statement for the record the database refused with this failure. -/
theorem handler_sees_failed_record {scripts : List Script}
    (hscripts : ∀ script ∈ scripts, script.Accepted) (session : Session) (files : Files)
    (evaluator : Evaluator) (recordsets : RecordsetStore) {τ : Type} (db : Backend τ) (state : τ) :
    ∃ (result : Except Error Unit) (journal : Journal) (exchanges : List Exchange) (state' : τ),
      ((Journaled.scripts Registry.withBuiltins session files scripts).run.run
        (Journal.start ⟨evaluator, ErrorChannel.empty, recordsets⟩)).recorded.run db state =
        (((result, journal), exchanges), state') ∧
      ((Run.scripts Registry.withBuiltins session files scripts).run.run
        ⟨none, none, ⟨evaluator, ErrorChannel.empty, recordsets⟩⟩).recorded.run db state =
        (((result, journal.progress), exchanges), state') ∧
      exchanges = journal.moments.flatMap Moment.exchanges ∧
      (∀ m ∈ journal.moments, m.Genuine session files ∧ m.Located scripts) ∧
      ∀ before handler behind e, journal.moments = before ++ handler :: behind →
        handler.command = .onError → handler.before.channel.pending = some e →
        ∃ earlier m, before = earlier ++ [m] ∧ handler.Sees session m e := by
  obtain ⟨result, journal, exchanges, state', hjournaled, hrun, hresult⟩ :=
    Journal.exists_of_run hscripts session files evaluator recordsets db state
  have hfaithful : journal.Faithful session files scripts exchanges := by
    cases result with
    | ok _ =>
      obtain ⟨i, hbetween⟩ := hresult
      exact hbetween.faithful
    | error e => exact hresult.faithful
  refine ⟨result, journal, exchanges, state', hjournaled, hrun, hfaithful.exchanges,
    fun m hm => ⟨hfaithful.genuine m hm, hfaithful.located m hm⟩, ?_⟩
  intro before handler behind e hmoments hcommand hpending
  exact hfaithful.sees hmoments hcommand hpending

/-- A step that inserts the records of a recordset and keeps the one that fails. -/
def keptFailure : Script :=
  ⟨1, [⟨"iterate", ["src"], " insert into t values (:src.id);\n",
      "/*-iterate src-*/ insert into t values (:src.id);\n"⟩,
    ⟨"on_error", ["execute"], " insert into errors values (:err_record.id);",
      "/*-on_error execute-*/ insert into errors values (:err_record.id);"⟩]⟩

theorem accepted_keptFailure : keptFailure.Accepted :=
  ⟨⟨"/*-iterate src-*/ insert into t values (:src.id);\n" ++
    "/*-on_error execute-*/ insert into errors values (:err_record.id);", by decide +kernel⟩,
    by decide +kernel⟩

/-- A database that refuses the second thing it is asked. -/
def secondRefused : Backend Nat where
  answer call n :=
    (match call with
      | .execute .. => if n = 1 then .error (.database "no") else .ok 1
      | _ => .error (.database "no"), n + 1)

/-- Three records with one field. -/
def threeRecords : RecordsetStore :=
  Table.empty.insert "src" ([1, 2, 3].map fun n => Table.empty.insert "id" (.integer n))

/-- The second of three records is refused, and the handler inserts it into another table. -/
theorem handler_sees_failed_record_keptFailure :
    (∀ script ∈ [keptFailure], script.Accepted) ∧
    ∃ (journal : Journal) (exchanges : List Exchange) (m handler : Moment),
      ((Run.scripts Registry.withBuiltins 0 Files.none [keptFailure]).run.run
        ⟨none, none, ⟨⟨Table.empty, Table.empty⟩, ErrorChannel.empty, threeRecords⟩⟩).recorded.run
          secondRefused 0 = (((.ok (), journal.progress), exchanges), 3) ∧
      exchanges.map Exchange.call = [.execute 0 " insert into t values (1);\n",
        .execute 0 " insert into t values (2);\n", .execute 0 " insert into errors values (2);"] ∧
      journal.moments = [m, handler] ∧ handler.Sees 0 m (.database "no") ∧
      m.StoppedAt 0 (Table.empty.insert "id" (.integer 2)) (.database "no") := by
  have hscripts : ∀ script ∈ [keptFailure], script.Accepted := by
    intro script hscript
    rw [List.mem_singleton.1 hscript]
    exact accepted_keptFailure
  obtain ⟨result, journal, exchanges, state', hjournaled, hrun, _, _, hsees⟩ :=
    handler_sees_failed_record hscripts 0 Files.none ⟨Table.empty, Table.empty⟩ threeRecords
      secondRefused 0
  have hend : (((Journaled.scripts Registry.withBuiltins 0 Files.none [keptFailure]).run.run
      (Journal.start ⟨⟨Table.empty, Table.empty⟩, ErrorChannel.empty, threeRecords⟩)).recorded.run
        secondRefused 0).map (fun r => (r.1.1, r.2.map Exchange.call,
          r.1.2.moments.map fun m => (m.command, m.before.channel))) id =
      ((.ok (), [.execute 0 " insert into t values (1);\n",
        .execute 0 " insert into t values (2);\n", .execute 0 " insert into errors values (2);"],
        [(.iterate, ErrorChannel.empty),
          (.onError,
            ⟨some (.database "no"), some (Table.empty.insert "id" (.integer 2))⟩)]), 3) := by
    decide +kernel
  rw [hjournaled, Prod.map_apply, Prod.mk.injEq, Prod.mk.injEq, Prod.mk.injEq] at hend
  obtain ⟨⟨rfl, hcalls, hmoments⟩, rfl⟩ := hend
  obtain ⟨m, others, hj, _, hothers⟩ := List.map_eq_cons_iff.1 hmoments
  obtain ⟨handler, rest, rfl, hhandler, hrest⟩ := List.map_eq_cons_iff.1 hothers
  obtain rfl : rest = [] := List.map_eq_nil_iff.1 hrest
  obtain ⟨hcommand, hchannel⟩ := Prod.mk.inj hhandler
  obtain ⟨earlier, m', hbefore, hsaw⟩ := hsees [m] handler [] (.database "no") hj hcommand
    (by rw [hchannel])
  obtain rfl : m = m' := by simpa using congrArg List.getLast? hbefore
  exact ⟨hscripts, journal, exchanges, m, handler, hrun, hcalls, hj, hsaw,
    (hsaw.record _).1 (by rw [hchannel])⟩

end StepScript
