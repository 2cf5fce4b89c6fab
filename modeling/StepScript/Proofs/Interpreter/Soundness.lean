/-
# Accepted scripts run soundly

What was checked before a run does not go wrong in it.  The arguments of every accepted statement
have values and its command is known, whatever the variables hold; and a run of accepted scripts can
fail in four ways only, each with the moment that made it fail.
-/
import StepScript.Proofs.Command.Failures
import StepScript.Proofs.Interpreter.Handling

namespace StepScript

/-- Besides the error handler, only the failures of commands that look at a condition are not
captured. -/
theorem Command.decides_of_not_captures {c : Command} (hcaptures : c.capturesErrors = false)
    (hhandler : c ≠ .onError) : c = .exitIf ∨ c = .exitStepIf ∨ c = .failIf := by
  revert hcaptures hhandler
  cases c <;> decide

/-! ## The last moment of a run that failed -/

/-- The ways in which a moment ends a run by a failure that is not captured. -/
inductive Moment.Breaks (session : Session) (m : Moment) : Error → Prop
  /-- The script asked for the failure. -/
  | forced {detail : String} (hcommand : m.command = .failIf ∨ m.command = .onError) :
      Breaks session m (.forced detail)
  /-- The comparison of the command has no result. -/
  | comparison {detail : String} {left operator right : Value}
      (hcommand : m.command = .exitIf ∨ m.command = .exitStepIf ∨ m.command = .failIf)
      (harguments : m.arguments = [left, operator, right])
      (hcompare : m.before.evaluator.compare operator.display left right =
        .error (.expression detail)) :
      Breaks session m (.expression detail)
  /-- The database refused the statement of an error handler. -/
  | handler {detail sql : String} {argument : Value} (hcommand : m.command = .onError)
      (harguments : m.arguments = [argument])
      (haction : HandlerAction.read argument.display = .ok .execute)
      (hexchanges : m.exchanges = [⟨.execute session sql, .error (.database detail)⟩]) :
      Breaks session m (.database detail)

namespace Moment

variable {session : Session} {files : Files} {m : Moment}

theorem Genuine.fits (h : m.Genuine session files) : m.command.Fits m.arguments :=
  h.accepted.fits (Outcome.mapM_eq_ok.1 h.arguments)

/-- A failure in the channel lies in the data, the files or the database. -/
theorem Genuine.isCommandFailure (h : m.Genuine session files)
    (hregular : ∀ x ∈ m.exchanges, x.Regular) {e : Error} (hdeposits : m.Deposits e) :
    e.isCommandFailure = true := by
  obtain ⟨w, hleads, _⟩ := h.performed
  exact Dialogue.always_iff.1 (Command.failsWell_perform hdeposits.1 h.fits m.before) _ _ hleads
    hregular e hdeposits.2

/-- A failure that is not captured is of one of three kinds. -/
theorem Genuine.breaks (h : m.Genuine session files) (hregular : ∀ x ∈ m.exchanges, x.Regular)
    {e : Error} (hcaptures : m.command.capturesErrors = false) (houtcome : m.outcome = .error e) :
    m.Breaks session e := by
  obtain ⟨w, hleads, _⟩ := h.performed
  have hfits := h.fits
  by_cases hhandler : m.command = .onError
  · rw [hhandler] at hleads hfits
    rcases Dialogue.always_iff.1 (Command.runHandler_error hfits session files m.body m.before) _ _
      hleads e houtcome with ⟨detail, rfl⟩ | ⟨argument, sql, harguments, haction, hexchanges⟩
    · exact .forced (.inr hhandler)
    · obtain ⟨detail, rfl⟩ := hregular ⟨.execute session sql, .error e⟩
        (by rw [hexchanges]; exact List.mem_singleton.2 rfl) rfl e rfl
      exact .handler hhandler harguments haction hexchanges
  · have hcommand := Command.decides_of_not_captures hcaptures hhandler
    rcases Dialogue.always_iff.1 (Command.perform_error_of_condition hcommand hfits _ m.before) _ _
      hleads e houtcome with ⟨hfail, detail, rfl⟩ |
        ⟨left, operator, right, harguments, hcompare, detail, rfl⟩
    · exact .forced (.inl hfail)
    · exact .comparison hcommand harguments hcompare

end Moment

/-- A run that fails has a last moment that made it fail: it left a failure in the channel that the
next statement did not handle, or it broke the run off. -/
theorem Journal.Failed.cause {session : Session} {files : Files} {scripts : List Script}
    {exchanges : List Exchange} {j : Journal} {error : Error}
    (hj : j.Failed session files scripts error exchanges) (hregular : ∀ x ∈ exchanges, x.Regular) :
    ∃ m, j.moments.getLast? = some m ∧
      ((∃ e, error = .unhandled e ∧ m.Deposits e ∧ e.isCommandFailure = true) ∨
        m.Breaks session error) := by
  obtain ⟨m, hlast, hended⟩ := hj.endedBy
  have hmem : m ∈ j.moments := List.mem_of_mem_getLast? hlast
  have hgenuine := hj.faithful.genuine m hmem
  have hregular' : ∀ x ∈ m.exchanges, x.Regular := by
    intro x hx
    apply hregular
    rw [hj.faithful.exchanges]
    exact List.mem_flatMap.2 ⟨m, hmem, hx⟩
  refine ⟨m, hlast, ?_⟩
  rcases hended with ⟨e, hdeposits, rfl⟩ | hresult
  · exact .inl ⟨e, rfl, hdeposits, hgenuine.isCommandFailure hregular' hdeposits⟩
  · refine .inr ?_
    rw [Moment.result] at hresult
    split at hresult
    · cases hresult
    · rename_i e houtcome
      split at hresult
      · cases hresult
      · rename_i hcaptures
        cases hresult
        exact hgenuine.breaks hregular' (Bool.eq_false_iff.2 hcaptures) houtcome

/-! ## Soundness -/

/-- The arguments of an accepted statement have values and its command is known, whatever the
variables hold. -/
theorem Script.Accepted.evaluates {script : Script} (h : script.Accepted) {s : Statement}
    (hs : s ∈ script.statements) (e : Evaluator) :
    (∃ values, s.arguments.mapM (fun a => e.evaluate (.text a)) = .ok values) ∧
      ∃ c, Registry.withBuiltins.command s.command = .ok c := by
  obtain ⟨c, hc⟩ := h.statement hs
  constructor
  · exact Outcome.exists_mapM_eq_ok fun a ha => e.exists_evaluate (hc.tokens a ha)
  · exact ⟨c, Registry.command_withBuiltins.2 hc.name⟩

/-- **Accepted scripts run soundly.**  On every regular database, a run of accepted scripts ends, no
statement is refused in it, and if it fails, then because of a failure of a command that was not
handled, because the script asked for it, in the statement of an error handler, or in a comparison
that decides how to go on. -/
theorem run_fails_soundly {scripts : List Script} (hscripts : ∀ script ∈ scripts, script.Accepted)
    (session : Session) (files : Files) (evaluator : Evaluator) (recordsets : RecordsetStore)
    {τ : Type} (db : Backend τ) (hdb : db.Regular) (state : τ) :
    (∀ script ∈ scripts, ∀ s ∈ script.statements, ∀ e : Evaluator,
      (∃ values, s.arguments.mapM (fun a => e.evaluate (.text a)) = .ok values) ∧
        ∃ c, Registry.withBuiltins.command s.command = .ok c) ∧
    ∃ (result : Except Error Unit) (journal : Journal) (exchanges : List Exchange) (state' : τ),
      ((Journaled.scripts Registry.withBuiltins session files scripts).run.run
        (Journal.start ⟨evaluator, ErrorChannel.empty, recordsets⟩)).recorded.run db state =
        (((result, journal), exchanges), state') ∧
      ((Run.scripts Registry.withBuiltins session files scripts).run.run
        ⟨none, none, ⟨evaluator, ErrorChannel.empty, recordsets⟩⟩).recorded.run db state =
        (((result, journal.progress), exchanges), state') ∧
      (∀ m ∈ journal.moments, m.Genuine session files ∧ m.Located scripts) ∧
      ∀ error, result = .error error → ∃ m, journal.moments.getLast? = some m ∧
        ((∃ e, error = .unhandled e ∧ m.Deposits e ∧ e.isCommandFailure = true) ∨
          m.Breaks session error) := by
  refine ⟨fun script hscript s hs e => (hscripts script hscript).evaluates hs e, ?_⟩
  obtain ⟨result, journal, exchanges, state', hjournaled, hrun, hresult⟩ :=
    Journal.exists_of_run hscripts session files evaluator recordsets db state
  have hregular : ∀ x ∈ exchanges, x.Regular := by
    have := hdb.recorded ((Run.scripts Registry.withBuiltins session files scripts).run.run
      ⟨none, none, ⟨evaluator, ErrorChannel.empty, recordsets⟩⟩) state
    rw [hrun] at this
    exact this
  refine ⟨result, journal, exchanges, state', hjournaled, hrun, ?_⟩
  cases result with
  | ok _ =>
    obtain ⟨i, hbetween⟩ := hresult
    refine ⟨fun m hm => ⟨hbetween.faithful.genuine m hm, hbetween.faithful.located m hm⟩, ?_⟩
    intro error h
    cases h
  | error e =>
    refine ⟨fun m hm => ⟨hresult.faithful.genuine m hm, hresult.faithful.located m hm⟩, ?_⟩
    intro error h
    cases h
    exact hresult.cause hregular

/-- A step whose only statement compares a truth value with a text that is none. -/
def brokenExit : Script :=
  ⟨1, [⟨"exit_if", ["true", "=", "'x'"], "", "/*-exit_if true = 'x'-*/"⟩]⟩

theorem accepted_brokenExit : brokenExit.Accepted :=
  ⟨⟨"/*-exit_if true = 'x'-*/", by decide +kernel⟩, by decide +kernel⟩

theorem regular_refusal : refusal.Regular := by
  intro call state e _ he
  cases he
  exact ⟨_, rfl⟩

/-- The comparison fails, and that ends the run. -/
theorem run_fails_soundly_brokenExit :
    (∀ script ∈ [brokenExit], script.Accepted) ∧ refusal.Regular ∧
    ∃ (journal : Journal) (exchanges : List Exchange) (m : Moment),
      ((Run.scripts Registry.withBuiltins 0 Files.none [brokenExit]).run.run
        ⟨none, none, ⟨⟨Table.empty, Table.empty⟩, ErrorChannel.empty, Table.empty⟩⟩).recorded.run
          refusal () =
        (((.error (.expression "cannot coerce 'x' to boolean"), journal.progress), exchanges), ()) ∧
      journal.moments.getLast? = some m ∧
      m.Breaks 0 (.expression "cannot coerce 'x' to boolean") := by
  have hscripts : ∀ script ∈ [brokenExit], script.Accepted := by
    intro script hscript
    rw [List.mem_singleton.1 hscript]
    exact accepted_brokenExit
  obtain ⟨_, result, journal, exchanges, state', _, hrun, _, hcause⟩ :=
    run_fails_soundly hscripts 0 Files.none ⟨Table.empty, Table.empty⟩ Table.empty refusal
      regular_refusal ()
  have hresult : (((Run.scripts Registry.withBuiltins 0 Files.none [brokenExit]).run.run
      ⟨none, none, ⟨⟨Table.empty, Table.empty⟩, ErrorChannel.empty, Table.empty⟩⟩).recorded.run
        refusal ()).1.1.1 = .error (.expression "cannot coerce 'x' to boolean") := by
    decide +kernel
  rw [hrun] at hresult
  cases hresult
  obtain ⟨m, hlast, ⟨e, he, _⟩ | hbreaks⟩ := hcause _ rfl
  · cases he
  · exact ⟨hscripts, regular_refusal, journal, exchanges, m, hrun, hlast, hbreaks⟩

end StepScript
