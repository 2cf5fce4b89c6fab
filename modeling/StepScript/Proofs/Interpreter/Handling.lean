/-
# Failures are handled at once or not at all

No failure of a command is lost in a run of accepted scripts.  It meets the error handler of the
very next statement of its step, or it ends the run; a step exit, a transform exit or the end of a
step never drops it.
-/
import StepScript.Proofs.Interpreter.Account

namespace StepScript

/-! ## Dealing with failures -/

/-- An error handler with a failure that came to its end has emptied the channel. -/
theorem Moment.Genuine.clears {session : Session} {files : Files} {m handler : Moment}
    (hhandler : handler.Genuine session files) {e : Error} (hreceives : handler.Receives m e)
    {signal : Option Signal} (hok : handler.outcome = .ok signal) :
    handler.after.channel = ErrorChannel.empty ∧ ∃ argument action,
      handler.arguments[0]? = some argument ∧ HandlerAction.read argument.display = .ok action ∧
      (action = .resume ∨ action = .exitStep ∨ action = .execute) := by
  rcases hhandler.handled_of_ok hreceives.handler hok with
    ⟨hnone, _⟩ | ⟨hempty, a, action, ha, hr, hf⟩
  · rw [hreceives.pending] at hnone
    cases hnone
  · refine ⟨hempty, a, action, ha, hr, ?_⟩
    cases action with
    | resume => exact .inl rfl
    | exitStep => exact .inr (.inl rfl)
    | execute => exact .inr (.inr rfl)
    | fail => exact absurd rfl hf

namespace Journal

/-- How a run with a result deals with failures. -/
structure DealsWithFailures (result : Except Error Unit) (j : Journal) : Prop where
  /-- A command that is no error handler finds neither a failure nor a record in the channel. -/
  clean : ∀ m ∈ j.moments, m.command ≠ .onError → m.before.channel = ErrorChannel.empty
  /-- A failure is received by the error handler of the next statement of its step, or it ends the
  run, and nothing is run behind it. -/
  received : ∀ before m behind e, j.moments = before ++ m :: behind → m.Deposits e →
    (∃ handler rest, behind = handler :: rest ∧ handler.Receives m e) ∨
    (behind = [] ∧ result = .error (.unhandled e))
  /-- In a run that comes to its end, the error handler that receives a failure empties the channel,
  and its action is to continue, to exit the step or to execute its body. -/
  cleared : result = .ok () → ∀ before m behind e, j.moments = before ++ m :: behind →
    m.Deposits e → ∃ handler rest argument action, behind = handler :: rest ∧
      handler.Receives m e ∧ (∃ signal, handler.outcome = .ok signal) ∧
      handler.after.channel = ErrorChannel.empty ∧ handler.arguments[0]? = some argument ∧
      HandlerAction.read argument.display = .ok action ∧
      (action = .resume ∨ action = .exitStep ∨ action = .execute)

variable {session : Session} {files : Files} {scripts : List Script}
  {exchanges : List Exchange} {j : Journal}

theorem Faithful.receives (hj : j.Faithful session files scripts exchanges)
    {before behind : List Moment} {m handler : Moment} {e : Error}
    (hmoments : j.moments = before ++ m :: handler :: behind) (hdeposits : m.Deposits e) :
    handler.Receives m e := by
  have hchain := hj.received
  rw [hmoments, List.isChain_append_cons_cons] at hchain
  exact hchain.2.1 e hdeposits

/-- A run that came to its end has dealt with all failures. -/
theorem Between.dealsWithFailures {i : Nat} (hj : j.Between session files scripts i exchanges) :
    j.DealsWithFailures (.ok ()) := by
  have hbehind : ∀ before m behind e, j.moments = before ++ m :: behind → m.Deposits e →
      ∃ handler rest, behind = handler :: rest ∧ handler.Receives m e := by
    intro before m behind e hmoments hdeposits
    cases behind with
    | nil =>
      have hlast : m ∈ j.moments.getLast? := by
        rw [hmoments, List.getLast?_append_cons]
        rfl
      exact absurd hdeposits (hj.idle.2 m hlast e)
    | cons handler rest => exact ⟨handler, rest, rfl, hj.faithful.receives hmoments hdeposits⟩
  refine ⟨hj.faithful.clean, ?_, ?_⟩
  · intro before m behind e hmoments hdeposits
    exact .inl (hbehind before m behind e hmoments hdeposits)
  · intro _ before m behind e hmoments hdeposits
    obtain ⟨handler, rest, rfl, hreceives⟩ := hbehind before m behind e hmoments hdeposits
    have hmem : handler ∈ j.moments := by
      rw [hmoments]
      simp
    cases houtcome : handler.outcome with
    | ok signal =>
      obtain ⟨hempty, argument, action, hrest⟩ :=
        (hj.faithful.genuine handler hmem).clears hreceives houtcome
      exact ⟨handler, rest, argument, action, rfl, hreceives, ⟨signal, houtcome⟩, hempty, hrest⟩
    | error e' =>
      -- the failure of an error handler is not captured, so it would have ended the run
      have hresult : handler.result = .error e' := by
        rw [Moment.result, houtcome, hreceives.handler]
        rfl
      exact absurd hresult (hj.ongoing handler hmem e')

/-- A run that failed has dealt with all failures but the one that ended it. -/
theorem Failed.dealsWithFailures {error : Error}
    (hj : j.Failed session files scripts error exchanges) : j.DealsWithFailures (.error error) := by
  refine ⟨hj.faithful.clean, ?_, ?_⟩
  · intro before m behind e hmoments hdeposits
    cases behind with
    | cons handler rest =>
      exact .inl ⟨handler, rest, rfl, hj.faithful.receives hmoments hdeposits⟩
    | nil =>
      refine .inr ⟨rfl, ?_⟩
      obtain ⟨last, hlast, hended⟩ := hj.endedBy
      rw [hmoments, List.getLast?_append_cons] at hlast
      obtain rfl : m = last := by simpa using hlast
      rcases hended with ⟨e', hdeposits', rfl⟩ | hresult
      · obtain rfl : e = e' := Except.error.inj (hdeposits.2.symm.trans hdeposits'.2)
        rfl
      · rw [Moment.result, hdeposits.2, hdeposits.1] at hresult
        cases hresult
  · intro h
    cases h

end Journal

/-- **No failure is lost.**  Against every database, a run of accepted scripts has a journal of
which all its exchanges are a part, and by which it deals with its failures. -/
theorem run_dealsWithFailures {scripts : List Script}
    (hscripts : ∀ script ∈ scripts, script.Accepted) (session : Session) (files : Files)
    (evaluator : Evaluator) (recordsets : RecordsetStore) {τ : Type} (db : Backend τ) (state : τ) :
    ∃ (result : Except Error Unit) (journal : Journal) (exchanges : List Exchange) (state' : τ),
      ((Journaled.scripts Registry.withBuiltins session files scripts).run.run
        (Journal.start ⟨evaluator, ErrorChannel.empty, recordsets⟩)).recorded.run db state =
        (((result, journal), exchanges), state') ∧
      ((Run.scripts Registry.withBuiltins session files scripts).run.run
        ⟨none, none, ⟨evaluator, ErrorChannel.empty, recordsets⟩⟩).recorded.run db state =
        (((result, journal.progress), exchanges), state') ∧
      exchanges = journal.moments.flatMap Moment.exchanges ∧
      (∀ m ∈ journal.moments, m.Genuine session files ∧ m.Located scripts) ∧
      journal.DealsWithFailures result := by
  obtain ⟨result, journal, exchanges, state', hjournaled, hrun, hresult⟩ :=
    Journal.exists_of_run hscripts session files evaluator recordsets db state
  have hfaithful : journal.Faithful session files scripts exchanges ∧
      journal.DealsWithFailures result := by
    cases result with
    | ok _ =>
      obtain ⟨i, hbetween⟩ := hresult
      exact ⟨hbetween.faithful, hbetween.dealsWithFailures⟩
    | error e => exact ⟨hresult.faithful, hresult.dealsWithFailures⟩
  exact ⟨result, journal, exchanges, state', hjournaled, hrun, hfaithful.1.exchanges,
    fun m hm => ⟨hfaithful.1.genuine m hm, hfaithful.1.located m hm⟩, hfaithful.2⟩

/-- A step whose first statement fails on every database that refuses it, with its handler. -/
def guardedDelete : Script :=
  ⟨1, [⟨"execute", [], " delete from t;\n", "/*-execute-*/ delete from t;\n"⟩,
    ⟨"on_error", ["continue"], "", "/*-on_error continue-*/"⟩]⟩

theorem accepted_guardedDelete : guardedDelete.Accepted :=
  ⟨⟨"/*-execute-*/ delete from t;\n/*-on_error continue-*/", by decide +kernel⟩, by decide +kernel⟩

/-- A database that refuses everything. -/
def refusal : Backend Unit where
  answer _ state := (.error (.database "no"), state)

/-- The refused statement is handled, so the run comes to its end. -/
theorem run_dealsWithFailures_guardedDelete :
    (∀ script ∈ [guardedDelete], script.Accepted) ∧
    ∃ (journal : Journal) (exchanges : List Exchange),
      ((Run.scripts Registry.withBuiltins 0 Files.none [guardedDelete]).run.run
        ⟨none, none, ⟨⟨Table.empty, Table.empty⟩, ErrorChannel.empty, Table.empty⟩⟩).recorded.run
          refusal () = (((.ok (), journal.progress), exchanges), ()) ∧
      exchanges.map Exchange.call = [.execute 0 " delete from t;\n"] ∧
      exchanges = journal.moments.flatMap Moment.exchanges ∧
      (∀ m ∈ journal.moments, m.Genuine 0 Files.none ∧ m.Located [guardedDelete]) ∧
      journal.DealsWithFailures (.ok ()) := by
  have hscripts : ∀ script ∈ [guardedDelete], script.Accepted := by
    intro script hscript
    rw [List.mem_singleton.1 hscript]
    exact accepted_guardedDelete
  obtain ⟨result, journal, exchanges, state', _, hrun, hrest⟩ :=
    run_dealsWithFailures hscripts 0 Files.none ⟨Table.empty, Table.empty⟩ Table.empty refusal ()
  have hresult : (((Run.scripts Registry.withBuiltins 0 Files.none [guardedDelete]).run.run
      ⟨none, none, ⟨⟨Table.empty, Table.empty⟩, ErrorChannel.empty, Table.empty⟩⟩).recorded.run
        refusal ()).1.1.1 = .ok () := by decide +kernel
  have hcalls : (((Run.scripts Registry.withBuiltins 0 Files.none [guardedDelete]).run.run
      ⟨none, none, ⟨⟨Table.empty, Table.empty⟩, ErrorChannel.empty, Table.empty⟩⟩).recorded.run
        refusal ()).1.2.map Exchange.call = [.execute 0 " delete from t;\n"] := by decide +kernel
  rw [hrun] at hresult hcalls
  cases hresult
  exact ⟨hscripts, journal, exchanges, hrun, hcalls, hrest⟩

end StepScript
