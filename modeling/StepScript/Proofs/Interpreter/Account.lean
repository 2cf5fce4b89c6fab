/-
# What the journal of a run shows

The journal of a run of accepted scripts is a faithful account.  Each moment is the execution of a
statement of the scripts as it stands there; a command that is no error handler starts with an empty
channel; a failure left in the channel meets the error handler of the very next statement, or it is
the last thing that happened; and what a handler finds in the channel is what the moment before it
left there.
-/
import Mathlib.Data.List.Chain
import StepScript.Proofs.Command.Channel
import StepScript.Proofs.Expression.Argument
import StepScript.Proofs.Interpreter.Journal
import StepScript.Proofs.Registry

namespace StepScript

/-! ## Moments -/

namespace Moment

/-- The moment is what becomes of its statement in its workspace: the command has the name in the
tag, the arguments and the body are those of the statement, and the database was asked what the
command asks it. -/
structure Genuine (session : Session) (files : Files) (m : Moment) : Prop where
  accepted : m.statement.Accepted m.command
  arguments : m.statement.arguments.mapM (fun a => m.before.evaluator.evaluate (.text a)) =
    .ok m.arguments
  body : m.body = m.before.evaluator.fill (reservedNames m.before.recordsets) m.statement.body
  performed : ∃ w, ((m.command.perform ⟨some session, files, m.body⟩ m.arguments).run.run
    m.before).Leads m.exchanges (m.outcome, w) ∧ m.after = (m.command.settle (m.outcome, w)).2

/-- The statement of the moment stands at its place in the scripts. -/
def Located (scripts : List Script) (m : Moment) : Prop :=
  ∃ i k script, m.step = i + 1 ∧ m.number = k + 1 ∧ scripts[i]? = some script ∧
    script.statements[k]? = some m.statement

/-- The command left a failure in the channel. -/
def Deposits (m : Moment) (e : Error) : Prop :=
  m.command.capturesErrors = true ∧ m.outcome = .error e

/-- The command is the error handler directly behind another moment, with a failure to handle. -/
structure Receives (m' m : Moment) (e : Error) : Prop where
  step : m'.step = m.step
  number : m'.number = m.number + 1
  handler : m'.command = .onError
  pending : m'.before.channel.pending = some e

/-- The command starts with the channel as the moment before left it, with a failure in it. -/
def Finds (m : Moment) (last? : Option Moment) (e : Error) : Prop :=
  ∃ last, last? = some last ∧ last.Deposits e ∧ m.before.channel = last.after.channel

/-- What the transform goes on with: a failure that is not captured, or else a signal or none. -/
def result (m : Moment) : Except Error (Option Signal) :=
  match m.outcome with
  | .ok signal => .ok signal
  | .error e => if m.command.capturesErrors then .ok none else .error e

theorem settle_fst (m : Moment) (w : Workspace) :
    (m.command.settle (m.outcome, w)).1 = m.result := by
  unfold Command.settle result
  cases m.outcome with
  | ok signal => rfl
  | error e => by_cases h : m.command.capturesErrors = true <;> simp [h]

theorem deposits_or_of_error {m : Moment} {e : Error} (h : m.outcome = .error e) :
    m.Deposits e ∨ m.command.capturesErrors = false ∧ m.result = .error e := by
  by_cases hcaptures : m.command.capturesErrors = true
  · exact .inl ⟨hcaptures, h⟩
  · refine .inr ⟨Bool.eq_false_iff.2 hcaptures, ?_⟩
    rw [result, h]
    exact if_neg hcaptures

end Moment

/-! ## The parts of a run with a journal -/

namespace Journaled

theorem ensures_ofRun {α : Type} {x : Run α} {j : Journal}
    {Q : List Exchange → Except Error α → Journal → Prop} :
    Ensures (ofRun x) j Q ↔
      Ensures x j.progress fun exchanges r p => Q exchanges r { j with progress := p } := by
  show (x.run.run j.progress >>= fun r => Dialogue.done (r.1, { j with progress := r.2 })).Always
    _ ↔ _
  rw [Dialogue.always_bind]
  simp only [Dialogue.always_done, List.append_nil]
  exact Iff.rfl

theorem ensures_command {number : Nat} {s : Statement} {c : Command} {around : Surroundings}
    {arguments : List Value} {j : Journal}
    {Q : List Exchange → Except Error (Option Signal) → Journal → Prop} :
    Ensures (command number s c around arguments) j Q ↔
      Ensures (c.perform around arguments) j.workspace fun exchanges r w =>
        Q exchanges (c.settle (r, w)).1
          (record j number s c arguments around.statement exchanges r (c.settle (r, w)).2) := by
  show (((c.perform around arguments).run.run j.workspace).recorded >>= fun r =>
      Dialogue.done ((c.settle r.1).1, record j number s c arguments around.statement r.2 r.1.1
        (c.settle r.1).2)).Always _ ↔ _
  rw [Dialogue.always_bind, Dialogue.always_recorded]
  simp only [Dialogue.always_done, List.append_nil]
  exact Iff.rfl

/-! ## One statement -/

/-- The workspace in which a statement is run: only an error handler finds what is in the
channel. -/
def ready (s : Statement) (w : Workspace) : Workspace :=
  if s.command = Command.onError.name then w else { w with channel := ErrorChannel.empty }

/-- The journal behind a statement that was not run because of a failure in the channel. -/
def stopped (j : Journal) (number : Nat) : Journal :=
  { j with progress := { j.progress with
      statement := some number
      workspace := { j.workspace with channel := ErrorChannel.empty } } }

/-- The journal behind a statement that was run. -/
def behind (j : Journal) (m : Moment) : Journal :=
  { j with
    progress := { j.progress with statement := some m.number, workspace := m.after }
    moments := j.moments ++ [m] }

/-- **All a statement can do**: it meets a failure it does not handle, or its command is run.  An
accepted statement is never refused. -/
theorem ensures_next {session : Session} {files : Files} {number : Nat} {s : Statement}
    {c : Command} (hs : s.Accepted c) {j : Journal}
    {Q : List Exchange → Except Error (Option Signal) → Journal → Prop}
    (hstopped : ∀ e, s.command ≠ Command.onError.name → j.workspace.channel.pending = some e →
      Q [] (.error (.unhandled e)) (stopped j number))
    (hbehind : ∀ m : Moment, m.Genuine session files → m.step = j.entered → m.number = number →
      m.statement = s → m.before = ready s j.workspace →
      (s.command ≠ Command.onError.name → j.workspace.channel.pending = none) →
      Q m.exchanges m.result (behind j m)) :
    Ensures (next Registry.withBuiltins session files number s) j Q := by
  obtain ⟨arguments, harguments⟩ : ∃ arguments, s.arguments.mapM
      (fun a => j.workspace.evaluator.evaluate (.text a)) = .ok arguments :=
    Outcome.exists_mapM_eq_ok fun a ha =>
      j.workspace.evaluator.exists_evaluate (hs.tokens a ha)
  have hcommand : Registry.withBuiltins.command s.command = .ok c :=
    Registry.command_withBuiltins.2 hs.name
  -- what follows once the channel was looked at, with `w` the workspace then
  have hrun : ∀ w : Workspace, w = ready s j.workspace → w.evaluator = j.workspace.evaluator →
      (s.command ≠ Command.onError.name → j.workspace.channel.pending = none) →
      Ensures (do
        let arguments ← ofRun (Run.ofAction (Action.evaluateArguments s.arguments))
        let w ← ofRun (Run.ofAction get)
        let c ← ofRun (Run.ofAction (Action.ofExcept (Registry.withBuiltins.command s.command)))
        let body := w.evaluator.fill (reservedNames w.recordsets) s.body
        command number s c ⟨some session, files, body⟩ arguments)
        { j with progress := { j.progress with statement := some number, workspace := w } } Q := by
    intro w hw hevaluator hpending
    rw [← hevaluator] at harguments
    simp only [Action.evaluateArguments, Ensures.bind_iff, ensures_ofRun, Run.ensures_ofAction,
      Ensures.get_iff, Action.ensures_ofExcept, harguments, hcommand, ensures_command,
      List.nil_append]
    refine Dialogue.always_iff.2 fun exchanges r hr => ?_
    -- the moment that the journal records, for whatever the database answered
    let m : Moment := ⟨j.entered, number, s, c, arguments,
      w.evaluator.fill (reservedNames w.recordsets) s.body, w, exchanges, r.1,
      (c.settle (r.1, r.2)).2⟩
    have hm : m.Genuine session files := ⟨hs, harguments, rfl, r.2, hr, rfl⟩
    have hQ := hbehind m hm rfl rfl rfl hw hpending
    rw [← m.settle_fst r.2] at hQ
    exact hQ
  unfold next
  simp only [Ensures.bind_iff, ensures_ofRun, Ensures.modify_iff, List.nil_append]
  by_cases hhandler : s.command = Command.onError.name
  · rw [if_neg (by simp [hhandler])]
    refine hrun j.workspace ?_ rfl fun h => absurd hhandler h
    rw [ready, if_pos hhandler]
  · rw [if_pos (by simp [hhandler])]
    rw [Ensures.bind_iff, ensures_ofRun, Run.ensures_ofAction, Action.ensures_raisePending]
    cases hpending : j.workspace.channel.pending with
    -- a failure that this statement does not handle
    | some e => exact hstopped e hhandler hpending
    | none =>
      refine hrun { j.workspace with channel := ErrorChannel.empty } ?_ rfl fun _ => hpending
      rw [ready, if_neg hhandler]

end Journaled

/-! ## What a moment does to the channel -/

namespace Moment

variable {session : Session} {files : Files} {m : Moment}

theorem Genuine.handler_iff (h : m.Genuine session files) :
    m.statement.command = Command.onError.name ↔ m.command = .onError := by
  rw [← h.accepted.name]
  constructor
  · exact Command.eq_of_name_eq
  · intro hc
    rw [hc]

/-- A command that is no error handler starts with an empty channel. -/
theorem Genuine.channel_of_ready (h : m.Genuine session files) {w : Workspace}
    (hbefore : m.before = Journaled.ready m.statement w) (hcommand : m.command ≠ .onError) :
    m.before.channel = ErrorChannel.empty := by
  rw [hbefore, Journaled.ready, if_neg]
  rw [h.handler_iff]
  exact hcommand

/-- An error handler starts with the channel as it is. -/
theorem Genuine.before_of_ready (h : m.Genuine session files) {w : Workspace}
    (hbefore : m.before = Journaled.ready m.statement w) (hcommand : m.command = .onError) :
    m.before = w := by
  rw [hbefore, Journaled.ready, if_pos]
  rw [h.handler_iff]
  exact hcommand

/-- A command that is no error handler and succeeds leaves the channel alone. -/
theorem Genuine.channel_of_ok (h : m.Genuine session files) (hhandler : m.command ≠ .onError)
    {signal : Option Signal} (hok : m.outcome = .ok signal) :
    m.after.channel = m.before.channel := by
  obtain ⟨w, hleads, hafter⟩ := h.performed
  rw [hok] at hleads hafter
  rw [hafter]
  exact (Dialogue.always_iff.1 (Command.perform_channel hhandler _ _ _) _ _ hleads).2 signal rfl

/-- A failure that is captured is in the channel afterwards. -/
theorem Genuine.pending_of_deposits (h : m.Genuine session files) {e : Error}
    (hdeposits : m.Deposits e) : m.after.channel.pending = some e := by
  obtain ⟨w, _, hafter⟩ := h.performed
  rw [hdeposits.2, Command.settle, if_pos hdeposits.1] at hafter
  rw [hafter]
  rfl

/-- The error handler that comes to its end did nothing, or emptied the channel. -/
theorem Genuine.handled_of_ok (h : m.Genuine session files) (hhandler : m.command = .onError)
    {signal : Option Signal} (hok : m.outcome = .ok signal) :
    (m.before.channel.pending = none ∧ m.after.channel = m.before.channel) ∨
    (m.after.channel = ErrorChannel.empty ∧ ∃ argument action, m.arguments[0]? = some argument ∧
      HandlerAction.read argument.display = .ok action ∧ action ≠ .fail) := by
  obtain ⟨w, hleads, hafter⟩ := h.performed
  rw [hok] at hleads hafter
  rw [hhandler] at hleads
  rw [hafter]
  rcases Dialogue.always_iff.1 (Command.runHandler_channel _ _ _) _ _ hleads signal rfl with
    ⟨hnone, _, hw⟩ | hempty
  · exact .inl ⟨hnone, congrArg Workspace.channel hw⟩
  · exact .inr hempty

end Moment

/-! ## Faithful journals -/

namespace Journal

/-- The journal is a faithful account of a run of scripts and of its exchanges. -/
structure Faithful (session : Session) (files : Files) (scripts : List Script)
    (exchanges : List Exchange) (j : Journal) : Prop where
  genuine : ∀ m ∈ j.moments, m.Genuine session files
  located : ∀ m ∈ j.moments, m.Located scripts
  /-- A command that is no error handler starts with an empty channel. -/
  clean : ∀ m ∈ j.moments, m.command ≠ .onError → m.before.channel = ErrorChannel.empty
  /-- A failure in the channel is received by the next moment. -/
  received : j.moments.IsChain fun m m' => ∀ e, m.Deposits e → m'.Receives m e
  /-- A failure that a moment finds in the channel is that of the moment before. -/
  found : ∀ before m behind e, j.moments = before ++ m :: behind →
    m.before.channel.pending = some e → m.Finds before.getLast? e
  /-- Nothing is asked outside of the moments. -/
  exchanges : exchanges = j.moments.flatMap Moment.exchanges

/-- There is no failure in the channel, and none was left there by the last moment. -/
def Idle (j : Journal) : Prop :=
  j.workspace.channel = ErrorChannel.empty ∧ ∀ m ∈ j.moments.getLast?, ∀ e, ¬ m.Deposits e

/-- Before the statement of a number, there is no failure in the channel, or one that the statement
before it left there. -/
inductive Awaits (j : Journal) (number : Nat) : Prop
  | idle (h : j.Idle)
  | failed {m : Moment} {e : Error} (hlast : j.moments.getLast? = some m) (hdeposits : m.Deposits e)
      (hpending : j.workspace.channel.pending = some e) (hstep : m.step = j.entered)
      (hnumber : m.number + 1 = number) (hchannel : j.workspace.channel = m.after.channel)

/-- No moment has ended the run. -/
def Ongoing (j : Journal) : Prop :=
  ∀ m ∈ j.moments, ∀ e, m.result ≠ .error e

/-- The last moment ended the run: it left a failure in the channel that was not handled, or it
failed without leaving it there. -/
def EndedBy (j : Journal) (error : Error) : Prop :=
  ∃ m, j.moments.getLast? = some m ∧
    ((∃ e, m.Deposits e ∧ error = .unhandled e) ∨ m.result = .error error)

section

variable (session : Session) (files : Files) (scripts : List Script)

/-- The journal between two scripts. -/
structure Between (i : Nat) (exchanges : List Exchange) (j : Journal) : Prop where
  faithful : j.Faithful session files scripts exchanges
  ongoing : j.Ongoing
  entered : j.entered = i
  idle : j.Idle

/-- The journal between two statements of a script. -/
structure Within (i k : Nat) (exchanges : List Exchange) (j : Journal) : Prop where
  faithful : j.Faithful session files scripts exchanges
  ongoing : j.Ongoing
  entered : j.entered = i + 1
  awaits : j.Awaits (k + 1)

/-- The journal of a run that failed. -/
structure Failed (error : Error) (exchanges : List Exchange) (j : Journal) : Prop where
  faithful : j.Faithful session files scripts exchanges
  endedBy : j.EndedBy error

end

variable {session : Session} {files : Files} {scripts : List Script}
  {exchanges : List Exchange} {j : Journal} {number : Nat} {m : Moment}

theorem faithful_start (w : Workspace) : Faithful session files scripts [] (start w) where
  genuine := by
    intro m hm
    cases hm
  located := by
    intro m hm
    cases hm
  clean := by
    intro m hm
    cases hm
  received := .nil
  found := by
    intro before m behind e hmoments
    simp [start] at hmoments
  exchanges := rfl

/-- What is no moment does not matter to an account. -/
theorem Faithful.of_moments {j' : Journal} (hj : j.Faithful session files scripts exchanges)
    (h : j'.moments = j.moments) : j'.Faithful session files scripts exchanges := by
  refine ⟨?_, ?_, ?_, ?_, ?_, ?_⟩ <;> rw [h]
  · exact hj.genuine
  · exact hj.located
  · exact hj.clean
  · exact hj.received
  · exact hj.found
  · exact hj.exchanges

/-- Without a failure in the channel the channel is empty. -/
theorem Awaits.channel (h : j.Awaits number) (hpending : j.workspace.channel.pending = none) :
    j.workspace.channel = ErrorChannel.empty := by
  cases h with
  | idle h => exact h.1
  | failed _ _ hsome =>
    rw [hpending] at hsome
    cases hsome

/-- A failure in the channel is the one that the last moment left there. -/
theorem Awaits.endedBy (h : j.Awaits number) {e : Error}
    (hpending : j.workspace.channel.pending = some e) : j.EndedBy (.unhandled e) := by
  cases h with
  | idle h =>
    rw [h.1] at hpending
    cases hpending
  | @failed m e' hlast hdeposits hsome =>
    rw [hpending] at hsome
    cases hsome
    exact ⟨m, hlast, .inl ⟨e, hdeposits, rfl⟩⟩

/-- One more moment keeps an account faithful. -/
theorem Faithful.behind (hj : j.Faithful session files scripts exchanges)
    (hm : m.Genuine session files) (hlocated : m.Located scripts)
    (hclean : m.command ≠ .onError → m.before.channel = ErrorChannel.empty)
    (hreceived : ∀ last ∈ j.moments.getLast?, ∀ e, last.Deposits e → m.Receives last e)
    (hfound : ∀ e, m.before.channel.pending = some e → m.Finds j.moments.getLast? e) :
    (Journaled.behind j m).Faithful session files scripts (exchanges ++ m.exchanges) := by
  have hmem : ∀ {P : Moment → Prop}, (∀ m ∈ j.moments, P m) → P m →
      ∀ m' ∈ j.moments ++ [m], P m' := by
    intro P hold hnew m' hm'
    rcases List.mem_append.1 hm' with hm' | hm'
    · exact hold m' hm'
    · rw [List.mem_singleton.1 hm']
      exact hnew
  refine ⟨hmem hj.genuine hm, hmem hj.located hlocated, hmem hj.clean hclean, ?_, ?_, ?_⟩
  · refine List.isChain_append.2 ⟨hj.received, .singleton m, ?_⟩
    rintro last hlast m' ⟨⟩
    exact hreceived last hlast
  · intro before m' behind e hmoments hpending
    change j.moments ++ [m] = before ++ m' :: behind at hmoments
    -- the moment is the new one, or one of those before it
    rcases List.eq_nil_or_concat behind with rfl | ⟨others, last, rfl⟩
    · obtain ⟨rfl, hnew⟩ := List.append_inj' hmoments rfl
      cases hnew
      exact hfound e hpending
    · rw [List.concat_eq_append, ← List.cons_append, ← List.append_assoc] at hmoments
      exact hj.found before m' others e (List.append_inj_left' hmoments rfl) hpending
  · show _ = (j.moments ++ [m]).flatMap Moment.exchanges
    rw [List.flatMap_append, hj.exchanges]
    simp

/-- A moment that comes to its end leaves nothing in the channel. -/
theorem idle_behind (hm : m.Genuine session files)
    (hclean : m.command ≠ .onError → m.before.channel = ErrorChannel.empty)
    (hhandler : m.before.channel.pending = none → m.before.channel = ErrorChannel.empty)
    {signal : Option Signal} (hok : m.outcome = .ok signal) : (Journaled.behind j m).Idle := by
  constructor
  · show m.after.channel = ErrorChannel.empty
    by_cases hcommand : m.command = .onError
    · rcases hm.handled_of_ok hcommand hok with ⟨hnone, hsame⟩ | ⟨hempty, _⟩
      · rw [hsame, hhandler hnone]
      · exact hempty
    · rw [hm.channel_of_ok hcommand hok, hclean hcommand]
  · intro last hlast e hdeposits
    obtain rfl : m = last := by simpa [Journaled.behind] using hlast
    have herror := hdeposits.2
    rw [hok] at herror
    cases herror

/-- Only an error handler is run with a failure in the channel, and the failure is that of the last
moment. -/
theorem Awaits.receives (h : j.Awaits number) (hm : m.Genuine session files)
    (hstep : m.step = j.entered) (hnumber : m.number = number)
    (hbefore : m.before = Journaled.ready m.statement j.workspace)
    (hnone : m.statement.command ≠ Command.onError.name → j.workspace.channel.pending = none) :
    ∀ last ∈ j.moments.getLast?, ∀ e, last.Deposits e → m.Receives last e := by
  intro last hlast e hdeposits
  cases h with
  | idle hidle => exact absurd hdeposits (hidle.2 last hlast e)
  | @failed last' e' hlast' hdeposits' hpending hlaststep hlastnumber =>
    obtain rfl : last' = last := Option.some.inj (hlast'.symm.trans hlast)
    obtain rfl : e' = e := Except.error.inj (hdeposits'.2.symm.trans hdeposits.2)
    have hcommand : m.command = .onError := by
      rw [← hm.handler_iff]
      by_contra hne
      rw [hnone hne] at hpending
      cases hpending
    refine ⟨hstep.trans hlaststep.symm, hnumber.trans hlastnumber.symm, hcommand, ?_⟩
    rw [hm.before_of_ready hbefore hcommand]
    exact hpending

/-- A command that finds a failure finds that of the last moment. -/
theorem Awaits.finds (h : j.Awaits number) (hm : m.Genuine session files)
    (hbefore : m.before = Journaled.ready m.statement j.workspace) :
    ∀ e, m.before.channel.pending = some e → m.Finds j.moments.getLast? e := by
  intro e hpending
  have hcommand : m.command = .onError := by
    by_contra hne
    rw [hm.channel_of_ready hbefore hne] at hpending
    cases hpending
  rw [hm.before_of_ready hbefore hcommand] at hpending
  cases h with
  | idle hidle =>
    rw [hidle.1] at hpending
    cases hpending
  | @failed last e' hlast hdeposits hsome _ _ hchannel =>
    obtain rfl : e' = e := Option.some.inj (hsome.symm.trans hpending)
    refine ⟨last, hlast, hdeposits, ?_⟩
    rw [hm.before_of_ready hbefore hcommand, hchannel]

/-- **One statement** keeps the account faithful: it goes on with at most its own failure in the
channel, it exits with an empty channel, or the run ends. -/
theorem ensures_next_within {i k : Nat} {script : Script} {s : Statement} {c : Command}
    (hs : s.Accepted c) (hscript : scripts[i]? = some script)
    (hstatement : script.statements[k]? = some s)
    (hj : j.Within session files scripts i k exchanges) :
    Ensures (Journaled.next Registry.withBuiltins session files (k + 1) s) j fun during r j' =>
      match r with
      | .ok none => j'.Within session files scripts i (k + 1) (exchanges ++ during)
      | .ok (some _) => j'.Between session files scripts (i + 1) (exchanges ++ during)
      | .error e => j'.Failed session files scripts e (exchanges ++ during) := by
  obtain ⟨hfaithful, hgoing, hentered, hawaits⟩ := hj
  refine Journaled.ensures_next hs ?_ ?_
  · intro e _ hpending
    rw [List.append_nil]
    exact ⟨hfaithful.of_moments rfl, hawaits.endedBy hpending⟩
  · intro m hm hstep hnumber hmstatement hbefore hnone
    have hlocated : m.Located scripts :=
      ⟨i, k, script, hstep.trans hentered, hnumber, hscript, hmstatement ▸ hstatement⟩
    subst hmstatement
    have hclean : m.command ≠ .onError → m.before.channel = ErrorChannel.empty :=
      hm.channel_of_ready hbefore
    have hempty : m.before.channel.pending = none → m.before.channel = ErrorChannel.empty := by
      intro hpending
      by_cases hcommand : m.command = .onError
      · rw [hm.before_of_ready hbefore hcommand] at hpending ⊢
        exact hawaits.channel hpending
      · exact hclean hcommand
    have hreceived := hawaits.receives hm hstep hnumber hbefore hnone
    have hbehind := hfaithful.behind hm hlocated hclean hreceived (hawaits.finds hm hbefore)
    -- how the run goes on depends on what the command came to
    have hongoing : (∀ e, m.result ≠ .error e) → (Journaled.behind j m).Ongoing := by
      intro hresult m' hm' e
      rcases List.mem_append.1 hm' with hm' | hm'
      · exact hgoing m' hm' e
      · rw [List.mem_singleton.1 hm']
        exact hresult e
    have hlast : (Journaled.behind j m).moments.getLast? = some m := by
      simp [Journaled.behind]
    cases houtcome : m.outcome with
    | ok signal =>
      have hresult : m.result = .ok signal := by rw [Moment.result, houtcome]
      have hidle := idle_behind (j := j) hm hclean hempty houtcome
      have hgoes := hongoing fun e => by rw [hresult]; exact fun h => by cases h
      rw [hresult]
      cases signal with
      | none => exact ⟨hbehind, hgoes, hentered, .idle hidle⟩
      | some signal => exact ⟨hbehind, hgoes, hentered, hidle⟩
    | error e =>
      -- a captured failure waits for the next statement, any other one ends the run
      rcases m.deposits_or_of_error houtcome with hdeposits | ⟨_, hresult⟩
      · have hresult : m.result = .ok none := by
          rw [Moment.result, houtcome]
          exact if_pos hdeposits.1
        have hgoes := hongoing fun e => by rw [hresult]; exact fun h => by cases h
        rw [hresult]
        refine ⟨hbehind, hgoes, hentered,
          .failed hlast hdeposits (hm.pending_of_deposits hdeposits) hstep ?_ rfl⟩
        rw [hnumber]
      · rw [hresult]
        exact ⟨hbehind, m, hlast, .inr hresult⟩

theorem ensures_enter {i : Nat} {script : Script}
    (hj : j.Between session files scripts i exchanges) :
    Ensures (Journaled.enter script) j fun during r j' =>
      match r with
      | .ok () => j'.Within session files scripts i 0 (exchanges ++ during)
      | .error e => j'.Failed session files scripts e (exchanges ++ during) := by
  unfold Journaled.enter
  simp only [Ensures.bind_iff, Ensures.modify_iff, Journaled.ensures_ofRun, List.append_nil]
  refine ⟨hj.faithful.of_moments rfl, hj.ongoing, ?_, .idle hj.idle⟩
  show j.entered + 1 = i + 1
  rw [hj.entered]

theorem ensures_leave {i k : Nat} (hj : j.Within session files scripts i k exchanges) :
    Ensures (Journaled.ofRun (Run.ofAction Action.raisePending)) j fun during r j' =>
      match r with
      | .ok () => j'.Between session files scripts (i + 1) (exchanges ++ during)
      | .error e => j'.Failed session files scripts e (exchanges ++ during) := by
  rw [Journaled.ensures_ofRun, Run.ensures_ofAction, Action.ensures_raisePending]
  cases hpending : j.workspace.channel.pending with
  | some e =>
    rw [List.append_nil]
    exact ⟨hj.faithful.of_moments rfl, hj.awaits.endedBy hpending⟩
  | none =>
    rw [List.append_nil]
    refine ⟨hj.faithful.of_moments rfl, hj.ongoing, hj.entered, rfl, ?_⟩
    cases hj.awaits with
    | idle hidle => exact hidle.2
    | failed _ _ hsome =>
      rw [hpending] at hsome
      cases hsome

/-- **The journal of a run** of accepted scripts is a faithful account.  If the run comes to its
end, no moment ended it and no failure is left in the channel; otherwise its last moment ended
it. -/
theorem ensures_scripts (session : Session) (files : Files)
    (hscripts : ∀ script ∈ scripts, script.Accepted) {w : Workspace}
    (hw : w.channel = ErrorChannel.empty) :
    Ensures (Journaled.scripts Registry.withBuiltins session files scripts) (start w)
      fun exchanges r j =>
        match r with
        | .ok () => ∃ i, j.Between session files scripts i exchanges
        | .error e => j.Failed session files scripts e exchanges := by
  have hstart : (start w).Between session files scripts 0 [] := by
    refine ⟨faithful_start w, ?_, rfl, hw, ?_⟩
    · intro m hm
      cases hm
    · intro m hm
      cases hm
  -- after either signal the journal is one between two scripts
  refine (ensures_performAll (Between session files scripts) (Within session files scripts)
    (fun exchanges j => ∃ i, j.Between session files scripts i exchanges)
    (fun i script before j _ hj => ensures_enter hj)
    (fun i script k s before j hscript hs hj => ?_)
    (fun i script before j _ hj => ensures_leave hj) (Nat.zero_le _) List.drop_zero.symm
    hstart).mono ?_
  · obtain ⟨c, hc⟩ := (hscripts script (List.mem_of_getElem? hscript)).statement
      (List.mem_of_getElem? hs)
    refine (ensures_next_within hc hscript hs hj).mono ?_
    intro exchanges r j' hj'
    match r with
    | .ok none => exact hj'
    | .ok (some .stepExit) => exact hj'
    | .ok (some .transformExit) => exact ⟨i + 1, hj'⟩
    | .error e => exact hj'
  · intro exchanges r j hj
    cases r with
    | ok _ => exact hj.elim (fun h => ⟨_, h⟩) id
    | error e => exact hj

end Journal

/-! ## Runs against a database -/

/-- **Every run of accepted scripts against a database has a journal** that is a faithful account of
it. -/
theorem Journal.exists_of_run {scripts : List Script}
    (hscripts : ∀ script ∈ scripts, script.Accepted) (session : Session) (files : Files)
    (evaluator : Evaluator) (recordsets : RecordsetStore) {τ : Type} (db : Backend τ) (state : τ) :
    ∃ (result : Except Error Unit) (journal : Journal) (exchanges : List Exchange) (state' : τ),
      ((Journaled.scripts Registry.withBuiltins session files scripts).run.run
        (Journal.start ⟨evaluator, ErrorChannel.empty, recordsets⟩)).recorded.run db state =
        (((result, journal), exchanges), state') ∧
      ((Run.scripts Registry.withBuiltins session files scripts).run.run
        ⟨none, none, ⟨evaluator, ErrorChannel.empty, recordsets⟩⟩).recorded.run db state =
        (((result, journal.progress), exchanges), state') ∧
      match result with
      | .ok () => ∃ i, journal.Between session files scripts i exchanges
      | .error e => journal.Failed session files scripts e exchanges := by
  have hrun := (Journal.ensures_scripts session files hscripts
    (w := ⟨evaluator, ErrorChannel.empty, recordsets⟩) rfl).of_run db state
  generalize hjournaled : ((Journaled.scripts Registry.withBuiltins session files scripts).run.run
    (Journal.start ⟨evaluator, ErrorChannel.empty, recordsets⟩)).recorded.run db state = out at hrun
  obtain ⟨⟨⟨result, journal⟩, exchanges⟩, state'⟩ := out
  exact ⟨result, journal, exchanges, state', rfl,
    Projects.run_recorded (erases_scripts Registry.withBuiltins session files scripts) _ db state
      hjournaled,
    hrun⟩

end StepScript
