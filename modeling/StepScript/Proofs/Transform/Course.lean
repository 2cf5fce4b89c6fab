/-
# The course of a run

The exchanges of the run of a transform are those of its stages, one behind the other: preparing,
taking the lock, opening the session, the statements, giving the lock back and closing the session.
A run ends in one of four ways, according to the stage that failed.
-/
import StepScript.Proofs.Interpreter.Visits
import StepScript.Transform

namespace StepScript

/-- The exchanges of a run, by what they are for. -/
structure Course where
  preparation : List Exchange
  acquisition : List Exchange
  /-- The connection of the session of the transform. -/
  opening : List Exchange
  /-- The statements in the session of the transform. -/
  work : List Exchange
  release : List Exchange
  /-- The end of the session of the transform. -/
  closing : List Exchange

/-- All exchanges of a run, in order. -/
def Course.log (c : Course) : List Exchange :=
  c.preparation ++ (c.acquisition ++ (c.opening ++ (c.work ++ (c.release ++ c.closing))))

/-- How a run ended. -/
inductive Ending where
  | unprepared (e : Error)
  /-- The lock was not taken. -/
  | refused (e : Error)
  /-- There is no session, or automatic commits could not be switched off in it. -/
  | unconnected (e : Error)
  /-- The scripts were run. -/
  | looped (result : Except Error Unit) (book : Logbook)

/-- What a run comes to. -/
def Ending.result : Ending → Except Error Unit
  | .unprepared e => .error e
  | .refused e => .error e
  | .unconnected e => .error e
  | .looped result _ => result

/-- The report on a run. -/
def Ending.report : Ending → Report
  | .looped result book =>
    Report.finished .completed book.progress.step book.progress.statement result
  | ending => Report.finished .completed none none ending.result

namespace Transform

variable (t : Transform) (host : Host)

/-- Everything a run needs, or why there is no run. -/
def prepared : Attempt (Ground × List Script) :=
  t.prepare (t.setUp host).1.files (t.setUp host).2

/-- What the commands of a run start with. -/
def workspace (ground : Ground) : Workspace :=
  ⟨ground.evaluator, ErrorChannel.empty, Table.empty⟩

/-- Automatic commits were switched off in a session, if the dialect has a statement for that. -/
def Switched (dialect : Dialect) (session : Session) (log : List Exchange) : Prop :=
  match dialect.autocommitOff with
  | none => log = []
  | some statement => ∃ rows, log = [⟨.execute session statement, .ok rows⟩]

/-- The scripts were run in a session, with a result and a logbook. -/
def Loops (scripts : List Script) (ground : Ground) (session : Session) (log : List Exchange)
    (result : Except Error Unit) (book : Logbook) : Prop :=
  ((Logged.scripts (Action.runStatement t.registry (some session) (t.setUp host).1.files)
    scripts).run.run (Logbook.start (workspace ground))).Leads log (result, book)

/-- **The courses of a run and their ends.** -/
inductive Goes : Course → Ending → Prop
  | unprepared {preparation : List Exchange} {e : Error}
      (hprepared : (t.prepared host).run.Leads preparation (.error e)) :
      Goes ⟨preparation, [], [], [], [], []⟩ (.unprepared e)
  | refused {preparation acquisition : List Exchange} {ground : Ground} {scripts : List Script}
      {e : Error} (hprepared : (t.prepared host).run.Leads preparation (.ok (ground, scripts)))
      (htaken : (t.takeLock ground).run.Leads acquisition (.error e)) :
      Goes ⟨preparation, acquisition, [], [], [], []⟩ (.refused e)
  | unconnected {preparation acquisition release : List Exchange} {ground : Ground}
      {scripts : List Script} (e : Error)
      (hprepared : (t.prepared host).run.Leads preparation (.ok (ground, scripts)))
      (htaken : (t.takeLock ground).run.Leads acquisition (.ok ()))
      (hreleased : (t.giveLockBack ground).Leads release ()) :
      Goes ⟨preparation, acquisition, [⟨.connect ground.connector t.config.target, .error e⟩], [],
        release, []⟩ (.unconnected e)
  | unswitched {preparation acquisition release : List Exchange} {ground : Ground}
      {scripts : List Script} {statement : String} (e : Error) (session : Session)
      (answer : Answer (.close session))
      (hprepared : (t.prepared host).run.Leads preparation (.ok (ground, scripts)))
      (htaken : (t.takeLock ground).run.Leads acquisition (.ok ()))
      (hstatement : ground.dialect.autocommitOff = some statement)
      (hreleased : (t.giveLockBack ground).Leads release ()) :
      Goes ⟨preparation, acquisition, [⟨.connect ground.connector t.config.target, .ok session⟩],
        [⟨.execute session statement, .error e⟩], release, [⟨.close session, answer⟩]⟩
        (.unconnected e)
  | looped {preparation acquisition switch during release : List Exchange} {ground : Ground}
      {scripts : List Script} {result : Except Error Unit} {book : Logbook} (session : Session)
      (answer : Answer (.close session))
      (hprepared : (t.prepared host).run.Leads preparation (.ok (ground, scripts)))
      (htaken : (t.takeLock ground).run.Leads acquisition (.ok ()))
      (hswitched : Switched ground.dialect session switch)
      (hlooped : t.Loops host scripts ground session during result book)
      (hreleased : (t.giveLockBack ground).Leads release ()) :
      Goes ⟨preparation, acquisition, [⟨.connect ground.connector t.config.target, .ok session⟩],
        switch ++ during, release, [⟨.close session, answer⟩]⟩ (.looped result book)

variable {t host}

/-! ## The statements -/

/-- Automatic commits are switched off, or not, before the scripts are run. -/
theorem leads_runIn {ground : Ground} {scripts : List Script} {session : Session}
    {log : List Exchange} {outcome : Except Error Unit} {progress : Progress} :
    (t.runIn (t.setUp host).1.files ground scripts session).Leads log (outcome, progress) ↔
      (∃ statement e, ground.dialect.autocommitOff = some statement ∧
        log = [⟨.execute session statement, .error e⟩] ∧ outcome = .error e ∧
        progress = ⟨none, none, workspace ground⟩) ∨
      (∃ switch during book, Switched ground.dialect session switch ∧ log = switch ++ during ∧
        t.Loops host scripts ground session during outcome book ∧ progress = book.progress) := by
  have hscripts : ∀ {during},
      ((Run.scripts t.registry session (t.setUp host).1.files scripts).run.run
        ⟨none, none, workspace ground⟩).Leads during (outcome, progress) ↔
      ∃ book, t.Loops host scripts ground session during outcome book ∧ progress = book.progress :=
    (Logged.projects_scripts _ scripts).leads_iff
      (s := Logbook.start (workspace ground))
  unfold runIn switchAutocommitOff Switched
  cases hstatement : ground.dialect.autocommitOff with
  | none =>
    refine Iff.trans hscripts ?_
    constructor
    · rintro ⟨book, hloop, hprogress⟩
      exact .inr ⟨[], log, book, rfl, rfl, hloop, hprogress⟩
    · rintro (⟨statement, e, hsome, _⟩ | ⟨_, during, book, rfl, rfl, hloop, hprogress⟩)
      · cases hsome
      · exact ⟨book, hloop, hprogress⟩
  | some statement =>
    refine Dialogue.leads_ask.trans ?_
    constructor
    · rintro ⟨answer, rest, rfl, hrest⟩
      cases answer with
      | error e =>
        obtain ⟨rfl, heq⟩ := Dialogue.leads_done.1 hrest
        cases heq
        exact .inl ⟨statement, e, rfl, rfl, rfl, rfl⟩
      | ok rows =>
        obtain ⟨book, hloop, hprogress⟩ := hscripts.1 hrest
        exact .inr ⟨[⟨.execute session statement, .ok rows⟩], rest, book, ⟨rows, rfl⟩, rfl, hloop,
          hprogress⟩
    · rintro (⟨_, e, hsome, rfl, rfl, rfl⟩ | ⟨_, during, book, ⟨rows, rfl⟩, rfl, hloop, hprogress⟩)
      · cases hsome
        exact ⟨.error e, [], rfl, .done _⟩
      · exact ⟨.ok rows, during, rfl, hscripts.2 ⟨book, hloop, hprogress⟩⟩

theorem runLocked_eq (files : Files) (ground : Ground) (scripts : List Script) :
    t.runLocked files ground scripts =
      .ask (.connect ground.connector t.config.target) fun answer =>
        match answer with
        | .error e => t.giveLockBack ground >>= fun _ =>
          .done (Report.finished .completed none none (.error e))
        | .ok session => t.runIn files ground scripts session >>= fun r =>
          t.giveLockBack ground >>= fun _ => .ask (.close session) fun _ =>
            .done (Report.finished .completed r.2.step r.2.statement r.1) := by
  refine congrArg (Dialogue.ask _) (funext fun answer => ?_)
  cases answer <;> rfl

/-- The lock is given back behind the statements and before the session is closed. -/
theorem leads_runLocked {ground : Ground} {scripts : List Script} {log : List Exchange}
    {report : Report} :
    (t.runLocked (t.setUp host).1.files ground scripts).Leads log report ↔
      (∃ e release, (t.giveLockBack ground).Leads release () ∧
        log = ⟨.connect ground.connector t.config.target, .error e⟩ :: release ∧
        report = Report.finished .completed none none (.error e)) ∨
      (∃ session work outcome progress release answer,
        (t.runIn (t.setUp host).1.files ground scripts session).Leads work (outcome, progress) ∧
        (t.giveLockBack ground).Leads release () ∧
        log = ⟨.connect ground.connector t.config.target, .ok session⟩ ::
          (work ++ (release ++ [⟨.close session, answer⟩])) ∧
        report = Report.finished .completed progress.step progress.statement outcome) := by
  rw [runLocked_eq, Dialogue.leads_ask]
  constructor
  · rintro ⟨answer, rest, rfl, hrest⟩
    cases answer with
    | error e =>
      obtain ⟨release, _, _, rfl, hreleased, hdone⟩ := Dialogue.leads_bind.1 hrest
      obtain ⟨rfl, rfl⟩ := Dialogue.leads_done.1 hdone
      rw [List.append_nil]
      exact .inl ⟨e, release, hreleased, rfl, rfl⟩
    | ok session =>
      obtain ⟨work, _, ⟨outcome, progress⟩, rfl, hwork, hrest⟩ := Dialogue.leads_bind.1 hrest
      obtain ⟨release, _, _, rfl, hreleased, hrest⟩ := Dialogue.leads_bind.1 hrest
      obtain ⟨answer, _, rfl, hdone⟩ := Dialogue.leads_ask.1 hrest
      obtain ⟨rfl, rfl⟩ := Dialogue.leads_done.1 hdone
      exact .inr ⟨session, work, outcome, progress, release, answer, hwork, hreleased, rfl, rfl⟩
  · rintro (⟨e, release, hreleased, rfl, rfl⟩ |
      ⟨session, work, outcome, progress, release, answer, hwork, hreleased, rfl, rfl⟩)
    · refine ⟨.error e, release, rfl, Dialogue.leads_bind.2 ⟨release, [], (), ?_, hreleased, ?_⟩⟩
      · rw [List.append_nil]
      · exact .done _
    · refine ⟨.ok session, _, rfl, Dialogue.leads_bind.2 ⟨work, _, _, rfl, hwork, ?_⟩⟩
      exact Dialogue.leads_bind.2 ⟨release, _, (), rfl, hreleased, .ask (.done _)⟩

/-! ## The whole run -/

theorem run_eq : t.run host = (t.prepared host).run >>= fun r =>
    match r with
    | .error e => .done (Ending.unprepared e).report
    | .ok (ground, scripts) => (t.takeLock ground).run >>= fun r =>
      match r with
      | .error e => .done (Ending.refused e).report
      | .ok () => t.runLocked (t.setUp host).1.files ground scripts := rfl

/-- **A run takes one of its courses**, and its report is that of the end of the course. -/
theorem leads_run {log : List Exchange} {report : Report} :
    (t.run host).Leads log report ↔
      ∃ c ending, t.Goes host c ending ∧ log = c.log ∧ report = ending.report := by
  rw [run_eq]
  constructor
  · intro h
    obtain ⟨preparation, _, prepared, rfl, hprepared, h⟩ := Dialogue.leads_bind.1 h
    rcases prepared with e | ⟨ground, scripts⟩
    · obtain ⟨rfl, rfl⟩ := Dialogue.leads_done.1 h
      exact ⟨_, _, .unprepared hprepared, rfl, rfl⟩
    obtain ⟨acquisition, _, taken, rfl, htaken, h⟩ := Dialogue.leads_bind.1 h
    rcases taken with e | _
    · obtain ⟨rfl, rfl⟩ := Dialogue.leads_done.1 h
      exact ⟨_, _, .refused hprepared htaken, by simp [Course.log], rfl⟩
    rcases leads_runLocked.1 h with ⟨e, release, hreleased, rfl, rfl⟩ |
      ⟨session, work, outcome, progress, release, answer, hwork, hreleased, rfl, rfl⟩
    · exact ⟨_, _, .unconnected e hprepared htaken hreleased, by simp [Course.log], rfl⟩
    rcases leads_runIn.1 hwork with ⟨statement, e, hstatement, rfl, rfl, rfl⟩ |
      ⟨switch, during, book, hswitched, rfl, hlooped, rfl⟩
    · exact ⟨_, _, .unswitched e session answer hprepared htaken hstatement hreleased, rfl, rfl⟩
    · exact ⟨_, _, .looped session answer hprepared htaken hswitched hlooped hreleased, rfl, rfl⟩
  · rintro ⟨c, ending, h, rfl, rfl⟩
    cases h with
    | unprepared hprepared =>
      exact Dialogue.leads_bind.2 ⟨_, _, _, rfl, hprepared, .done _⟩
    | refused hprepared htaken =>
      refine Dialogue.leads_bind.2 ⟨_, _, _, rfl, hprepared, ?_⟩
      exact Dialogue.leads_bind.2 ⟨_, _, _, rfl, htaken, .done _⟩
    | unconnected e hprepared htaken hreleased =>
      refine Dialogue.leads_bind.2 ⟨_, _, _, rfl, hprepared, ?_⟩
      refine Dialogue.leads_bind.2 ⟨_, _, _, rfl, htaken, ?_⟩
      exact leads_runLocked.2 (.inl ⟨e, _, hreleased, by simp, rfl⟩)
    | @unswitched _ _ _ ground _ _ e session answer hprepared htaken hstatement hreleased =>
      refine Dialogue.leads_bind.2 ⟨_, _, _, rfl, hprepared, ?_⟩
      refine Dialogue.leads_bind.2 ⟨_, _, _, rfl, htaken, ?_⟩
      refine leads_runLocked.2 (.inr ⟨session, _, .error e, ⟨none, none, workspace ground⟩, _,
        answer, ?_, hreleased, rfl, rfl⟩)
      exact leads_runIn.2 (.inl ⟨_, e, hstatement, rfl, rfl, rfl⟩)
    | looped session answer hprepared htaken hswitched hlooped hreleased =>
      refine Dialogue.leads_bind.2 ⟨_, _, _, rfl, hprepared, ?_⟩
      refine Dialogue.leads_bind.2 ⟨_, _, _, rfl, htaken, ?_⟩
      refine leads_runLocked.2 (.inr ⟨session, _, _, _, _, answer, ?_, hreleased, rfl, rfl⟩)
      exact leads_runIn.2 (.inr ⟨_, _, _, hswitched, rfl, hlooped, rfl⟩)

end Transform

end StepScript
