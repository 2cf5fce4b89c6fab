/-
# The statements that a run reaches

A run that also keeps a logbook: which scripts it entered, which of their statements it reached, and
what came of each.  Without its logbook such a run is the run itself.  Unlike a journal, which is
about the commands of accepted scripts, a logbook is kept of any scripts, whatever it is to run a
statement.
-/
import Mathlib.Data.List.ModifyLast
import StepScript.Proofs.Interpreter.Account

namespace StepScript

/-! ## Any commands -/

/-- Runs a statement behind others, if `run` is what it is to run one. -/
def Action.runBehind (run : Statement → Action (Option Signal)) (s : Statement) :
    Action (Option Signal) := do
  if s.command != Command.onError.name then raisePending
  run s

/-- Runs scripts, if `run` is what it is to run a statement. -/
def Run.scriptsWith (run : Statement → Action (Option Signal)) (list : List Script) : Run Unit :=
  performAll
    (fun script => modify fun p => { p with step := some script.number })
    (fun number s => do
      modify fun p => { p with statement := some number }
      ofAction (Action.runBehind run s))
    (ofAction Action.raisePending) list

theorem Run.scripts_eq_scriptsWith (registry : Registry Known) (session : Session) (files : Files)
    (list : List Script) : Run.scripts registry session files list =
      Run.scriptsWith (Action.runStatement registry (some session) files) list := rfl

/-! ## The logbook -/

/-- One statement that a run reached. -/
structure Visit where
  /-- The number of the statement in its script, counted from one. -/
  number : Nat
  statement : Statement
  before : Workspace
  exchanges : List Exchange
  /-- What the run goes on with. -/
  result : Except Error (Option Signal)

/-- One script that a run entered, with the statements it reached there. -/
structure Passage where
  script : Script
  visits : List Visit

/-- A run and the scripts it entered so far. -/
structure Logbook where
  progress : Progress
  passages : List Passage

/-- The failure in the channel that a statement meets and does not handle. -/
def Visit.obstacle? (v : Visit) : Option Error :=
  if v.statement.command = Command.onError.name then none else v.before.channel.pending

/-- Whether the statement was executed. -/
def Visit.isExecuted (v : Visit) : Bool :=
  v.obstacle?.isNone

/-- The statements of a script that were executed. -/
def Passage.executed (p : Passage) : List Visit :=
  p.visits.filter Visit.isExecuted

/-- The logbook at the start of a run. -/
def Logbook.start (w : Workspace) : Logbook := ⟨⟨none, none, w⟩, []⟩

/-- The statements reached so far. -/
def Logbook.visits (b : Logbook) : List Visit :=
  b.passages.flatMap Passage.visits

/-- The logbook behind a statement. -/
def Logbook.behind (b : Logbook) (v : Visit) (w : Workspace) : Logbook where
  progress := { b.progress with statement := some v.number, workspace := w }
  passages := b.passages.modifyLast fun p => { p with visits := p.visits ++ [v] }

/-- A part of a run that keeps the logbook. -/
abbrev Logged := Stateful Logbook

namespace Logged

/-- Enters a script. -/
def enter (script : Script) : Logged Unit :=
  modify fun b =>
    { progress := { b.progress with step := some script.number }
      passages := b.passages ++ [⟨script, []⟩] }

/-- Runs a statement behind others. -/
def next (run : Statement → Action (Option Signal)) (number : Nat) (s : Statement) :
    Logged (Option Signal) :=
  ExceptT.mk fun b => do
    let (outcome, exchanges) ←
      ((Action.runBehind run s).run.run b.progress.workspace).recorded
    pure (outcome.1,
      b.behind ⟨number, s, b.progress.workspace, exchanges, outcome.1⟩ outcome.2)

/-- Leaves a script. -/
def leave : Logged Unit :=
  ExceptT.mk fun b => do
    let (result, progress) ← (Run.ofAction Action.raisePending).run.run b.progress
    pure (result, { b with progress })

/-- Runs scripts. -/
def scripts (run : Statement → Action (Option Signal)) (list : List Script) : Logged Unit :=
  performAll enter (next run) leave list

/-! ## Forgetting the logbook -/

theorem projects_next (run : Statement → Action (Option Signal)) (number : Nat) (s : Statement) :
    Projects Logbook.progress (next run number s) (do
      modify fun p => { p with statement := some number }
      Run.ofAction (Action.runBehind run s)) := by
  intro b
  let d := (Action.runBehind run s).run.run b.progress.workspace
  show (fun r => (r.1, r.2.progress)) <$> (d.recorded >>= fun r => Dialogue.done (r.1.1,
      b.behind ⟨number, s, b.progress.workspace, r.2, r.1.1⟩ r.1.2)) =
    d >>= fun r => Dialogue.done
      (r.1, { b.progress with statement := some number, workspace := r.2 })
  rw [map_bind]
  nth_rewrite 2 [← Dialogue.fst_recorded d]
  rw [bind_map_left]
  rfl

theorem projects_leave :
    Projects Logbook.progress leave (Run.ofAction Action.raisePending) := by
  intro b
  show (fun r => (r.1, r.2.progress)) <$> ((Run.ofAction Action.raisePending).run.run b.progress >>=
    fun r => Dialogue.done (r.1, { b with progress := r.2 })) = _
  rw [map_bind]
  exact bind_pure ((Run.ofAction Action.raisePending).run.run b.progress)

/-- **The run of scripts with a logbook, without the logbook, is the run of scripts.** -/
theorem projects_scripts (run : Statement → Action (Option Signal)) (list : List Script) :
    Projects Logbook.progress (scripts run list) (Run.scriptsWith run list) := by
  refine projects_performAll (fun script => ?_) (projects_next run) projects_leave list
  intro b
  rfl

end Logged

/-! ## One statement -/

/-- **All a statement can do**: it meets a failure that it does not handle, or it is run. -/
theorem Action.ensures_runBehind {run : Statement → Action (Option Signal)} {s : Statement}
    {w : Workspace}
    {Q : List Exchange → Except Error (Option Signal) → Workspace → Prop}
    (hstopped : ∀ e, s.command ≠ Command.onError.name → w.channel.pending = some e →
      Q [] (.error (.unhandled e)) { w with channel := ErrorChannel.empty })
    (hrun : (s.command ≠ Command.onError.name → w.channel.pending = none) →
      Ensures (run s) (Journaled.ready s w) Q) :
    Ensures (runBehind run s) w Q := by
  unfold runBehind
  by_cases hhandler : s.command = Command.onError.name
  · have hw := hrun fun h => absurd hhandler h
    rw [Journaled.ready, if_pos hhandler] at hw
    rw [if_neg (by simp [hhandler])]
    exact hw
  · rw [if_pos (by simp [hhandler]), Ensures.bind_iff, Action.ensures_raisePending]
    cases hpending : w.channel.pending with
    | some e => exact hstopped e hhandler hpending
    | none =>
      have hw := hrun fun _ => hpending
      rw [Journaled.ready, if_neg hhandler] at hw
      exact hw

/-- The visit is what becomes of its statement in its workspace. -/
structure Visit.Genuine (run : Statement → Action (Option Signal)) (v : Visit) : Prop where
  /-- A statement that meets a failure it does not handle asks nothing and ends the run. -/
  stopped : ∀ e, v.obstacle? = some e → v.result = .error (.unhandled e) ∧ v.exchanges = []
  /-- Any other statement is run. -/
  performed : v.obstacle? = none → ∃ w,
    ((run v.statement).run.run (Journaled.ready v.statement v.before)).Leads v.exchanges
      (v.result, w)

theorem Logged.ensures_next {run : Statement → Action (Option Signal)} {number : Nat}
    {s : Statement} {b : Logbook}
    {Q : List Exchange → Except Error (Option Signal) → Logbook → Prop}
    (hQ : ∀ v w, v.Genuine run → v.number = number → v.statement = s →
      Q v.exchanges v.result (b.behind v w)) :
    Ensures (next run number s) b Q := by
  show ((((Action.runBehind run s).run.run b.progress.workspace).recorded >>= fun r =>
    Dialogue.done (r.1.1,
      b.behind ⟨number, s, b.progress.workspace, r.2, r.1.1⟩ r.1.2)).Always _)
  rw [Dialogue.always_bind, Dialogue.always_recorded]
  simp only [Dialogue.always_done, List.append_nil]
  -- the visit that the logbook records, for whatever the database answered
  refine Action.ensures_runBehind (Q := fun exchanges r w => Q exchanges r
    (b.behind ⟨number, s, b.progress.workspace, exchanges, r⟩ w)) ?_ ?_
  · intro e hhandler hpending
    refine hQ ⟨number, s, b.progress.workspace, [], .error (.unhandled e)⟩ _ ⟨?_, ?_⟩ rfl rfl
    · intro e' he'
      rw [Visit.obstacle?, if_neg hhandler, hpending] at he'
      cases he'
      exact ⟨rfl, rfl⟩
    · intro hnone
      rw [Visit.obstacle?, if_neg hhandler, hpending] at hnone
      cases hnone
  · intro hnone
    refine Dialogue.always_iff.2 fun exchanges r hr => ?_
    refine hQ ⟨number, s, b.progress.workspace, exchanges, r.1⟩ _ ⟨?_, ?_⟩ rfl rfl
    · intro e he
      have hobstacle : Visit.obstacle? ⟨number, s, b.progress.workspace, exchanges, r.1⟩ = none :=
        ite_eq_left_iff.2 hnone
      rw [hobstacle] at he
      cases he
    · exact fun _ => ⟨r.2, hr⟩

theorem Logged.ensures_leave {b : Logbook} {Q : List Exchange → Except Error Unit → Logbook → Prop}
    (hraised : ∀ e, Q [] (.error (.unhandled e)) { b with progress := { b.progress with
      workspace := { b.progress.workspace with channel := ErrorChannel.empty } } })
    (hleft : Q [] (.ok ()) { b with progress := { b.progress with
      workspace := { b.progress.workspace with channel := ErrorChannel.empty } } }) :
    Ensures leave b Q := by
  show ((Run.ofAction Action.raisePending).run.run b.progress >>= fun r =>
    Dialogue.done (r.1, { b with progress := r.2 })).Always _
  rw [Dialogue.always_bind]
  simp only [Dialogue.always_done, List.append_nil]
  show Ensures (Run.ofAction Action.raisePending) b.progress fun exchanges r p =>
    Q exchanges r { b with progress := p }
  rw [Run.ensures_ofAction, Action.ensures_raisePending]
  cases b.progress.workspace.channel.pending with
  | some e => exact hraised e
  | none => exact hleft

end StepScript
