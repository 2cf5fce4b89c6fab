/-
# Runs with a journal

A run that also keeps a journal: each execution of a command becomes a moment, with what the command
was given, what it asked the database, how it ended and what it left behind.  Without its journal
such a run is the run itself.
-/
import StepScript.Proofs.Interpreter.Loop

namespace StepScript

/-! ## Captured failures -/

/-- What a transform goes on with after a command: a captured failure has become the failure in the
channel. -/
def Command.settle (c : Command) :
    Except Error (Option Signal) × Workspace → Except Error (Option Signal) × Workspace
  | (.ok signal, w) => (.ok signal, w)
  | (.error e, w) =>
    if c.capturesErrors then (.ok none, { w with channel := w.channel.deposit e })
    else (.error e, w)

/-- Running a command is performing it and settling its outcome. -/
theorem Command.run_eq_settle (c : Command) (around : Surroundings) (arguments : List Value)
    (w : Workspace) :
    (c.run around arguments).run.run w = c.settle <$> (c.perform around arguments).run.run w := by
  unfold Command.run
  by_cases hcaptures : c.capturesErrors = true
  · rw [if_pos hcaptures, ExceptT.run_tryCatch, StateT.run_bind, map_eq_pure_bind]
    refine congrArg _ (funext fun r => ?_)
    obtain ⟨e | signal, w'⟩ := r
    · rw [Command.settle, if_pos hcaptures]
      rfl
    · rfl
  · rw [if_neg hcaptures]
    refine (id_map _).symm.trans (congrArg (· <$> _) (funext fun r => ?_))
    obtain ⟨e | signal, w'⟩ := r
    · rw [Command.settle, if_neg hcaptures]
      rfl
    · rfl

/-! ## The journal -/

/-- One execution of a command in a run. -/
structure Moment where
  /-- The step, counted from one in the order in which the steps are entered. -/
  step : Nat
  /-- The number of the statement in its step, counted from one. -/
  number : Nat
  statement : Statement
  command : Command
  /-- The values of the arguments. -/
  arguments : List Value
  /-- The body with its references filled in. -/
  body : String
  before : Workspace
  exchanges : List Exchange
  /-- How the command ended, its failure not captured. -/
  outcome : Except Error (Option Signal)
  after : Workspace

/-- A run and its moments so far. -/
structure Journal where
  progress : Progress
  /-- How many steps have been entered. -/
  entered : Nat
  moments : List Moment

/-- The journal at the start of a run. -/
def Journal.start (w : Workspace) : Journal := ⟨⟨none, none, w⟩, 0, []⟩

/-- What commands work on at this point of the journal. -/
abbrev Journal.workspace (j : Journal) : Workspace := j.progress.workspace

/-- A part of a run that keeps the journal. -/
abbrev Journaled := Stateful Journal

namespace Journaled

/-- A part of a run without moments. -/
def ofRun {α : Type} (x : Run α) : Journaled α :=
  ExceptT.mk fun j => do
    let (result, progress) ← x.run.run j.progress
    pure (result, { j with progress })

/-- Enters a step. -/
def enter (script : Script) : Journaled Unit := do
  modify fun j => { j with entered := j.entered + 1 }
  ofRun (modify fun p => { p with step := some script.number })

/-- The journal with one more moment. -/
def record (j : Journal) (number : Nat) (s : Statement) (c : Command) (arguments : List Value)
    (body : String) (exchanges : List Exchange) (outcome : Except Error (Option Signal))
    (w : Workspace) : Journal :=
  { j with
    progress := { j.progress with workspace := w }
    moments := j.moments ++
      [⟨j.entered, number, s, c, arguments, body, j.workspace, exchanges, outcome, w⟩] }

/-- Runs a command and records the moment. -/
def command (number : Nat) (s : Statement) (c : Command) (around : Surroundings)
    (arguments : List Value) : Journaled (Option Signal) :=
  ExceptT.mk fun j => do
    let (outcome, exchanges) ← ((c.perform around arguments).run.run j.workspace).recorded
    let settled := c.settle outcome
    pure (settled.1,
      record j number s c arguments around.statement exchanges outcome.1 settled.2)

/-- Runs a statement behind others. -/
def next (registry : Registry Known) (session : Session) (files : Files) (number : Nat)
    (s : Statement) : Journaled (Option Signal) := do
  ofRun (modify fun p => { p with statement := some number })
  if s.command != Command.onError.name then ofRun (Run.ofAction Action.raisePending)
  let arguments ← ofRun (Run.ofAction (Action.evaluateArguments s.arguments))
  let w ← ofRun (Run.ofAction get)
  let c ← ofRun (Run.ofAction (Action.ofExcept (registry.command s.command)))
  let body := w.evaluator.fill (reservedNames w.recordsets) s.body
  command number s c ⟨some session, files, body⟩ arguments

/-- Runs scripts in a session. -/
def scripts (registry : Registry Known) (session : Session) (files : Files) (list : List Script) :
    Journaled Unit :=
  performAll enter (next registry session files) (ofRun (Run.ofAction Action.raisePending)) list

end Journaled

/-! ## Forgetting the journal -/

/-- A part of a run with a journal does to everything but the journal what a part of a run does. -/
def Erases {α : Type} (x : Journaled α) (y : Run α) : Prop :=
  ∀ j, (fun r => (r.1, r.2.progress)) <$> x.run.run j = y.run.run j.progress

namespace Erases

variable {α β : Type}

theorem pure (a : α) : Erases (Pure.pure a) (Pure.pure a) :=
  Projects.pure Journal.progress a

theorem ofRun (x : Run α) : Erases (Journaled.ofRun x) x := by
  intro j
  show (fun r => (r.1, r.2.progress)) <$> (x.run.run j.progress >>= fun r =>
    Pure.pure (r.1, { j with progress := r.2 })) = _
  rw [map_bind]
  exact bind_pure (x.run.run j.progress)

theorem bind {x : Journaled α} {y : Run α} {f : α → Journaled β} {g : α → Run β}
    (hx : Erases x y) (hf : ∀ a, Erases (f a) (g a)) : Erases (x >>= f) (y >>= g) :=
  Projects.bind hx hf

/-- What happens to the journal alone leaves no trace. -/
theorem modify_bind {f : Journal → Journal} (hf : ∀ j, (f j).progress = j.progress)
    {x : Journaled α} {y : Run α} (hx : Erases x y) :
    Erases ((modify f : Journaled PUnit) >>= fun _ => x) y := by
  intro j
  exact (hx (f j)).trans (congrArg _ (hf j))

end Erases

theorem Run.ofAction_bind {α β : Type} (x : Action α) (f : α → Action β) :
    Run.ofAction (x >>= f) = Run.ofAction x >>= fun a => Run.ofAction (f a) := by
  refine ExceptT.ext (funext fun p => ?_)
  show (x >>= f).run.run p.workspace >>= (fun r => pure (r.1, { p with workspace := r.2 })) = _
  rw [ExceptT.run_bind, StateT.run_bind, bind_assoc]
  refine Eq.trans ?_ (bind_assoc (m := Dialogue) _ _ _).symm
  refine congrArg _ (funext fun r => ?_)
  obtain ⟨e | a, w'⟩ := r
  · rfl
  · rfl

theorem erases_command (number : Nat) (s : Statement) (c : Command) (around : Surroundings)
    (arguments : List Value) :
    Erases (Journaled.command number s c around arguments)
      (Run.ofAction (c.run around arguments)) := by
  intro j
  show (fun r => (r.1, r.2.progress)) <$>
      (((c.perform around arguments).run.run j.workspace).recorded >>= fun r =>
        Dialogue.done ((c.settle r.1).1, Journaled.record j number s c arguments
          around.statement r.2 r.1.1 (c.settle r.1).2)) =
    (c.run around arguments).run.run j.workspace >>= fun r =>
      Dialogue.done (r.1, { j.progress with workspace := r.2 })
  rw [map_bind, Command.run_eq_settle, bind_map_left,
    ← Dialogue.fst_recorded ((c.perform around arguments).run.run j.workspace), bind_map_left,
    Dialogue.fst_recorded]
  rfl

theorem erases_next (registry : Registry Known) (session : Session) (files : Files) (number : Nat)
    (s : Statement) :
    Erases (Journaled.next registry session files number s) (do
      modify fun p => { p with statement := some number }
      Run.ofAction (Action.runNext registry (some session) files s)) := by
  refine (Erases.ofRun _).bind fun _ => ?_
  have hstatement : Erases
      (do
        let arguments ← Journaled.ofRun (Run.ofAction (Action.evaluateArguments s.arguments))
        let w ← Journaled.ofRun (Run.ofAction get)
        let c ← Journaled.ofRun (Run.ofAction (Action.ofExcept (registry.command s.command)))
        let body := w.evaluator.fill (reservedNames w.recordsets) s.body
        Journaled.command number s c ⟨some session, files, body⟩ arguments)
      (Run.ofAction (Action.runStatement registry (some session) files s)) := by
    unfold Action.runStatement
    rw [Run.ofAction_bind]
    refine (Erases.ofRun _).bind fun arguments => ?_
    unfold Action.runNamed
    rw [Run.ofAction_bind]
    refine (Erases.ofRun _).bind fun w => ?_
    dsimp only
    rw [Run.ofAction_bind]
    refine (Erases.ofRun _).bind fun c => ?_
    exact erases_command number s c _ arguments
  unfold Action.runNext
  split
  · rw [Run.ofAction_bind]
    exact (Erases.ofRun _).bind fun _ => hstatement
  · exact hstatement

/-- **The run of scripts with a journal, without the journal, is the run of scripts.** -/
theorem erases_scripts (registry : Registry Known) (session : Session) (files : Files)
    (list : List Script) :
    Erases (Journaled.scripts registry session files list)
      (Run.scripts registry session files list) := by
  refine projects_performAll (fun script => ?_) (erases_next registry session files)
    (Erases.ofRun _) list
  refine Erases.modify_bind ?_ (Erases.ofRun _)
  intro j
  rfl

end StepScript
