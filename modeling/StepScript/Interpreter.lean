/-
# Running statements

How the statements of a transform follow each other.  A failure that a command left in the error
channel must be handled by the very next statement of its step; otherwise it ends the transform.
-/
import StepScript.Command.Run
import StepScript.Registry

namespace StepScript

/-- A step with the statements of its file. -/
structure Script where
  number : Int
  statements : List Statement
  deriving DecidableEq, Repr

/-! ## One statement -/

namespace Action

/-- Ends the transform with the failure in the channel, if there is one. -/
def raisePending : Action Unit := do
  let w ← get
  set { w with channel := ErrorChannel.empty }
  match w.channel.pending with
  | some e => throw (.unhandled e)
  | none => pure ()

/-- The values of the arguments of a tag. -/
def evaluateArguments (arguments : List String) : Action (List Value) := do
  let w ← get
  ofExcept (arguments.mapM fun text => w.evaluator.evaluate (.text text))

/-- Runs the command of a name with its arguments, the references in its body filled in. -/
def runNamed (registry : Registry Known) (session : Option Session) (files : Files)
    (command : String) (arguments : List Value) (body : String) : Action (Option Signal) := do
  let w ← get
  let sql := w.evaluator.fill (reservedNames w.recordsets) body
  let command ← ofExcept (registry.command command)
  command.run ⟨session, files, sql⟩ arguments

/-- Runs a statement. -/
def runStatement (registry : Registry Known) (session : Option Session) (files : Files)
    (s : Statement) : Action (Option Signal) := do
  let arguments ← evaluateArguments s.arguments
  runNamed registry session files s.command arguments s.body

/-- Runs a statement behind others.  Only an error handler may follow a failure. -/
def runNext (registry : Registry Known) (session : Option Session) (files : Files) (s : Statement) :
    Action (Option Signal) := do
  if s.command != Command.onError.name then raisePending
  runStatement registry session files s

end Action

/-! ## Statements after each other -/

section

variable {m : Type → Type} [Monad m]

/-- Performs statements, numbered from `number` on, until one gives a signal. -/
def performEach (perform : Nat → Statement → m (Option Signal)) :
    Nat → List Statement → m (Option Signal)
  | _, [] => pure none
  | number, s :: rest => do
    match ← perform number s with
    | none => performEach perform (number + 1) rest
    | some signal => pure (some signal)

/-- Performs scripts after each other.  Every script is entered and, if its statements come to their
end, left; the signal to exit a step skips to the next script, that to exit the transform skips all
the others. -/
def performAll (enter : Script → m Unit) (perform : Nat → Statement → m (Option Signal))
    (leave : m Unit) : List Script → m Unit
  | [] => pure ()
  | script :: rest => do
    enter script
    match ← performEach perform 1 script.statements with
    | none =>
      leave
      performAll enter perform leave rest
    | some .stepExit => performAll enter perform leave rest
    | some .transformExit => pure ()

end

/-! ## A whole run -/

/-- How far a run has come, and what its commands work on. -/
structure Progress where
  /-- The number of the step. -/
  step : Option Int
  /-- The number of the statement in its step, counted from one. -/
  statement : Option Nat
  workspace : Workspace
  deriving DecidableEq

/-- Something that may fail and that makes progress. -/
abbrev Run := ExceptT Error (StateT Progress Dialogue)

namespace Run

/-- What commands do, as a part of a run. -/
def ofAction {α : Type} (action : Action α) : Run α :=
  ExceptT.mk fun p => do
    let (result, workspace) ← action.run.run p.workspace
    pure (result, { p with workspace })

/-- Runs scripts in a session. -/
def scripts (registry : Registry Known) (session : Session) (files : Files) (list : List Script) :
    Run Unit :=
  performAll
    (fun script => modify fun p => { p with step := some script.number })
    (fun number s => do
      modify fun p => { p with statement := some number }
      ofAction (Action.runNext registry (some session) files s))
    (ofAction Action.raisePending) list

end Run

end StepScript
