/-
# Commands

The commands a tag may name, the arguments they take, and the check of the arguments of a tag before
anything runs.
-/
import StepScript.Recordset

namespace StepScript

/-- What an argument has to be. -/
inductive ArgumentKind where
  | variableName
  | expression
  | operator
  | recordsetName
  deriving DecidableEq, Repr

/-- Whether an argument is of a kind; white space around it does not count. -/
def ArgumentKind.accepts (kind : ArgumentKind) (argument : String) : Bool :=
  let a := Text.trimmed argument
  match kind with
  | .variableName => Reference.isVariableName a
  | .expression => Reference.isExpression a
  | .operator => (Operator.read a).toOption.isSome
  | .recordsetName => Reference.isRecordsetName a

/-- Whether there is one argument of each kind, in order. -/
def acceptsArguments : List ArgumentKind → List String → Bool
  | [], [] => true
  | kind :: kinds, a :: rest => kind.accepts a && acceptsArguments kinds rest
  | _, _ => false

/-- What an error handler does with a failure. -/
inductive HandlerAction where
  /-- Goes on with the next statement. -/
  | resume
  /-- Leaves the rest of the step out. -/
  | exitStep
  /-- Runs the body, with the details of the failure filled in. -/
  | execute
  /-- Ends the transform as failed. -/
  | fail
  deriving DecidableEq, Repr

/-- The action a text spells, in any letter case. -/
def HandlerAction.read (s : String) : Except Error HandlerAction :=
  let name := Text.lower (Text.trimmed s)
  if name == "continue" then .ok .resume
  else if name == "exit_step" then .ok .exitStep
  else if name == "execute" then .ok .execute
  else if name == "fail" then .ok .fail
  else .error (.statement ("unknown on_error action '" ++ name ++ "'"))

/-- A command. -/
inductive Command where
  | assign
  | assignResult
  | execute
  | executeIf
  | test
  | exitIf
  | exitStepIf
  | failIf
  | recordset
  | removeRecordset
  | iterate
  | recordsetOfPaths
  | onError
  deriving DecidableEq, Repr

namespace Command

/-- The name of a command in a tag. -/
def name : Command → String
  | .assign => "assign"
  | .assignResult => "assign_result"
  | .execute => "execute"
  | .executeIf => "execute_if"
  | .test => "test"
  | .exitIf => "exit_if"
  | .exitStepIf => "exit_step_if"
  | .failIf => "fail_if"
  | .recordset => "recordset"
  | .removeRecordset => "remove_recordset"
  | .iterate => "iterate"
  | .recordsetOfPaths => "rs_from_local_dir"
  | .onError => "on_error"

/-- Every command. -/
def all : List Command :=
  [.assign, .assignResult, .execute, .executeIf, .test, .exitIf, .exitStepIf, .failIf, .recordset,
   .removeRecordset, .iterate, .recordsetOfPaths, .onError]

/-- The command of a name. -/
def ofName? (name : String) : Option Command :=
  all.find? (·.name == name)

/-- Whether the failure of a command is left in the error channel.  The failure of a command that
decides how the transform goes on ends it. -/
def capturesErrors : Command → Bool
  | .exitIf | .exitStepIf | .failIf | .onError => false
  | _ => true

/-- The arguments of a command that always has the same number of them. -/
def argumentKinds : Command → List ArgumentKind
  | .assign => [.variableName, .expression]
  | .assignResult => [.variableName]
  | .execute => []
  | .executeIf | .exitIf | .exitStepIf | .failIf => [.expression, .operator, .expression]
  | .test => [.operator, .expression]
  | .recordset | .removeRecordset | .iterate => [.recordsetName]
  | .recordsetOfPaths => [.recordsetName, .expression]
  | .onError => []

/-- Whether arguments are complete groups of mode, field, operator and expression. -/
def acceptsConditions : List String → Bool
  | [] => true
  | mode :: field :: operator :: expression :: rest =>
    (Condition.readMode mode).toOption.isSome && Reference.isRecordsetName field &&
      (Operator.read operator).toOption.isSome && Reference.isExpression expression &&
      acceptsConditions rest
  | _ => false

/-- Whether the arguments of a tag are ones that its command takes. -/
def accepts (c : Command) (arguments : List String) : Bool :=
  match c, arguments with
  | .iterate, target :: conditions =>
    Reference.isRecordsetName target && acceptsConditions conditions
  | .onError, [action] => (HandlerAction.read action).toOption.isSome
  | .onError, _ => false
  | c, arguments => acceptsArguments c.argumentKinds arguments

end Command

end StepScript
