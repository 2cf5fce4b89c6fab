/-
# Statements of a step file

A step file is a text in which tags `/*-command arguments-*/` start statements; the text between a
tag and the next one is the body of the statement, and the text before the first tag is no part of
any.  Cutting a file into statements looks at tag marks only and at nothing inside a body.
-/
import StepScript.Text.Search
import StepScript.Token

namespace StepScript

/-- One tagged command with its body. -/
structure Statement where
  command : String
  arguments : List String
  /-- What stands behind the closed tag. -/
  body : String
  /-- The whole statement as it stands in the file. -/
  text : String
  deriving DecidableEq, Repr

namespace Statement

/-- What starts a tag. -/
def tagOpen : List Char := ['/', '*', '-']

/-- What ends a tag. -/
def tagClose : List Char := ['-', '*', '/']

/-- The start of a text, as messages show it. -/
def preview (text : List Char) : String :=
  String.ofList (text.take 60)

/-- The command and the arguments in the tag of a statement. -/
def readTag (statement : List Char) : Except Error (String × List String) := do
  let inner := Text.trimStart statement
  let inner := (Text.after? tagOpen inner).getD inner
  match Text.cut? tagClose inner with
  | none => .error (.statement ("tag is not closed with '-*/': " ++ preview statement))
  | some (tag, _) =>
    match ← tokenizeChars tag with
    | [] => .error (.statement ("tag has no command: " ++ preview statement))
    | command :: arguments => .ok (String.ofList command, arguments.map String.ofList)

/-- Reads one statement from its part of the file. -/
def read (text : List Char) : Except Error Statement := do
  let (command, arguments) ← readTag text
  let body := ((Text.cut? tagClose text).map (·.2)).getD []
  .ok ⟨command, arguments, String.ofList body, String.ofList text⟩

/-- The parts of a file that start with a tag. -/
def parts (contents : List Char) : List (List Char) :=
  ((Text.pieces tagOpen contents).drop 1).map (tagOpen ++ ·)

/-- Every statement of a file with its number, counted from one, or why it cannot be read. -/
def readEach (contents : String) : List (Nat × Except Error Statement) :=
  ((parts contents.toList).zipIdx 1).map fun (part, number) => (number, read part)

/-- The numbers of the statements that cannot be read, and why. -/
def tagErrors (contents : String) : List (Nat × Error) :=
  (readEach contents).filterMap fun
    | (number, .error e) => some (number, e)
    | (_, .ok _) => none

/-- The statements of a file: all of them, or the first error. -/
def readAll (contents : String) : Except Error (List Statement) := do
  let statements ← (readEach contents).mapM (·.2)
  if statements.isEmpty then .error .noStatements else .ok statements

end Statement

end StepScript
