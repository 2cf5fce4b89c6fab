/-
# Evaluation

An evaluator holds the session variables and the captured environment.  It gives single expressions
their values, compares values, and fills the references in a statement body in.

A body is filled in one name after the other, names in descending order, so that a name comes before
every shorter name it starts with.  Environment references are first, then session references with
a colon, then those in braces.
-/
import StepScript.Expression.Comparison
import StepScript.Expression.Environment

namespace StepScript

/-- Session variables and environment of a transform. -/
structure Evaluator where
  environment : Table String
  session : Table Value
  deriving DecidableEq

namespace Evaluator

/-- An evaluator over an environment, without session variables. -/
def new (options : CaptureOptions) (environment : Table String) : Except Error Evaluator :=
  (Environment.capture options environment).map (⟨·, Table.empty⟩)

/-- Binds a session variable. -/
def assign (e : Evaluator) (name : String) (value : Value) : Except Error Evaluator :=
  if Reference.isVariableName name then .ok { e with session := e.session.insert name value }
  else .error (.variableName name)

/-! ## Single expressions -/

/-- The text between the quotes of a literal without its backslashes: each makes the character
behind it stand for itself.  None when the last one has no character behind it. -/
def unescape? : List Char → Option (List Char)
  | [] => some []
  | '\\' :: c :: rest => (unescape? rest).map (c :: ·)
  | c :: rest => if c = '\\' then none else (unescape? rest).map (c :: ·)

/-- The value of an expression given as text. -/
def evaluateText (e : Evaluator) (text : String) : Except Error Value :=
  let s := Text.trim text.toList
  match Reference.environment? s with
  | some name =>
    .ok (((Environment.lookup e.environment (String.ofList name)).map .text).getD .null)
  | none =>
    match Reference.session? s <|> Reference.braced? s with
    | some name => .ok ((e.session.get? (String.ofList name)).getD .null)
    | none =>
      if Text.asciiLower s = ['t', 'r', 'u', 'e'] then .ok (.boolean true)
      else if Text.asciiLower s = ['f', 'a', 'l', 's', 'e'] then .ok (.boolean false)
      else
        match Reference.literal? s with
        | some inner =>
          match unescape? inner with
          | some content => .ok (.text (String.ofList content))
          | none =>
            .error (.expression ("dangling escape in '" ++ String.ofList inner ++ "'"))
        | none => .ok (.text (String.ofList s))

/-- The value of an expression.  Anything but text is its own value. -/
def evaluate (e : Evaluator) : Value → Except Error Value
  | .text s => e.evaluateText s
  | other => .ok other

/-- Whether an operator, given by its name, holds of the values of two expressions. -/
def compare (e : Evaluator) (operator : String) (left right : Value) : Except Error Bool := do
  let op ← Operator.read operator
  let a ← e.evaluate left
  let b ← e.evaluate right
  op.compareValues a b

/-! ## Statement bodies -/

/-- A pass that replaces the references to one environment variable. -/
def fillEnvironment (name value : String) (sql : List Char) : List Char :=
  let mark := Reference.environmentMark ++ name.toList
  Text.replaceWith (fun rest => (Reference.afterFolded? mark rest).map fun _ =>
    (mark.length, value.toList)) sql

/-- Whether a field of one of the reserved names is referred to, by the text behind a colon. -/
def isFieldReference (reserved : List String) (afterColon : List Char) : Bool :=
  reserved.any fun name => Text.startsWith (name.toList ++ ['.']) afterColon

/-- A pass that replaces the references to one session variable, but not the start of a reference
to a field of a reserved name. -/
def fillSession (reserved : List String) (name value : String) (sql : List Char) : List Char :=
  let mark := ':' :: name.toList
  Text.replaceWith (fun rest =>
    if Text.startsWith mark rest then
      some (mark.length, if isFieldReference reserved (rest.drop 1) then mark else value.toList)
    else none) sql

/-- A pass that replaces the references in braces to one session variable. -/
def fillBraced (name value : String) (sql : List Char) : List Char :=
  Text.replace ('{' :: name.toList ++ ['}']) value.toList sql

/-- A body with its references filled in.  References to fields of the reserved names stay for the
command that knows their record. -/
def fillChars (e : Evaluator) (reserved : List String) (sql : List Char) : List Char :=
  let environment := e.environment.entries.reverse
  let session := e.session.entries.reverse
  let sql := environment.foldl (fun sql v => fillEnvironment v.1 v.2 sql) sql
  let sql := session.foldl (fun sql v => fillSession reserved v.1 v.2.display sql) sql
  session.foldl (fun sql v => fillBraced v.1 v.2.display sql) sql

/-- A body with its references filled in, as strings. -/
def fill (e : Evaluator) (reserved : List String) (sql : String) : String :=
  String.ofList (e.fillChars reserved sql.toList)

end Evaluator

end StepScript
