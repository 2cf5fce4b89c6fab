/-
# Connection targets

What a connection is opened with: a URL and optional credentials.
-/
import StepScript.Error
import StepScript.Text.Blank
import StepScript.Text.Letter
import StepScript.Text.Search

namespace StepScript

/-- The parameters of a connection. -/
structure Target where
  url : String
  user : Option String
  password : Option String
  deriving DecidableEq, Repr

/-- A text without the mark of a Java driver in front. -/
def withoutDriverMark (url : List Char) : List Char :=
  (Text.after? "jdbc:".toList url).getD url

/-- The scheme of a URL in lower case: what is in front of its first colon. -/
def Target.scheme (t : Target) : Except Error String :=
  match Text.cut? [':'] (withoutDriverMark (Text.trim t.url.toList)) with
  | some (c :: cs, _) => .ok (Text.lower (String.ofList (c :: cs)))
  | _ => .error (.configuration ("database url '" ++ t.url ++ "' has no scheme"))

/-- What opens connections to one kind of database. -/
inductive Connector where
  | duckdb
  | postgres
  | named (name : String)
  deriving DecidableEq, Repr

/-- The name of a connector. -/
def Connector.name : Connector → String
  | .duckdb => "duckdb"
  | .postgres => "postgres"
  | .named name => name

end StepScript
