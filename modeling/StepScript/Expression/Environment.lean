/-
# The captured environment

The environment variables a transform may refer to.  An allow-list restricts which are captured,
and unless the check is switched off a captured value must not contain anything that could end a
quoted literal or start a statement that destroys something.
-/
import StepScript.Error
import StepScript.Expression.Reference
import StepScript.Table

namespace StepScript

/-- What is captured and checked. -/
structure CaptureOptions where
  /-- Only these names are captured, if given. -/
  allowed : Option (List String)
  /-- Captured values are not checked. -/
  unchecked : Bool
  deriving DecidableEq, Repr

namespace Environment

/-- Everything is captured and checked. -/
def defaultOptions : CaptureOptions := ⟨none, false⟩

/-- The variable that holds the allow-list, names separated by commas. -/
def allowListName : String := "SNEAQL_AVAILABLE_ENV_VARS"

/-- The variable that switches the check off by being there. -/
def uncheckedName : String := "SNEAQL_DISABLE_SQL_INJECTION_CHECK"

/-- The names of an allow-list. -/
def readAllowList (list : String) : List String :=
  ((Text.fields ',' list.toList).map Text.trim).filterMap fun name =>
    if name.isEmpty then none else some (String.ofList name)

/-- The options an environment itself asks for. -/
def optionsOf (environment : Table String) : CaptureOptions :=
  ⟨(environment.get? allowListName).map readAllowList, environment.contains uncheckedName⟩

/-! ## The check -/

/-- The words that destroy or change something. -/
def destructiveWords : List (List Char) := [['d', 'r', 'o', 'p'], ['a', 'l', 't', 'e', 'r']]

/-- The things that can be destroyed. -/
def objectWords : List (List Char) :=
  ["table", "view", "user", "database", "schema", "function", "sequence", "procedure"].map
    String.toList

/-- Whether a word occurs in a text up to letter case. -/
def occursFolded (word : List Char) : List Char → Bool
  | [] => (Reference.afterFolded? word []).isSome
  | c :: cs => (Reference.afterFolded? word (c :: cs)).isSome || occursFolded word cs

/-- A destructive word at the start of a text, a white-space character, and later on the same line
one of the things that can be destroyed. -/
def startsDestructive (s : List Char) : Bool :=
  destructiveWords.any fun word =>
    match Reference.afterFolded? word s with
    | some (c :: rest) =>
      Text.isBlank c &&
        let line := rest.takeWhile (· != '\n')
        objectWords.any (occursFolded · line)
    | _ => false

/-- A text that could break out of its place in a statement. -/
def isHarmful : List Char → Bool
  | [] => false
  | c :: cs => c == '\'' || c == ';' || startsDestructive (c :: cs) || isHarmful cs

/-! ## Capturing -/

/-- The variables that are captured. -/
def visible (options : CaptureOptions) (environment : Table String) : Table String :=
  match options.allowed with
  | some names => environment.filter fun name _ => names.contains name
  | none => environment

/-- Captures an environment, unless a captured value is harmful. -/
def capture (options : CaptureOptions) (environment : Table String) :
    Except Error (Table String) :=
  let captured := visible options environment
  if options.unchecked then .ok captured
  else
    match captured.entries.find? fun e => isHarmful e.2.toList with
    | some (name, _) => .error (.injection name)
    | none => .ok captured

/-- The value of a variable, by its exact name or else by its name up to the case of ASCII
letters. -/
def lookup (environment : Table String) (name : String) : Option String :=
  environment.get? name <|>
    (environment.entries.find? fun e =>
      Text.asciiLower e.1.toList == Text.asciiLower name.toList).map (·.2)

end Environment

end StepScript
