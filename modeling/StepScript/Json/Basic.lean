/-
# JSON

JSON texts as trees, and the compact text of a tree.
-/
import StepScript.Double.Render
import StepScript.Json.Number
import StepScript.Table

namespace StepScript

/-- A JSON text.  Numbers keep their spelling, and a string that has half of a surrogate pair has
no content. -/
inductive Json where
  | null
  | bool (b : Bool)
  | number (text : Json.NumberText)
  | string (content : Option String)
  | array (items : List Json)
  | object (members : List (Option String × Json))

namespace Json

/-- A hexadecimal digit. -/
def hexDigit (n : Nat) : Char :=
  Char.ofNat (if n < 10 then 48 + n else 87 + n)

/-- The form of a character inside a JSON string. -/
def escapeChar (c : Char) : List Char :=
  if c = '"' then ['\\', '"']
  else if c = '\\' then ['\\', '\\']
  else if c.toNat = 8 then ['\\', 'b']
  else if c.toNat = 12 then ['\\', 'f']
  else if c = '\n' then ['\\', 'n']
  else if c = '\r' then ['\\', 'r']
  else if c = '\t' then ['\\', 't']
  else if c.toNat < 32 then ['\\', 'u', '0', '0', hexDigit (c.toNat / 16), hexDigit (c.toNat % 16)]
  else [c]

/-- A JSON string. -/
def quote (s : String) : String :=
  String.ofList ('"' :: s.toList.flatMap escapeChar ++ ['"'])

/-- A number. -/
def Number.render : Number → String
  | .integer n => toString n
  | .float x => Double.json.render x

/-- Items between brackets, separated by commas. -/
def bracketed (opening closing : String) (items : List String) : String :=
  opening ++ String.intercalate "," items ++ closing

mutual

/-- The compact text of a tree with the members of each object in ascending order of their names,
the last one of a name counting.  None when a string has no content, a number is too large or more
than `depth` arrays and objects are nested. -/
def compact? (depth : Nat) : Json → Option String
  | .null => some "null"
  | .bool b => some (if b then "true" else "false")
  | .number text => text.value?.map Number.render
  | .string content => content.map quote
  | .array items =>
    if depth = 0 then none else (compactItems? (depth - 1) items).map (bracketed "[" "]")
  | .object members =>
    if depth = 0 then none
    else
      (compactMembers? (depth - 1) members).map fun pairs =>
        bracketed "\x7b" "\x7d"
          ((Table.ofList pairs).entries.map fun (name, text) => quote name ++ ":" ++ text)

/-- The compact texts of several trees. -/
def compactItems? (depth : Nat) : List Json → Option (List String)
  | [] => some []
  | item :: rest => do
    let text ← compact? depth item
    some (text :: (← compactItems? depth rest))

/-- The names of members and the compact texts of their values. -/
def compactMembers? (depth : Nat) : List (Option String × Json) → Option (List (String × String))
  | [] => some []
  | (name, value) :: rest => do
    let name ← name
    let text ← compact? depth value
    some ((name, text) :: (← compactMembers? depth rest))

end

end Json

end StepScript
