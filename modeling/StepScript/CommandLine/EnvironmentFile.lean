/-
# Environment files

A file with one assignment per line adds variables to an environment.  A value may be quoted, and
then it may go on over several lines; outside single quotes a dollar sign refers to another
variable.  Reading stops at the first line that is malformed, and what was read before counts.
-/
import StepScript.Table
import StepScript.Text.Blank
import StepScript.Text.Search
import StepScript.Text.Word

namespace StepScript.EnvironmentFile

/-! ## Logical lines -/

/-- Where a reader of lines is: between values, behind a blank, behind a backslash, or inside
quotes. -/
inductive LineMode where
  | plain
  | blank
  | escape
  | quoted (quote : Char)
  | quotedEscape (quote : Char)
  deriving DecidableEq, Repr

/-- The place of a reader behind a character that is not special for its mode. -/
def LineMode.open (c : Char) : LineMode :=
  if c = '\\' then .escape else if c = '"' || c = '\'' then .quoted c else .plain

/-- The place of a reader behind a character. -/
def LineMode.next (mode : LineMode) (c : Char) : LineMode :=
  match mode with
  | .plain => if Text.isBlank c && c != '\n' && c != '\r' then .blank else LineMode.open c
  | .blank => LineMode.open c
  | .escape => .plain
  | .quoted quote =>
    if c = '\\' then .quotedEscape quote else if c = quote then .plain else .quoted quote
  | .quotedEscape quote => .quoted quote

/-- Reads a physical line: the text in front of a comment, if there is one, or else the place of the
reader at the end of the line. -/
def scanLine (mode : LineMode) (seen : List Char) : List Char → Sum (List Char) LineMode
  | [] => .inr mode
  | c :: rest =>
    if mode = .blank && c = '#' then .inl seen.reverse
    else scanLine (mode.next c) (c :: seen) rest

/-- The physical lines of a text, each with its line end. -/
def physicalLines : List Char → List (List Char)
  | [] => []
  | c :: rest =>
    if c = '\n' then [c] :: physicalLines rest
    else
      match physicalLines rest with
      | [] => [[c]]
      | line :: lines => (c :: line) :: lines

/-- A line without its line end. -/
def withoutEnd (line : List Char) : List Char :=
  match line.reverse with
  | '\n' :: '\r' :: rest => rest.reverse
  | '\n' :: rest => rest.reverse
  | _ => line

/-- Joins physical lines as long as quotes stay open.  The list ends early with none when the text
ends in the middle of a line. -/
def logicalLines (before : List Char) (mode : LineMode) :
    List (List Char) → List (Option (List Char))
  | [] => if mode = .plain then [] else [none]
  | line :: rest =>
    let whole := before ++ line
    if (Text.trimStart whole).head? = some '#' then some [] :: logicalLines [] .plain rest
    else
      match scanLine mode [] line with
      | .inl front => some (before ++ front) :: logicalLines [] .plain rest
      | .inr .plain => some (withoutEnd whole) :: logicalLines [] .plain rest
      | .inr mode => logicalLines whole mode rest

/-! ## Values -/

/-- How a reference to another variable is being read: by its name alone, or between braces. -/
inductive NameMode where
  | bare
  | braced
  deriving DecidableEq, Repr

/-- A reader of a value. -/
structure ValueReader where
  /-- The value so far. -/
  output : List Char
  /-- The quote that is open. -/
  quote : Option Char
  escaped : Bool
  /-- The name of a variable that is being read, in reverse. -/
  name : Option (NameMode × List Char)
  /-- Behind the value, where only blanks and a comment may follow. -/
  ended : Bool
  deriving DecidableEq, Repr

namespace ValueReader

/-- A reader at the start of a value. -/
def start : ValueReader := ⟨[], none, false, none, false⟩

/-- Adds a character to the value. -/
def push (r : ValueReader) (c : Char) : ValueReader :=
  { r with output := r.output ++ [c] }

/-- Replaces the name that was read by the value of its variable. -/
def fill (lookup : String → Option String) (r : ValueReader) : ValueReader :=
  match r.name with
  | none => r
  | some (_, name) =>
    let value := (lookup (String.ofList name.reverse)).getD ""
    { r with output := r.output ++ value.toList, name := none }

/-- A letter or digit, as names of variables have them. -/
def isNameChar (c : Char) : Bool :=
  c.isAlphanum || (128 ≤ c.toNat && Text.isWord c)

/-- Reads a character behind a backslash. -/
def readEscaped? (r : ValueReader) (c : Char) : Option ValueReader :=
  let r := { r with escaped := false }
  if c = '\\' || c = '\'' || c = '"' || c = '$' || c = ' ' then some (r.push c)
  else if c = 'n' then some (r.push '\n')
  else none

/-- Reads a character of a name of a variable, or the one that ends it. -/
def readName (lookup : String → Option String) (r : ValueReader) (mode : NameMode)
    (name : List Char) (c : Char) : ValueReader :=
  if isNameChar c then { r with name := some (mode, c :: name) }
  else
    match mode with
    | .bare =>
      if c = '\x7b' && name.isEmpty then { r with name := some (.braced, []) }
      else if c = '$' then { r.fill lookup with name := some (.bare, []) }
      else (r.fill lookup).push c
    | .braced => if c = '\x7d' then r.fill lookup else { r with name := some (.braced, c :: name) }

/-- Reads a character that is neither escaped nor part of a name. -/
def readPlain (r : ValueReader) (c : Char) : ValueReader :=
  if r.quote = some '\'' then
    if c = '\'' then { r with quote := none } else r.push c
  else if c = '$' then { r with name := some (.bare, []) }
  else if c = '\\' then { r with escaped := true }
  else if r.quote = some '"' then
    if c = '"' then { r with quote := none } else r.push c
  else if c = '\'' || c = '"' then { r with quote := some c }
  else if c = ' ' || c = '\t' then { r with ended := true }
  else r.push c

/-- Reads the rest of a value; none if it is malformed. -/
def read? (lookup : String → Option String) : ValueReader → List Char → Option ValueReader
  | r, [] => some r
  | r, c :: rest =>
    if r.ended then
      if c = ' ' || c = '\t' then read? lookup r rest
      else if c = '#' then some r
      else none
    else if r.escaped then (r.readEscaped? c).bind (read? lookup · rest)
    else
      match r.name with
      | some (mode, name) => read? lookup (r.readName lookup mode name c) rest
      | none => read? lookup (r.readPlain c) rest

/-- The value that was read; none if a quote or a brace is open. -/
def finish? (lookup : String → Option String) (r : ValueReader) : Option String :=
  if r.quote.isSome || (r.name.map (·.1)) = some .braced then none
  else some (String.ofList (r.fill lookup).output)

end ValueReader

/-! ## Assignments -/

/-- Reads the name of a variable. -/
def readKey? (s : List Char) : Option (List Char × List Char) :=
  match s with
  | c :: _ =>
    if c.isAlpha || c = '_' then
      some (s.span fun c => c.isAlphanum || c = '_' || c = '.')
    else none
  | [] => none

/-- Reads the equals sign of an assignment. -/
def readEqual? : List Char → Option (List Char)
  | '=' :: rest => some rest
  | _ => none

/-- Reads the name in front of an assignment, with or without the word `export`. -/
def readTarget? (s : List Char) : Option (String × List Char) := do
  let (key, rest) ← readKey? s
  let rest := Text.trimStart rest
  match readEqual? rest with
  | some rest => some (String.ofList key, rest)
  | none =>
    if key = "export".toList then do
      let (key, rest) ← readKey? rest
      let rest ← readEqual? (Text.trimStart rest)
      some (String.ofList key, rest)
    else none

/-- Reads a line: an assignment, or none if the line has none.  The outer none stands for a
malformed line. -/
def readLine? (lookup : String → Option String) (line : List Char) :
    Option (Option (String × String)) :=
  let isBare (s : List Char) : Bool := s.isEmpty || s.head? = some '#'
  let s := Text.trim line
  if isBare s then some none
  else do
    let (key, rest) ← readTarget? s
    let rest := Text.trimStart rest
    if isBare rest then some (some (key, ""))
    else
      let r ← ValueReader.start.read? lookup rest
      some (some (key, ← r.finish? lookup))

/-! ## Environments -/

/-- An environment with the variables that lines assign.  A variable that is set already keeps its
value; references see the environment first and then what earlier lines assigned. -/
def loadLines (assigned environment : Table String) : List (Option (List Char)) → Table String
  | some line :: rest =>
    let lookup (name : String) : Option String := environment.get? name <|> assigned.get? name
    match readLine? lookup line with
    | none => environment
    | some none => loadLines assigned environment rest
    | some (some (key, value)) =>
      let environment :=
        if environment.contains key then environment else environment.insert key value
      loadLines (assigned.insert key value) environment rest
  | _ => environment

/-- An environment with the variables of a file that it does not have. -/
def load (environment : Table String) (contents : String) : Table String :=
  let s := contents.toList
  let s := if s.head? = some (Char.ofNat 0xFEFF) then s.drop 1 else s
  loadLines Table.empty environment (logicalLines [] .plain (physicalLines s))

end StepScript.EnvironmentFile
