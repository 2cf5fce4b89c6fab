/-
# Path patterns

A path pattern is a path whose parts may have wildcards: `?` for any character, `*` for any text, a
bracket for one character of a set, and `**` as a whole part for any number of directories.  A
pattern finds the paths of a file tree that it matches, a directory before what is in it and
everything in one directory in ascending order of the names.
-/
import StepScript.Files.Tree

namespace StepScript.Glob

/-! ## Patterns -/

/-- A range of characters in a bracket; a single character is a range of one. -/
structure CharRange where
  first : Char
  last : Char
  deriving DecidableEq, Repr

/-- One element of a pattern. -/
inductive Piece where
  | char (c : Char)
  | anyChar
  | anyText
  | anyDirectories
  | within (ranges : List CharRange)
  | without (ranges : List CharRange)
  deriving DecidableEq, Repr

/-- What is wrong with a pattern. -/
inductive FaultKind where
  | wildcards
  | recursive
  | bracket
  deriving DecidableEq, Repr

/-- A fault and the character of the pattern at which it is noticed. -/
structure Fault where
  position : Nat
  kind : FaultKind
  deriving DecidableEq, Repr

/-- The wording of a fault. -/
def Fault.message (f : Fault) : String :=
  "Pattern syntax error near position " ++ toString f.position ++ ": " ++
    match f.kind with
    | .wildcards => "wildcards are either regular `*` or recursive `**`"
    | .recursive => "recursive wildcards must form a single path component"
    | .bracket => "invalid range pattern"

/-- The ranges that the characters of a bracket stand for. -/
def readRanges : List Char → List CharRange
  | a :: '-' :: b :: rest => ⟨a, b⟩ :: readRanges rest
  | a :: rest => ⟨a, a⟩ :: readRanges rest
  | [] => []

/-- Reads a bracket from behind its opening on.  The first character in it stands for itself even
if it is a closing bracket.  The result is the piece and the number of characters read. -/
def readBracket? : List Char → Option (Piece × Nat)
  | '!' :: first :: rest =>
    if rest.contains ']' then
      let inner := rest.takeWhile (· != ']')
      some (.without (readRanges (first :: inner)), inner.length + 3)
    else none
  | first :: rest =>
    if first ≠ '!' && rest.contains ']' then
      let inner := rest.takeWhile (· != ']')
      some (.within (readRanges (first :: inner)), inner.length + 2)
    else none
  | [] => none

/-- Reads a pattern from a position on, passing over `skip` characters first; `before` is the
character in front. -/
def readFrom : Nat → Nat → Option Char → List Char → Except Fault (List Piece)
  | _, _, _, [] => .ok []
  | skip + 1, position, _, c :: rest => readFrom skip (position + 1) (some c) rest
  | 0, position, before, c :: rest =>
    if c = '?' then do
      .ok (.anyChar :: (← readFrom 0 (position + 1) (some c) rest))
    else if c = '*' then
      let stars := 1 + (rest.takeWhile (· == '*')).length
      if stars = 1 then do
        .ok (.anyText :: (← readFrom 0 (position + 1) (some c) rest))
      else if 2 < stars then .error ⟨position + 2, .wildcards⟩
      else if before.isSome && before ≠ some '/' then .error ⟨position - 1, .recursive⟩
      else
        match rest.drop 1 with
        | [] => .ok [.anyDirectories]
        | d :: _ =>
          if d = '/' then do
            .ok (.anyDirectories :: (← readFrom 2 (position + 1) (some c) rest))
          else .error ⟨position + 2, .recursive⟩
    else if c = '[' then
      match readBracket? rest with
      | some (piece, length) => do
        .ok (piece :: (← readFrom length (position + 1) (some c) rest))
      | none => .error ⟨position, .bracket⟩
    else do
      .ok (.char c :: (← readFrom 0 (position + 1) (some c) rest))

/-- Reads a pattern. -/
def read (pattern : List Char) : Except Fault (List Piece) :=
  readFrom 0 0 none pattern

/-! ## Matching one name -/

/-- Whether a character lies in one of the ranges. -/
def inRanges (ranges : List CharRange) (c : Char) : Bool :=
  ranges.any fun r => r.first ≤ c && c ≤ r.last

/-- Whether a piece that stands for one character stands for this one. -/
def Piece.accepts (c : Char) : Piece → Bool
  | .char d => c == d
  | .anyChar => true
  | .within ranges => inRanges ranges c
  | .without ranges => !inRanges ranges c
  | .anyText | .anyDirectories => false

/-- Whether some tail of a text has a property. -/
def anyTail (p : List Char → Bool) : List Char → Bool
  | [] => p []
  | c :: cs => p (c :: cs) || anyTail p cs

/-- Whether a pattern for a single name matches a name. -/
def nameMatches : List Piece → List Char → Bool
  | [], name => name.isEmpty
  | .anyText :: rest, name => anyTail (nameMatches rest) name
  | .anyDirectories :: rest, name => anyTail (nameMatches rest) name
  | piece :: rest, c :: cs => piece.accepts c && nameMatches rest cs
  | _ :: _, [] => false

/-- The text a pattern without wildcards stands for. -/
def plainText? : List Piece → Option (List Char)
  | [] => some []
  | .char c :: rest => (plainText? rest).map (c :: ·)
  | _ :: _ => none

/-- A part that stands for any number of directories. -/
def isRecursive (pieces : List Piece) : Bool :=
  pieces.contains .anyDirectories

/-! ## Finding paths -/

/-- What a part of a pattern is applied to: the entries of a directory, or one entry. -/
inductive Task where
  | inside (path : String)
  | entry (path name : String)

/-- A path inside of a directory; the working directory itself leaves no trace. -/
def extend (path name : String) : String :=
  if path == "." then name else Path.join path name

/-- The paths that match the remaining parts of a pattern, for the entries of a directory or for
one entry.  Every step goes to the next part or one directory down; `fuel` bounds their number. -/
def find (t : FileTree) (onlyDirectories : Bool) : Nat → List (List Piece) → Task → List String
  | 0, _, _ => []
  | _, [], _ => []
  | fuel + 1, part :: rest, .inside path =>
    let finish (next : String) : List String :=
      if rest.isEmpty then (if onlyDirectories && !t.isDirectory next then [] else [next])
      else find t onlyDirectories fuel rest (.inside next)
    match plainText? part with
    | some text =>
      let name := String.ofList text
      let next := extend path name
      if name == "." || name == ".." then (if t.isDirectory path then finish next else [])
      else if t.has next then finish next
      else []
    | none =>
      if t.isDirectory path then
        let special (name : String) : List String :=
          if part.head? = some (.char '.') && nameMatches part name.toList then
            finish (Path.join path name)
          else []
        special ".." ++ special "." ++
          (t.children path).flatMap fun name =>
            find t onlyDirectories fuel (part :: rest) (.entry (extend path name) name)
      else []
  | fuel + 1, part :: rest, .entry path name =>
    if isRecursive part then
      if (rest.head?.map isRecursive).getD false then
        find t onlyDirectories fuel rest (.entry path name)
      else
        let below :=
          if t.isDirectory path then find t onlyDirectories fuel (part :: rest) (.inside path)
          else []
        let here :=
          if rest.isEmpty then (if t.isDirectory path then [path] else [])
          else find t onlyDirectories fuel rest (.entry path name)
        here ++ below
    else if nameMatches part name.toList then
      if rest.isEmpty then (if onlyDirectories && !t.isDirectory path then [] else [path])
      else find t onlyDirectories fuel rest (.inside path)
    else []

/-- The parts of a relative pattern; a slash at the end starts no further part. -/
def patternParts (pattern : List Char) : List (List Char) :=
  let parts := Text.fields '/' pattern
  if pattern.isEmpty then [[]]
  else if parts.getLast? = some [] then parts.dropLast else parts

/-- The paths of a tree that a pattern matches.  No path outside of the working directory is
known. -/
def paths (t : FileTree) (pattern : String) : Except Fault (List String) := do
  let text := pattern.toList
  let _ ← read text
  let absolute := Path.isAbsolute pattern
  let parts ← (patternParts (text.dropWhile (· == '/'))).mapM read
  if absolute then .ok []
  else
    let fuel := 2 * (parts.length + t.entries.length) + 2
    .ok (find t (text.getLast? = some '/') fuel parts (.inside "."))

end StepScript.Glob
