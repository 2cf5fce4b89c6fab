/-
# Searching and replacing

Occurrences of one text in another: cutting at an occurrence, and a left-to-right pass that
replaces occurrences.  A pass goes through the text once; what it writes is never read again.
-/

namespace StepScript.Text

/-- What follows `pat`, when the text starts with it. -/
def after? : List Char → List Char → Option (List Char)
  | [], s => some s
  | _ :: _, [] => none
  | p :: ps, c :: cs => if p = c then after? ps cs else none

/-- Whether the text starts with `pat`. -/
def startsWith (pat s : List Char) : Bool :=
  (after? pat s).isSome

/-- Cuts a text at the first occurrence of `pat`, which is dropped. -/
def cut? (pat : List Char) : List Char → Option (List Char × List Char)
  | [] => (after? pat []).map fun rest => ([], rest)
  | c :: cs =>
    match after? pat (c :: cs) with
    | some rest => some ([], rest)
    | none => (cut? pat cs).map fun (before, rest) => (c :: before, rest)

/-- Whether `pat` occurs in the text. -/
def occurs (pat s : List Char) : Bool :=
  (cut? pat s).isSome

/-- The pieces between the occurrences of `pat`, read from the left after `skip` characters. -/
def piecesFrom (pat : List Char) : Nat → List Char → List (List Char)
  | _, [] => [[]]
  | skip + 1, _ :: cs => piecesFrom pat skip cs
  | 0, c :: cs =>
    if startsWith pat (c :: cs) then [] :: piecesFrom pat (pat.length - 1) cs
    else
      match piecesFrom pat 0 cs with
      | [] => [[c]]
      | piece :: rest => (c :: piece) :: rest

/-- The pieces between the occurrences of a non-empty `pat`; at least one. -/
def pieces (pat s : List Char) : List (List Char) :=
  piecesFrom pat 0 s

/-- The pieces between the occurrences of a character; at least one. -/
def fields (sep : Char) : List Char → List (List Char)
  | [] => [[]]
  | c :: cs =>
    if c = sep then [] :: fields sep cs
    else
      match fields sep cs with
      | [] => [[c]]
      | piece :: rest => (c :: piece) :: rest

/-- A left-to-right pass after `skip` characters.  Where `edit` answers `(n, out)` for the text
that starts here, `out` is written and the pass goes on after the next `n` characters, at least
one; elsewhere the character is copied. -/
def replaceWithFrom (edit : List Char → Option (Nat × List Char)) : Nat → List Char → List Char
  | _, [] => []
  | skip + 1, _ :: cs => replaceWithFrom edit skip cs
  | 0, c :: cs =>
    match edit (c :: cs) with
    | some (n, out) => out ++ replaceWithFrom edit (n - 1) cs
    | none => c :: replaceWithFrom edit 0 cs

/-- A left-to-right pass over a whole text. -/
def replaceWith (edit : List Char → Option (Nat × List Char)) (s : List Char) : List Char :=
  replaceWithFrom edit 0 s

/-- Every occurrence of a non-empty `pat`, from the left, replaced by `new`. -/
def replace (pat new s : List Char) : List Char :=
  replaceWith (fun rest => if startsWith pat rest then some (pat.length, new) else none) s

/-- Every occurrence of a non-empty string replaced by another. -/
def replaceAll (pat new s : String) : String :=
  String.ofList (replace pat.toList new.toList s.toList)

/-- Whether a string occurs in another. -/
def contains (s pat : String) : Bool :=
  occurs pat.toList s.toList

/-- A text with every single quote doubled, to stand inside a quoted literal. -/
def doubleQuotes (s : String) : String :=
  replaceAll "'" "''" s

end StepScript.Text
