/-
# Regular expressions

The part of their syntax that patterns are translated into: the marks of the start and of the end of
a text, the point, characters that stand for themselves, and the star behind any of these.  An
expression may start with the flag by which its points stand for line breaks, too.
-/

namespace StepScript.Regular

/-- The characters that have a meaning in expressions, in some places at least. -/
def isMeta (c : Char) : Bool :=
  "\\.+*?()|[]\x7b\x7d^$#&-~".toList.contains c

/-- A character as an expression that stands for it. -/
def escape (c : Char) : List Char :=
  if isMeta c then ['\\', c] else [c]

/-- What stands for a place or for one character. -/
inductive Item where
  /-- The start of the text. -/
  | start
  /-- The end of the text. -/
  | finish
  /-- Any character. -/
  | point
  | char (c : Char)
  deriving DecidableEq, Repr

/-- An item, and whether there is a star behind it. -/
structure Piece where
  item : Item
  starred : Bool
  deriving DecidableEq, Repr

/-- An expression. -/
structure Expression where
  /-- Whether points stand for line breaks, too. -/
  acrossLines : Bool
  pieces : List Piece
  deriving DecidableEq, Repr

/-- The item that a character is when nothing is in front of it. -/
def Item.ofChar? (c : Char) : Option Item :=
  if c = '^' then some .start
  else if c = '$' then some .finish
  else if c = '.' then some .point
  else if isMeta c then none
  else some (.char c)

/-- Reads pieces.  A star at the very start belongs to the item in front; the result says whether
there is one. -/
def readPieces : List Char → Option (Bool × List Piece)
  | [] => some (false, [])
  | '*' :: rest =>
    match readPieces rest with
    | some (false, pieces) => some (true, pieces)
    | _ => none
  | '\\' :: c :: rest =>
    if isMeta c then
      (readPieces rest).map fun (starred, pieces) => (false, ⟨.char c, starred⟩ :: pieces)
    else none
  | c :: rest =>
    match Item.ofChar? c with
    | some item => (readPieces rest).map fun (starred, pieces) => (false, ⟨item, starred⟩ :: pieces)
    | none => none

/-- Reads an expression; none if it needs more than the part of the syntax that is known here. -/
def read? (text : List Char) : Option Expression :=
  let (acrossLines, text) :=
    match text with
    | '(' :: '?' :: 's' :: ')' :: rest => (true, rest)
    | text => (false, text)
  match readPieces text with
  | some (false, pieces) => some ⟨acrossLines, pieces⟩
  | _ => none

end StepScript.Regular
