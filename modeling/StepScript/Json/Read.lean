/-
# Reading JSON

A reader for one JSON text with nothing but white space around it.  Every step of the reader takes
at least one character, so the length of the text bounds their number.
-/
import StepScript.Json.Basic
import StepScript.Text.Search

namespace StepScript.Json

/-- The white space of JSON. -/
def isSpace (c : Char) : Bool :=
  c = ' ' || c = '\n' || c = '\t' || c = '\r'

/-- Passes over white space. -/
def skipSpace (s : List Char) : List Char :=
  s.dropWhile isSpace

/-! ## Strings -/

/-- The value of a hexadecimal digit. -/
def hexValue? (c : Char) : Option Nat :=
  if c.isDigit then some (c.toNat - 48)
  else if 'a' ≤ c && c ≤ 'f' then some (c.toNat - 87)
  else if 'A' ≤ c && c ≤ 'F' then some (c.toNat - 55)
  else none

/-- Reads four hexadecimal digits. -/
def readHex? : List Char → Option (Nat × List Char)
  | a :: b :: c :: d :: rest => do
    let n := ((← hexValue? a) * 16 + (← hexValue? b)) * 256 + (← hexValue? c) * 16 + (← hexValue? d)
    some (n, rest)
  | _ => none

/-- A part of a string: a character, or a unit of sixteen bits given by its number. -/
inductive StringUnit where
  | char (c : Char)
  | unit (n : Nat)
  deriving DecidableEq, Repr

/-- What an escape of one character stands for. -/
def escaped? (c : Char) : Option Char :=
  if c = '"' || c = '\\' || c = '/' then some c
  else if c = 'b' then some (Char.ofNat 8)
  else if c = 'f' then some (Char.ofNat 12)
  else if c = 'n' then some '\n'
  else if c = 'r' then some '\r'
  else if c = 't' then some '\t'
  else none

/-- Reads a string from behind its opening quote on. -/
def readString? : Nat → List Char → Option (List StringUnit × List Char)
  | 0, _ => none
  | _, [] => none
  | fuel + 1, c :: rest =>
    if c = '"' then some ([], rest)
    else if c = '\\' then
      match rest with
      | 'u' :: rest => do
        let (n, rest) ← readHex? rest
        let (units, rest) ← readString? fuel rest
        some (.unit n :: units, rest)
      | e :: rest => do
        let c ← escaped? e
        let (units, rest) ← readString? fuel rest
        some (.char c :: units, rest)
      | [] => none
    else if c.toNat < 32 then none
    else do
      let (units, rest) ← readString? fuel rest
      some (.char c :: units, rest)

/-- The characters of the parts of a string; none when half of a surrogate pair stands alone. -/
def characters? : List StringUnit → Option (List Char)
  | [] => some []
  | .char c :: rest => (characters? rest).map (c :: ·)
  | .unit high :: .unit low :: rest =>
    if 0xD800 ≤ high && high < 0xDC00 then
      if 0xDC00 ≤ low && low < 0xE000 then
        let n := 0x10000 + (high - 0xD800) * 0x400 + (low - 0xDC00)
        (characters? rest).map (Char.ofNat n :: ·)
      else none
    else if 0xDC00 ≤ high && high < 0xE000 then none
    else (characters? (.unit low :: rest)).map (Char.ofNat high :: ·)
  | .unit n :: rest =>
    if 0xD800 ≤ n && n < 0xE000 then none else (characters? rest).map (Char.ofNat n :: ·)

/-! ## Numbers -/

/-- Reads the digits in front of a point: a zero alone, or digits that do not start with one. -/
def readWhole? : List Char → Option (List Char × List Char)
  | '0' :: rest => if (rest.head?.map Char.isDigit).getD false then none else some (['0'], rest)
  | s =>
    let digits := s.takeWhile Char.isDigit
    if digits.isEmpty then none else some (digits, s.drop digits.length)

/-- Reads at least one digit. -/
def readDigits? (s : List Char) : Option (List Char × List Char) :=
  let digits := s.takeWhile Char.isDigit
  if digits.isEmpty then none else some (digits, s.drop digits.length)

/-- Reads a point and digits, if there is a point. -/
def readFraction? : List Char → Option (Option (List Char) × List Char)
  | '.' :: rest => (readDigits? rest).map fun (digits, rest) => (some digits, rest)
  | s => some (none, s)

/-- Reads an exponent, if there is one. -/
def readExponent? : List Char → Option (Option (Bool × List Char) × List Char)
  | c :: rest =>
    if c = 'e' || c = 'E' then
      let (negative, rest) :=
        match rest with
        | '+' :: rest => (false, rest)
        | '-' :: rest => (true, rest)
        | rest => (false, rest)
      (readDigits? rest).map fun (digits, rest) => (some (negative, digits), rest)
    else some (none, c :: rest)
  | [] => some (none, [])

/-- Reads a number. -/
def readNumber? (s : List Char) : Option (NumberText × List Char) := do
  let (negative, s) :=
    match s with
    | '-' :: rest => (true, rest)
    | s => (false, s)
  let (whole, s) ← readWhole? s
  let (fraction, s) ← readFraction? s
  let (exponent, s) ← readExponent? s
  some (⟨negative, whole, fraction, exponent⟩, s)

/-! ## Values -/

/-- The content of a string by its parts. -/
def content? (units : List StringUnit) : Option String :=
  (characters? units).map String.ofList

mutual

/-- Reads a value, white space in front of it included. -/
def readValue? : Nat → List Char → Option (Json × List Char)
  | 0, _ => none
  | fuel + 1, s =>
    match skipSpace s with
    | '"' :: rest => do
      let (units, rest) ← readString? (rest.length + 1) rest
      some (.string (content? units), rest)
    | '[' :: rest =>
      match skipSpace rest with
      | ']' :: rest => some (.array [], rest)
      | rest => do
        let (items, rest) ← readItems? fuel rest
        some (.array items, rest)
    | '{' :: rest =>
      match skipSpace rest with
      | '}' :: rest => some (.object [], rest)
      | rest => do
        let (members, rest) ← readMembers? fuel rest
        some (.object members, rest)
    | s =>
      match Text.after? ['n', 'u', 'l', 'l'] s, Text.after? ['t', 'r', 'u', 'e'] s,
        Text.after? ['f', 'a', 'l', 's', 'e'] s with
      | some rest, _, _ => some (.null, rest)
      | _, some rest, _ => some (.bool true, rest)
      | _, _, some rest => some (.bool false, rest)
      | _, _, _ => (readNumber? s).map fun (text, rest) => (.number text, rest)

/-- Reads the items of an array and the bracket behind them. -/
def readItems? : Nat → List Char → Option (List Json × List Char)
  | 0, _ => none
  | fuel + 1, s => do
    let (item, rest) ← readValue? fuel s
    match skipSpace rest with
    | ',' :: rest => do
      let (items, rest) ← readItems? fuel rest
      some (item :: items, rest)
    | ']' :: rest => some ([item], rest)
    | _ => none

/-- Reads the members of an object and the brace behind them. -/
def readMembers? : Nat → List Char → Option (List (Option String × Json) × List Char)
  | 0, _ => none
  | fuel + 1, s =>
    match skipSpace s with
    | '"' :: rest => do
      let (units, rest) ← readString? (rest.length + 1) rest
      match skipSpace rest with
      | ':' :: rest => do
        let (value, rest) ← readValue? fuel rest
        match skipSpace rest with
        | ',' :: rest => do
          let (members, rest) ← readMembers? fuel rest
          some ((content? units, value) :: members, rest)
        | '}' :: rest => some ([(content? units, value)], rest)
        | _ => none
      | _ => none
    | _ => none

end

/-- Reads a whole text. -/
def read? (text : List Char) : Option Json := do
  let (value, rest) ← readValue? (2 * text.length + 2) text
  if (skipSpace rest).isEmpty then some value else none

end StepScript.Json
