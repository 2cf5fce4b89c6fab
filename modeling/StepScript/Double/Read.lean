/-
# Reading floating-point numbers

A number is written as an optional sign and digits with an optional point and an optional decimal
exponent, or as one of the words for infinity and for not a number, in any letter case.  The text
denotes an exact decimal, and the number read is the nearest one.
-/
import StepScript.Double.Basic

namespace StepScript.Double

/-- An exact decimal, `± digits * 10 ^ exponent`. -/
structure Decimal where
  negative : Bool
  digits : Nat
  exponent : Int
  deriving DecidableEq, Repr

/-- What a number text denotes. -/
inductive Spelled where
  | notNumber
  | infinite (negative : Bool)
  | decimal (d : Decimal)
  deriving DecidableEq, Repr

/-- Splits off the leading digits. -/
def spanDigits (s : List Char) : List Char × List Char :=
  (s.takeWhile Char.isDigit, s.dropWhile Char.isDigit)

/-- Reads the sign in front of a number; a missing sign is a plus. -/
def readSign : List Char → Bool × List Char
  | '+' :: rest => (false, rest)
  | '-' :: rest => (true, rest)
  | rest => (false, rest)

/-- Reads the exponent that ends a number: nothing, or `e`, an optional sign and digits. -/
def readExponent? : List Char → Option Int
  | [] => some 0
  | c :: rest =>
    if c = 'e' ∨ c = 'E' then
      let (negative, digits) := readSign rest
      if digits.isEmpty || !digits.all Char.isDigit then none
      else
        let n : Int := digitsValue digits
        some (if negative then -n else n)
    else none

/-- Reads a number without its sign. -/
def readMagnitude? (negative : Bool) (s : List Char) : Option Decimal :=
  let (whole, rest) := spanDigits s
  let (fraction, rest) :=
    match rest with
    | '.' :: rest => spanDigits rest
    | rest => ([], rest)
  if whole.isEmpty && fraction.isEmpty then none
  else
    (readExponent? rest).map fun exponent =>
      ⟨negative, digitsValue (whole ++ fraction), exponent - fraction.length⟩

/-- Reads a number text. -/
def spelled? (s : List Char) : Option Spelled :=
  let (negative, rest) := readSign s
  let word := String.ofList (rest.map Char.toLower)
  if word == "nan" then some .notNumber
  else if word == "inf" || word == "infinity" then some (.infinite negative)
  else (readMagnitude? negative rest).map .decimal

/-- The quotient of whole numbers a decimal denotes.  A decimal too large or too small for every
format is replaced by one that is just as much out of range. -/
def Decimal.quotient (d : Decimal) : Nat × Nat :=
  let size : Int := (Nat.repr d.digits).length
  if d.digits = 0 then (0, 1)
  else if 400 < d.exponent + size then (Nat.pow 10 400, 1)
  else if d.exponent + size < -400 then (1, Nat.pow 10 400)
  else if 0 ≤ d.exponent then (d.digits * Nat.pow 10 d.exponent.toNat, 1)
  else (d.digits, Nat.pow 10 (-d.exponent).toNat)

/-- The number nearest to a decimal. -/
def Decimal.toDouble (d : Decimal) : Double :=
  ofQuotient wide d.negative d.quotient.1 d.quotient.2

/-- The number a text spells, if it spells one. -/
def read? (s : List Char) : Option Double :=
  (spelled? s).map fun
    | .notNumber => .nan
    | .infinite negative => .infinite negative
    | .decimal d => d.toDouble

/-- The number of the narrow format a text spells, if it spells one. -/
def readNarrow? (s : List Char) : Option Double :=
  (spelled? s).map fun
    | .notNumber => .nan
    | .infinite negative => .infinite negative
    | .decimal d => ofQuotient narrow d.negative d.quotient.1 d.quotient.2

end StepScript.Double
