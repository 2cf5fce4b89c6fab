/-
# Integers of 64 bits

The range of the integers a value may hold, and reading them from text: an optional sign and at
least one digit.  A reading that fails says why, and the first fault from the left is the one
reported.
-/

namespace StepScript

/-- The smallest integer a value may hold. -/
def minInteger : Int := -9223372036854775808

/-- The largest integer a value may hold. -/
def maxInteger : Int := 9223372036854775807

/-- The integer of the range that lies nearest to `n`. -/
def clampInteger (n : Int) : Int :=
  if n < minInteger then minInteger else if maxInteger < n then maxInteger else n

/-- Why a text is not an integer of the range. -/
inductive IntegerFault where
  | empty
  | invalidDigit
  | tooLarge
  | tooSmall
  deriving DecidableEq, Repr

/-- The wording of a fault. -/
def IntegerFault.message : IntegerFault → String
  | .empty => "cannot parse integer from empty string"
  | .invalidDigit => "invalid digit found in string"
  | .tooLarge => "number too large to fit in target type"
  | .tooSmall => "number too small to fit in target type"

/-- The value of a digit. -/
def digitValue (c : Char) : Nat :=
  c.toNat - '0'.toNat

/-- The number written by a run of digits. -/
def digitsValue (digits : List Char) : Nat :=
  digits.foldl (fun n c => n * 10 + digitValue c) 0

/-- Reads the digits of a number below zero or not, after the part `n` already read. -/
def readDigits (negative : Bool) (n : Int) : List Char → Except IntegerFault Int
  | [] => .ok n
  | c :: rest =>
    if c.isDigit then
      let next := if negative then n * 10 - digitValue c else n * 10 + digitValue c
      if maxInteger < next then .error .tooLarge
      else if next < minInteger then .error .tooSmall
      else readDigits negative next rest
    else .error .invalidDigit

/-- Reads an integer: an optional sign, then digits. -/
def readInteger : List Char → Except IntegerFault Int
  | [] => .error .empty
  | '+' :: digits => if digits.isEmpty then .error .invalidDigit else readDigits false 0 digits
  | '-' :: digits => if digits.isEmpty then .error .invalidDigit else readDigits true 0 digits
  | digits => readDigits false 0 digits

/-- The integer a text spells, if it spells one. -/
def readInteger? (s : List Char) : Option Int :=
  (readInteger s).toOption

/-- The number without a minus sign that a text spells, if it spells one up to a bound. -/
def readCount? (bound : Nat) (s : List Char) : Option Nat :=
  let digits := if s.head? = some '+' then s.drop 1 else s
  if digits.isEmpty || !digits.all Char.isDigit then none
  else
    let n := digitsValue digits
    if bound < n then none else some n

/-- A number in decimal, padded with zeros on the left to a width. -/
def padded (width n : Nat) : String :=
  let digits := Nat.repr n
  String.ofList (List.replicate (width - digits.length) '0') ++ digits

end StepScript
