/-
# Binary floating-point numbers

A number is zero or a whole mantissa times a power of two, with a sign; besides there are the two
infinities and one value that is not a number.  All arithmetic is on whole numbers, and every
result that does not fit is rounded to the nearest number, a tie going to the even mantissa.
-/
import StepScript.Integer

namespace StepScript

/-- A floating-point number.  A finite one is `± mantissa * 2 ^ exponent`. -/
inductive Double where
  | nan
  | infinite (negative : Bool)
  | finite (negative : Bool) (mantissa : Nat) (exponent : Int)
  deriving DecidableEq, Repr

namespace Double

/-- The extent of a floating-point format. -/
structure Format where
  /-- The number of binary digits of a mantissa. -/
  precision : Nat
  /-- The least exponent, that of zero and of the smallest numbers. -/
  least : Int
  /-- The greatest exponent. -/
  greatest : Int

/-- Numbers of 64 bits. -/
def wide : Format := ⟨53, -1074, 971⟩

/-- Numbers of 32 bits. -/
def narrow : Format := ⟨24, -149, 104⟩

/-- The whole number nearest to a quotient; a tie goes to the even one. -/
def nearest (num den : Nat) : Nat :=
  let quotient := num / den
  let rest := num % den
  if 2 * rest < den then quotient
  else if den < 2 * rest then quotient + 1
  else quotient + quotient % 2

/-- `num / (den * 2 ^ exponent)` as a quotient of whole numbers. -/
def scaled (num den : Nat) (exponent : Int) : Nat × Nat :=
  if 0 ≤ exponent then (num, den * Nat.pow 2 exponent.toNat)
  else (num * Nat.pow 2 (-exponent).toNat, den)

/-- The number of a format nearest to a quotient of whole numbers. -/
def ofQuotient (format : Format) (negative : Bool) (num den : Nat) : Double :=
  if num = 0 then .finite negative 0 format.least
  else
    let magnitude : Int := (num.log2 : Int) - den.log2
    let start := max (magnitude - format.precision) format.least
    let first := scaled num den start
    let exponent := if Nat.pow 2 format.precision ≤ first.1 / first.2 then start + 1 else start
    let quotient := scaled num den exponent
    let mantissa := nearest quotient.1 quotient.2
    if mantissa = Nat.pow 2 format.precision then
      if format.greatest < exponent + 1 then .infinite negative
      else .finite negative (Nat.pow 2 (format.precision - 1)) (exponent + 1)
    else if format.greatest < exponent then .infinite negative
    else .finite negative mantissa exponent

/-- A whole number as a floating-point number. -/
def ofInt (n : Int) : Double :=
  ofQuotient wide (decide (n < 0)) n.natAbs 1

/-- Zero above the number line. -/
def zero : Double := .finite false 0 wide.least

/-- Neither infinite nor not a number. -/
def isFinite : Double → Bool
  | .finite .. => true
  | _ => false

/-- The number with the other sign. -/
def neg : Double → Double
  | .nan => .nan
  | .infinite negative => .infinite (!negative)
  | .finite negative mantissa exponent => .finite (!negative) mantissa exponent

/-- `± mantissa * 2 ^ exponent` in units of `2 ^ unit`, for `unit` not above the exponent. -/
def inUnits (negative : Bool) (mantissa : Nat) (exponent unit : Int) : Int :=
  let n : Int := mantissa * Nat.pow 2 (exponent - unit).toNat
  if negative then -n else n

/-- The order of two numbers; none when one of them is not a number.  The two zeros are equal. -/
def compare? : Double → Double → Option Ordering
  | .nan, _ => none
  | _, .nan => none
  | .infinite a, .infinite b => some (if a = b then .eq else if a then .lt else .gt)
  | .infinite a, .finite .. => some (if a then .lt else .gt)
  | .finite .., .infinite b => some (if b then .gt else .lt)
  | .finite s m e, .finite s' m' e' =>
    let unit := min e e'
    some (compare (inUnits s m e unit) (inUnits s' m' e' unit))

/-- Whether a number equals a whole number. -/
def isInt (x : Double) (n : Int) : Bool :=
  x.compare? (ofInt n) == some .eq

/-- The whole part of a finite number, brought into the range of integers. -/
def truncate? : Double → Option Int
  | .finite negative mantissa exponent =>
    let magnitude : Nat :=
      if 0 ≤ exponent then mantissa * Nat.pow 2 exponent.toNat
      else mantissa / Nat.pow 2 (-exponent).toNat
    some (clampInteger (if negative then -magnitude else magnitude))
  | _ => none

/-- The product of two finite numbers; anything else is not a number here. -/
def mul : Double → Double → Double
  | .finite s m e, .finite s' m' e' =>
    let (num, den) := scaled (m * m') 1 (-(e + e'))
    ofQuotient wide (s != s') num den
  | _, _ => .nan

/-- The quotient of two finite numbers, the second one not zero; anything else is not a number
here. -/
def div : Double → Double → Double
  | .finite s m e, .finite s' m' e' =>
    let (num, den) := scaled m m' (e' - e)
    ofQuotient wide (s != s') num den
  | _, _ => .nan

/-- The number with the given sign, exponent and fraction fields in a format of `fieldBits`
exponent bits. -/
def ofFields (format : Format) (fieldBits : Nat) (bits : Nat) : Double :=
  let fractionBits := format.precision - 1
  let fraction := bits % Nat.pow 2 fractionBits
  let field := bits / Nat.pow 2 fractionBits % Nat.pow 2 fieldBits
  let negative := bits / Nat.pow 2 (fractionBits + fieldBits) % 2 == 1
  if field = Nat.pow 2 fieldBits - 1 then
    if fraction = 0 then .infinite negative else .nan
  else
    let (mantissa, exponent) : Nat × Int :=
      if field = 0 then (fraction, format.least)
      else (Nat.pow 2 fractionBits + fraction, format.least + field - 1)
    let (num, den) := scaled mantissa 1 (-exponent)
    ofQuotient wide negative num den

/-- The number held by 64 bits. -/
def ofBits64 (bits : Nat) : Double := ofFields wide 11 bits

/-- The number held by 32 bits. -/
def ofBits32 (bits : Nat) : Double := ofFields narrow 8 bits

/-- A number of the narrow format as one of the wide format. -/
def widen : Double → Double
  | .finite negative mantissa exponent =>
    let (num, den) := scaled mantissa 1 (-exponent)
    ofQuotient wide negative num den
  | other => other

end Double

end StepScript
