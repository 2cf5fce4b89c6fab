/-
# Numbers in JSON

A number in JSON keeps its spelling until it is known what it is wanted for.  As an integer it must
fit; as a floating-point number it is computed from as many leading digits as fit into 64 bits,
scaled by one power of ten.
-/
import StepScript.Double.Basic

namespace StepScript.Json

/-- The spelling of a number. -/
structure NumberText where
  negative : Bool
  whole : List Char
  /-- The digits behind the point, if there is one. -/
  fraction : Option (List Char)
  /-- The sign and the digits of the exponent, if there is one. -/
  exponent : Option (Bool × List Char)
  deriving DecidableEq, Repr

/-- A number as a value. -/
inductive Number where
  | integer (n : Int)
  | float (x : Double)
  deriving DecidableEq, Repr

/-- The largest number of 64 bits without a sign. -/
def maxDigits : Nat := 18446744073709551615

/-- Takes digits as long as the number they make fits; the number and the digits left. -/
def absorb (n : Nat) : List Char → Nat × List Char
  | [] => (n, [])
  | c :: rest =>
    let next := n * 10 + digitValue c
    if maxDigits < next then (n, c :: rest) else absorb next rest

/-- The floating-point number nearest to a power of ten. -/
def powerOfTen (k : Nat) : Double :=
  Double.ofQuotient Double.wide false (Nat.pow 10 k) 1

/-- A number times a power of ten; none when the result is too large.  Small powers are applied in
several steps, of which `fuel` bounds the number. -/
def scale? : Nat → Double → Int → Option Double
  | 0, x, _ => some x
  | fuel + 1, x, exponent =>
    if exponent.natAbs ≤ 308 then
      if 0 ≤ exponent then
        let y := x.mul (powerOfTen exponent.natAbs)
        if y.isFinite then some y else none
      else some (x.div (powerOfTen exponent.natAbs))
    else if x.isInt 0 then some x
    else if 0 ≤ exponent then none
    else scale? fuel (x.div (powerOfTen 308)) (exponent + 308)

/-- The largest exponent that is taken at its value. -/
def maxExponent : Nat := 2147483647

/-- The value of a number; none when it is too large for any number. -/
def NumberText.value? (t : NumberText) : Option Number :=
  let (digits, dropped) := absorb 0 t.whole
  let signed (x : Double) : Number := .float (if t.negative then x.neg else x)
  match t.fraction, t.exponent, dropped with
  | none, none, [] =>
    if !t.negative then some (.integer digits)
    else if digits = 0 || maxInteger + 1 < digits then
      some (.float (Double.ofInt digits).neg)
    else some (.integer (-digits))
  | fraction, exponent, dropped =>
    let (digits, used) :=
      match fraction with
      | none => (digits, 0)
      | some places =>
        let (digits, rest) := absorb digits places
        (digits, places.length - rest.length)
    let start : Int := dropped.length - used
    let significand := Double.ofQuotient Double.wide false digits 1
    match exponent with
    | none => (scale? 8 significand start).map signed
    | some (negative, places) =>
      let n := digitsValue places
      if maxExponent < n then
        if digits ≠ 0 && !negative then none else some (signed Double.zero)
      else (scale? 8 significand (if negative then start - n else start + n)).map signed

end StepScript.Json
