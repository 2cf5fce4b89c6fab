/-
# Writing floating-point numbers

The written forms of a number share the digits of its shortest decimal and differ in their layout:
the form in statement text never has an exponent, the forms in JSON and in descriptions of values
have one outside a middle range and always show that the number is not an integer.
-/
import StepScript.Double.Shortest

namespace StepScript.Double

/-- The decisions of a written form. -/
structure Layout where
  /-- The format in which the digits have to read back. -/
  format : Format
  /-- How a tie between two shortest decimals is decided. -/
  tie : Tie
  /-- The exponents of the leading digit for which no exponent is written. -/
  positional : Int → Bool
  /-- Whether a whole number ends in `.0`. -/
  fraction : Bool
  /-- Whether an exponent that is not below zero has a sign. -/
  plusSign : Bool
  notNumber : String
  infinity : String
  negativeInfinity : String

/-- Statement text: every digit is written out, and a whole number looks like an integer. -/
def plain : Layout := ⟨wide, .up, fun _ => true, false, false, "NaN", "inf", "-inf"⟩

/-- JSON: an exponent from `1e+16` and below `1e-5` on, and numbers only. -/
def json : Layout :=
  ⟨wide, .even, fun lead => -5 ≤ lead && lead ≤ 15, true, true, "null", "null", "null"⟩

/-- Descriptions: an exponent without a plus sign from `1e16` and below `1e-4` on. -/
def described (format : Format) : Layout :=
  ⟨format, .up, fun lead => -4 ≤ lead && lead ≤ 15, true, false, "NaN", "inf", "-inf"⟩

/-- Digits with a point in front of the last `places` of them. -/
def withPoint (digits : List Char) (places : Nat) : List Char :=
  let whole := digits.take (digits.length - places)
  let fraction :=
    List.replicate (places - digits.length) '0' ++ digits.drop (digits.length - places)
  (if whole.isEmpty then ['0'] else whole) ++ '.' :: fraction

/-- `digits * 10 ^ exponent` with every digit written out. -/
def Layout.writeOut (layout : Layout) (digits : List Char) (exponent : Int) : List Char :=
  if 0 ≤ exponent then
    digits ++ List.replicate exponent.toNat '0' ++ (if layout.fraction then ['.', '0'] else [])
  else withPoint digits (-exponent).toNat

/-- Digits with a point behind the first one, and the exponent of the first one. -/
def Layout.scientific (layout : Layout) (digits : List Char) (lead : Int) : List Char :=
  let mantissa :=
    match digits with
    | first :: second :: rest => first :: '.' :: second :: rest
    | other => other
  let sign := if lead < 0 then ['-'] else if layout.plusSign then ['+'] else []
  mantissa ++ 'e' :: sign ++ (Nat.repr lead.natAbs).toList

/-- The written form of a number. -/
def Layout.render (layout : Layout) : Double → String
  | .nan => layout.notNumber
  | .infinite negative => if negative then layout.negativeInfinity else layout.infinity
  | .finite negative mantissa exponent =>
    let (digits, power) :=
      if mantissa = 0 then (0, (0 : Int))
      else shortest layout.format layout.tie mantissa exponent
    let text := (Nat.repr digits).toList
    let lead := power + text.length - 1
    let body :=
      if layout.positional lead then layout.writeOut text power else layout.scientific text lead
    String.ofList (if negative then '-' :: body else body)

/-- The number as it stands in statement text. -/
def display (x : Double) : String := plain.render x

end StepScript.Double
