/-
# PostgreSQL numerics

The binary form of a numeric: the number of its digits, the weight of the first one, a sign and the
number of decimal places to show, each of sixteen bits, and then the digits in base ten thousand.
-/
import StepScript.Value

namespace StepScript.Postgres

/-- The numbers of sixteen bits that octets hold, high octet first.  A last octet without a partner
is left out. -/
def words : List UInt8 → List Nat
  | high :: low :: rest => (high.toNat * 256 + low.toNat) :: words rest
  | _ => []

/-- A number of sixteen bits as one with a sign. -/
def signed16 (n : Nat) : Int :=
  if n < 0x8000 then n else (n : Int) - 0x10000

/-- A numeric as it is sent. -/
structure Numeric where
  /-- The power of ten thousand that the first digit counts. -/
  weight : Int
  sign : Nat
  /-- The number of decimal places. -/
  scale : Nat
  digits : List Nat
  deriving DecidableEq, Repr

namespace Numeric

/-- Reads a numeric; what stands behind its digits is ignored. -/
def read? (octets : List UInt8) : Option Numeric :=
  match words octets with
  | count :: weight :: sign :: scale :: digits =>
    if digits.length < count then none
    else some ⟨signed16 weight, sign, scale, digits.take count⟩
  | _ => none

/-- The digit at a place, counted from the first one; zero where there is none. -/
def digit (n : Numeric) (place : Int) : Nat :=
  if place < 0 then 0 else (n.digits[place.toNat]?).getD 0

/-- The digits of the whole part as text. -/
def wholeText (n : Numeric) : String :=
  if n.weight < 0 then "0"
  else
    String.join (toString (n.digit 0) ::
      (List.range n.weight.toNat).map fun i : Nat => padded 4 (n.digit (i + 1)))

/-- The decimal places as text. -/
def placesText (n : Numeric) : String :=
  let groups := (List.range ((n.scale + 3) / 4)).map fun k : Nat =>
    padded 4 (n.digit (n.weight + 1 + k))
  String.ofList ((String.join groups).toList.take n.scale)

/-- The decimal text of a numeric. -/
def text (n : Numeric) : String :=
  if n.sign = 0xC000 then "NaN"
  else if n.sign = 0xD000 then "Infinity"
  else if n.sign = 0xF000 then "-Infinity"
  else
    (if n.sign = 0x4000 then "-" else "") ++ n.wholeText ++
      (if n.scale = 0 then "" else "." ++ n.placesText)

/-- The value of a decimal text: an integer if it has no point and fits, else a floating-point
number, and a text if it is too large for either or no number at all. -/
def valueOfText (text : String) : Value :=
  let asFloat : Value :=
    match Double.read? text.toList with
    | some x => if x.isFinite then .float x else .text text
    | none => .text text
  if text.toList.contains '.' then asFloat
  else ((readInteger? text.toList).map .integer).getD asFloat

/-- The value of a numeric. -/
def value (n : Numeric) : Value :=
  valueOfText n.text

end Numeric

end StepScript.Postgres
