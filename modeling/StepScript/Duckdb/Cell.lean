/-
# DuckDB values

The values that DuckDB has, and what they are for a transform.  A value without a counterpart is
described in words.
-/
import StepScript.Text.Quoted
import StepScript.Text.Search
import StepScript.Text.Utf8
import StepScript.Value

namespace StepScript.Duckdb

/-- The widths of integers. -/
inductive IntegerKind where
  | tinyint
  | smallint
  | integer
  | bigint
  | hugeint
  | utinyint
  | usmallint
  | uinteger
  | ubigint
  deriving DecidableEq, Repr

/-- The name of a width in descriptions. -/
def IntegerKind.label : IntegerKind → String
  | .tinyint => "TinyInt"
  | .smallint => "SmallInt"
  | .integer => "Int"
  | .bigint => "BigInt"
  | .hugeint => "HugeInt"
  | .utinyint => "UTinyInt"
  | .usmallint => "USmallInt"
  | .uinteger => "UInt"
  | .ubigint => "UBigInt"

/-- The units in which points in time are counted. -/
inductive TimeUnit where
  | second
  | millisecond
  | microsecond
  | nanosecond
  deriving DecidableEq, Repr

/-- The name of a unit in descriptions. -/
def TimeUnit.label : TimeUnit → String
  | .second => "Second"
  | .millisecond => "Millisecond"
  | .microsecond => "Microsecond"
  | .nanosecond => "Nanosecond"

/-- A value of DuckDB. -/
inductive Cell where
  | null
  | boolean (b : Bool)
  | integer (kind : IntegerKind) (n : Int)
  /-- A floating-point number of 32 bits. -/
  | float (x : Double)
  /-- A floating-point number of 64 bits. -/
  | double (x : Double)
  /-- A decimal in units of its last place. -/
  | decimal (units : Int) (scale : Nat)
  | text (s : String)
  | blob (octets : List UInt8)
  | enum (label : String)
  /-- A point in time by the units that have passed since 1970. -/
  | timestamp (unit : TimeUnit) (count : Int)
  /-- A day by the days that have passed since 1970. -/
  | date (days : Int)
  /-- A time of day in microseconds. -/
  | time (micros : Int)
  | union (inner : Cell)
  | list (items : List Cell)

/-- The microseconds of a number of units, if they fit into 64 bits. -/
def TimeUnit.micros? (unit : TimeUnit) (count : Int) : Option Int :=
  let fitting (n : Int) : Option Int := if minInteger ≤ n ∧ n ≤ maxInteger then some n else none
  match unit with
  | .second => fitting (count * 1000000)
  | .millisecond => fitting (count * 1000)
  | .microsecond => some count
  | .nanosecond => some (count.tdiv 1000)

/-- The point in time a number of units after the start of 1970. -/
def timestampOf? (unit : TimeUnit) (count : Int) : Option Timestamp :=
  (unit.micros? count).bind Timestamp.ofMicros?

namespace Cell

/-- Reads a decimal with a number of places; from five on, a further digit rounds it away from zero.
The result counts units of the last place. -/
def readDecimal? (scale : Nat) (s : List Char) : Option Int :=
  let (negative, s) :=
    match s with
    | '-' :: rest => (true, rest)
    | '+' :: rest => (false, rest)
    | s => (false, s)
  let (whole, fraction) := (Text.cut? ['.'] s).getD (s, [])
  let digits := whole ++ fraction
  if digits.isEmpty || !digits.all Char.isDigit then none
  else
    let kept := fraction.take scale ++ List.replicate (scale - fraction.length) '0'
    let rounding := if (fraction[scale]?).any (fun c => 5 ≤ digitValue c) then 1 else 0
    let units : Int := digitsValue (whole ++ kept) + rounding
    some (if negative then -units else units)

/-- The text of a decimal, given in units of its last place. -/
def decimalText (units : Int) (scale : Nat) : String :=
  let digits := padded (scale + 1) units.natAbs
  let text := if scale = 0 then digits.toList else Double.withPoint digits.toList scale
  (if units < 0 then "-" else "") ++ String.ofList text

mutual

/-- The description of a value. -/
def describe : Cell → String
  | .null => "Null"
  | .boolean b => "Boolean(" ++ toString b ++ ")"
  | .integer kind n => kind.label ++ "(" ++ toString n ++ ")"
  | .float x => "Float(" ++ (Double.described Double.narrow).render x ++ ")"
  | .double x => "Double(" ++ (Double.described Double.wide).render x ++ ")"
  | .decimal units scale => "Decimal(" ++ decimalText units scale ++ ")"
  | .text s => "Text(" ++ Text.quoted s ++ ")"
  | .blob octets =>
    "Blob([" ++ String.intercalate ", " (octets.map fun o => toString o.toNat) ++ "])"
  | .enum label => "Enum(" ++ Text.quoted label ++ ")"
  | .timestamp unit count => "Timestamp(" ++ unit.label ++ ", " ++ toString count ++ ")"
  | .date days => "Date32(" ++ toString days ++ ")"
  | .time micros => "Time64(Microsecond, " ++ toString micros ++ ")"
  | .union inner => "Union(" ++ describe inner ++ ")"
  | .list items => "List([" ++ String.intercalate ", " (describeEach items) ++ "])"

/-- The descriptions of several values. -/
def describeEach : List Cell → List String
  | [] => []
  | item :: rest => describe item :: describeEach rest

end

/-- The value of a number that may be too large for an integer; it is a text then. -/
def integerValue (n : Int) : Value :=
  if minInteger ≤ n ∧ n ≤ maxInteger then .integer n else .text (toString n)

/-- What a value is for a transform. -/
def value : Cell → Value
  | .null => .null
  | .boolean b => .boolean b
  | .integer _ n => integerValue n
  | .float x => .float x.widen
  | .double x => .float x
  | .decimal units scale =>
    let spelling := decimalText units scale
    ((Double.read? spelling.toList).map .float).getD (.text spelling)
  | .text s => .text s
  | .blob octets => .text (Utf8.readLossy octets)
  | .enum label => .text label
  | .timestamp unit count => ((timestampOf? unit count).map .timestamp).getD (.integer count)
  | .date days => ((Timestamp.ofDay? days).map .timestamp).getD (.integer days)
  | .union inner => inner.value
  | other => .text other.describe

end Cell

end StepScript.Duckdb
