/-
# PostgreSQL values

The values of result columns in their binary form.  A value that cannot be decoded, or whose type is
not known, is null.
-/
import StepScript.Json.Read
import StepScript.Postgres.Numeric
import StepScript.Text.Utf8

namespace StepScript.Postgres

/-- The column types that have values. -/
inductive ColumnType where
  | int8
  | int4
  | int2
  | float8
  | float4
  | numeric
  | bool
  | text
  | timestamp
  | date
  | json
  | jsonb
  deriving DecidableEq, Repr

/-- The type of a number in the catalogue of types. -/
def ColumnType.ofNumber? : Nat → Option ColumnType
  | 20 => some .int8
  | 23 => some .int4
  | 21 => some .int2
  | 701 => some .float8
  | 700 => some .float4
  | 1700 => some .numeric
  | 16 => some .bool
  | 25 | 1043 | 1042 | 19 | 705 => some .text
  | 1114 | 1184 => some .timestamp
  | 1082 => some .date
  | 114 => some .json
  | 3802 => some .jsonb
  | _ => none

/-- The number that octets hold, high octet first. -/
def unsigned (octets : List UInt8) : Nat :=
  octets.foldl (fun n octet => n * 256 + octet.toNat) 0

/-- The number with a sign that octets hold, if there are as many of them as there should be. -/
def signed? (size : Nat) (octets : List UInt8) : Option Int :=
  if octets.length = size then
    let n := unsigned octets
    let range := Nat.pow 256 size
    some (if 2 * n < range then (n : Int) else (n : Int) - range)
  else none

/-- The first day of the year 2000, from which dates and times are counted. -/
def epoch : Int := 10957

/-- The microseconds of a day. -/
def microsPerDay : Int := 86400000000

/-- How deeply arrays and objects of a JSON value may be nested. -/
def maxNesting : Nat := 127

/-- The compact text of a JSON value. -/
def jsonText? (octets : List UInt8) : Option Value := do
  let tree ← Json.read? (← Utf8.read? octets).toList
  let text ← Json.compact? maxNesting tree
  some (.text text)

/-- Decodes a value of a type. -/
def ColumnType.decode? (type : ColumnType) (octets : List UInt8) : Option Value :=
  match type with
  | .int8 => (signed? 8 octets).map .integer
  | .int4 => (signed? 4 octets).map .integer
  | .int2 => (signed? 2 octets).map .integer
  | .float8 =>
    if octets.length = 8 then some (.float (Double.ofBits64 (unsigned octets))) else none
  | .float4 =>
    if octets.length = 4 then some (.float (Double.ofBits32 (unsigned octets))) else none
  | .numeric => (Numeric.read? octets).map Numeric.value
  | .bool =>
    match octets with
    | [octet] => some (.boolean (octet != 0))
    | _ => none
  | .text => (Utf8.read? octets).map .text
  | .timestamp => do
    let micros ← signed? 8 octets
    (Timestamp.ofMicros? (epoch * microsPerDay + micros)).map .timestamp
  | .date => do
    let days ← signed? 4 octets
    (Timestamp.ofDay? (epoch + days)).map .timestamp
  | .json => jsonText? octets
  | .jsonb =>
    match octets with
    | 1 :: rest => jsonText? rest
    | _ => none

/-- The value of a cell of a column, given by the number of its type; null has no octets. -/
def cellValue (typeNumber : Nat) (cell : Option (List UInt8)) : Value :=
  match ColumnType.ofNumber? typeNumber, cell with
  | some type, some octets => (type.decode? octets).getD .null
  | _, _ => .null

/-! ## Results -/

/-- What a server answers to a statement: the names and type numbers of the columns, the rows, and a
tag that ends in the number of rows affected. -/
structure Reply where
  columns : List (String × Nat)
  rows : List (List (Option (List UInt8)))
  tag : String
  deriving DecidableEq, Repr

namespace Reply

/-- The records of a reply. -/
def records (r : Reply) : List Record :=
  r.rows.map fun row =>
    Table.ofList ((r.columns.zip row).map fun (column, cell) => (column.1, cellValue column.2 cell))

/-- The first column of the first row, null without one. -/
def firstValue (r : Reply) : Value :=
  match r.columns, r.rows with
  | column :: _, (cell :: _) :: _ => cellValue column.2 cell
  | _, _ => .null

/-- The number that the last word of the tag spells, zero if it spells none. -/
def rowCount (r : Reply) : Nat :=
  let word := ((Text.fields ' ' r.tag.toList).getLast?).getD []
  (readCount? 18446744073709551615 word).getD 0

end Reply

end StepScript.Postgres
