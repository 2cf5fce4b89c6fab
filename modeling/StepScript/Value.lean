/-
# Values

The values that variables, query results and recordset fields hold, the text a value stands for in
a statement, and the numbers it can be read as.
-/
import StepScript.Double.Read
import StepScript.Json.Basic
import StepScript.Table
import StepScript.Text.Blank
import StepScript.Timestamp.Render

namespace StepScript

/-- A typed scalar value. -/
inductive Value where
  | null
  | boolean (b : Bool)
  | integer (n : Int)
  | float (x : Double)
  | text (s : String)
  | timestamp (t : Timestamp)
  deriving DecidableEq

/-- One row: a value for each of its field names. -/
abbrev Record := Table Value

namespace Value

/-- The text of a value in a statement.  Null stands for no text at all. -/
def display : Value → String
  | .null => ""
  | .boolean true => "true"
  | .boolean false => "false"
  | .integer n => toString n
  | .float x => x.display
  | .text s => s
  | .timestamp t => t.display

/-- The name of a value's type. -/
def typeName : Value → String
  | .null => "null"
  | .boolean _ => "boolean"
  | .integer _ => "integer"
  | .float _ => "float"
  | .text _ => "string"
  | .timestamp _ => "timestamp"

/-- Whether a recordset field may hold the value. -/
def isFieldValue : Value → Bool
  | .integer _ | .float _ | .text _ => true
  | _ => false

def isNull : Value → Bool
  | .null => true
  | _ => false

/-- The text of a text value. -/
def asText? : Value → Option String
  | .text s => some s
  | _ => none

/-- The value as an integer.  Numbers lose their fraction, and a text counts if it spells a
number. -/
def asInteger? : Value → Option Int
  | .integer n => some n
  | .float x => x.truncate?
  | .boolean b => some (if b then 1 else 0)
  | .text s =>
    let digits := Text.trim s.toList
    readInteger? digits <|> (Double.read? digits).bind Double.truncate?
  | _ => none

/-- The value as a floating-point number; a text counts if it spells a number. -/
def asDouble? : Value → Option Double
  | .integer n => some (Double.ofInt n)
  | .float x => some x
  | .boolean b => some (Double.ofInt (if b then 1 else 0))
  | .text s => Double.read? (Text.trim s.toList)
  | _ => none

/-- The JSON text of a value.  Numbers that are not finite are null. -/
def json : Value → String
  | .null => "null"
  | .boolean true => "true"
  | .boolean false => "false"
  | .integer n => toString n
  | .float x => Double.json.render x
  | .text s => Json.quote s
  | .timestamp t => Json.quote (t.renderWith "T")

end Value

end StepScript
