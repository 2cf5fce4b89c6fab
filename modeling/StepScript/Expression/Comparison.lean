/-
# Comparing values

Two values are compared as values of one type: as truth values, timestamps, floating-point numbers
or integers if one of them has that type, in this order, and otherwise as texts.  Values that
cannot both be read as that type are compared as texts, except for truth values, where that is an
error.
-/
import StepScript.Expression.Like
import StepScript.Expression.Operator
import StepScript.Text.Letter
import StepScript.Timestamp.Read
import StepScript.Value

namespace StepScript

/-- Two operands of one type. -/
inductive Operands where
  | booleans (a b : Bool)
  | timestamps (a b : Timestamp)
  | floats (a b : Double)
  | integers (a b : Int)
  | texts (a b : String)
  deriving DecidableEq

/-- The order of two operands; floating-point numbers may have none. -/
def Operands.order? : Operands → Option Ordering
  | .booleans a b => some (compare a b)
  | .timestamps a b => some (a.order b)
  | .floats a b => a.compare? b
  | .integers a b => some (compare a b)
  | .texts a b => some (compare a b)

namespace Value

/-- The value as a truth value. -/
def asBoolean : Value → Except Error Bool
  | .boolean b => .ok b
  | .text s =>
    let word := String.ofList (Text.asciiLower (Text.trim s.toList))
    if word == "t" || word == "true" || word == "1" then .ok true
    else if word == "f" || word == "false" || word == "0" then .ok false
    else .error (.expression ("cannot coerce '" ++ s ++ "' to boolean"))
  | .integer 0 => .ok false
  | .integer 1 => .ok true
  | .float x =>
    if x.isInt 0 then .ok false
    else if x.isInt 1 then .ok true
    else .error (.expression ("cannot coerce float '" ++ x.display ++ "' to boolean"))
  | other =>
    .error (.expression
      ("cannot coerce " ++ other.typeName ++ " '" ++ other.display ++ "' to boolean"))

/-- The value as a timestamp; an integer counts seconds since the start of 1970. -/
def asTimestamp? : Value → Option Timestamp
  | .timestamp t => some t
  | .integer seconds => Timestamp.ofSeconds? seconds 0
  | .text s => Timestamp.read? (Text.trim s.toList)
  | _ => none

def isBoolean : Value → Bool
  | .boolean _ => true
  | _ => false

def isTimestamp : Value → Bool
  | .timestamp _ => true
  | _ => false

def isFloat : Value → Bool
  | .float _ => true
  | _ => false

def isInteger : Value → Bool
  | .integer _ => true
  | _ => false

end Value

namespace Operands

/-- Both values as texts. -/
def asTexts (a b : Value) : Operands :=
  .texts a.display b.display

/-- Both readings together, or both values as texts. -/
def orTexts {α : Type} (make : α → α → Operands) (a b : Value) : Option α → Option α → Operands
  | some x, some y => make x y
  | _, _ => asTexts a b

/-- Two values as operands of one type. -/
def unify (a b : Value) : Except Error Operands :=
  if a.isBoolean || b.isBoolean then do
    let x ← a.asBoolean
    let y ← b.asBoolean
    .ok (.booleans x y)
  else if a.isTimestamp || b.isTimestamp then
    .ok (orTexts .timestamps a b a.asTimestamp? b.asTimestamp?)
  else if a.isFloat || b.isFloat then .ok (orTexts .floats a b a.asDouble? b.asDouble?)
  else if a.isInteger || b.isInteger then .ok (orTexts .integers a b a.asInteger? b.asInteger?)
  else .ok (asTexts a b)

end Operands

/-- Whether an operator holds of two values. -/
def Operator.compareValues (op : Operator) (a b : Value) : Except Error Bool :=
  match op with
  | .like => .ok (Like.holds a.display.toList b.display.toList)
  | .notLike => .ok (!Like.holds a.display.toList b.display.toList)
  | _ => (Operands.unify a b).map fun operands => op.holds operands.order?

end StepScript
