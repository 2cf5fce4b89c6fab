/-
# Recordsets

A recordset is a named list of records that all have the same fields and hold numbers and texts
only.  Conditions pick some of its records.
-/
import StepScript.Expression.Evaluator
import StepScript.Text.Quoted

namespace StepScript

/-! ## Conditions -/

/-- Whether a record that satisfies a condition is kept or dropped. -/
inductive ConditionMode where
  | keep
  | drop
  deriving DecidableEq, Repr

/-- A condition on one field of a record. -/
structure Condition where
  mode : ConditionMode
  field : String
  operator : String
  expression : Value
  deriving DecidableEq

namespace Condition

/-- The mode a word spells, in any letter case. -/
def readMode (word : String) : Except Error ConditionMode :=
  let name := Text.lower word
  if name == "include" then .ok .keep
  else if name == "exclude" then .ok .drop
  else .error (.statement ("expected include or exclude, got '" ++ name ++ "'"))

/-- Reads complete groups of four arguments: mode, field, operator and expression. -/
def readGroups : List Value → Except Error (List Condition)
  | mode :: field :: operator :: expression :: rest => do
    let mode ← readMode mode.display
    let conditions ← readGroups rest
    .ok (⟨mode, field.display, operator.display, expression⟩ :: conditions)
  | _ => .ok []

/-- Reads the conditions in a list of arguments. -/
def readAll (arguments : List Value) : Except Error (List Condition) :=
  if arguments.length % 4 = 0 then readGroups arguments
  else
    .error (.statement ("recordset conditions come in groups of four, got " ++
      toString arguments.length ++ " arguments"))

/-- Whether a record satisfies one condition; a missing field counts as null. -/
def accepts (e : Evaluator) (record : Record) (c : Condition) : Except Error Bool := do
  let result ← e.compare c.operator ((record.get? c.field).getD .null) c.expression
  .ok (if c.mode = .keep then result else !result)

/-- Whether a record satisfies all conditions.  The first one that fails decides. -/
def acceptAll (e : Evaluator) (record : Record) : List Condition → Except Error Bool
  | [] => .ok true
  | c :: rest => do
    if ← c.accepts e record then acceptAll e record rest else .ok false

end Condition

/-! ## The store -/

/-- The recordsets of a transform, by name. -/
abbrev RecordsetStore := Table (List Record)

namespace RecordsetStore

/-- Checks a record, given by its number, against the field names it has to have. -/
def checkRecord (names : List String) (number : Nat) (record : Record) : Except Error Unit :=
  if record.names ≠ names then
    .error (.recordset ("record " ++ toString number ++ " has fields " ++
      Text.quotedList record.names ++ ", expected " ++ Text.quotedList names))
  else
    match record.entries.find? fun e => !e.2.isFieldValue with
    | some (field, value) =>
      .error (.recordset ("record " ++ toString number ++ " field '" ++ field ++ "' holds a " ++
        value.typeName ++ " value"))
    | none => .ok ()

/-- Checks records, numbered from `number` on, one after the other. -/
def checkFrom (names : List String) (number : Nat) : List Record → Except Error Unit
  | [] => .ok ()
  | record :: rest => do
    checkRecord names number record
    checkFrom names (number + 1) rest

/-- Checks that records have the fields of the first one and hold numbers and texts only. -/
def check : List Record → Except Error Unit
  | [] => .ok ()
  | first :: rest => checkFrom first.names 1 (first :: rest)

/-- Stores a recordset under a name, replacing the one that was there. -/
def store (s : RecordsetStore) (name : String) (records : List Record) :
    Except Error RecordsetStore := do
  check records
  .ok (s.insert name records)

/-- The records of a recordset. -/
def records (s : RecordsetStore) (name : String) : Except Error (List Record) :=
  match s.get? name with
  | some records => .ok records
  | none => .error (.recordsetNotFound name)

end RecordsetStore

end StepScript
