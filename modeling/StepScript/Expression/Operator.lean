/-
# Comparison operators

Six operators that read off an order, and two that match a pattern.
-/
import StepScript.Error
import StepScript.Text.Blank

namespace StepScript

/-- A comparison operator. -/
inductive Operator where
  | eq
  | ne
  | gt
  | lt
  | ge
  | le
  | like
  | notLike
  deriving DecidableEq, Repr

namespace Operator

/-- How an operator is written. -/
def symbol : Operator → String
  | .eq => "="
  | .ne => "!="
  | .gt => ">"
  | .lt => "<"
  | .ge => ">="
  | .le => "<="
  | .like => "like"
  | .notLike => "notlike"

/-- Every operator. -/
def all : List Operator := [.eq, .ne, .gt, .lt, .ge, .le, .like, .notLike]

/-- The operator a text spells; white space around it does not count. -/
def read (s : String) : Except Error Operator :=
  let name := Text.trimmed s
  match all.find? (·.symbol == name) with
  | some op => .ok op
  | none => .error (.operator name)

/-- Whether an operator holds of two operands in a given order.  Operands without an order are
different and nothing else; the two pattern operators never read off an order. -/
def holds : Operator → Option Ordering → Bool
  | .eq, order => order == some .eq
  | .ne, order => order != some .eq
  | .gt, order => order == some .gt
  | .lt, order => order == some .lt
  | .ge, order => order == some .gt || order == some .eq
  | .le, order => order == some .lt || order == some .eq
  | .like, _ => false
  | .notLike, _ => false

end Operator

end StepScript
