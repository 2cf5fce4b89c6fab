/-
# The error channel

Most commands do not end a transform when they fail: they leave their error here, for the statement
behind them to handle.
-/
import StepScript.Error
import StepScript.Value

namespace StepScript

/-- The last failure that is not handled yet, and the record at which it happened. -/
structure ErrorChannel where
  pending : Option Error
  lastRecord : Option Record
  deriving DecidableEq

namespace ErrorChannel

/-- The channel without a failure. -/
def empty : ErrorChannel := ⟨none, none⟩

/-- Leaves a failure. -/
def deposit (c : ErrorChannel) (e : Error) : ErrorChannel := { c with pending := some e }

/-- Notes the record at which an iteration failed. -/
def note (c : ErrorChannel) (record : Record) : ErrorChannel := { c with lastRecord := some record }

/-- Whether there is a failure. -/
def hasPending (c : ErrorChannel) : Bool := c.pending.isSome

end ErrorChannel

end StepScript
