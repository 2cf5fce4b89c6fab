/-
# Ranges of characters

A character class given by a table is a list of closed ranges of character numbers.
-/

namespace StepScript.Text

/-- A set of characters, as closed ranges of character numbers. -/
abbrev CodeRanges := List (Nat × Nat)

/-- Whether a character lies in one of the ranges. -/
def CodeRanges.mem (ranges : CodeRanges) (c : Char) : Bool :=
  ranges.any fun r => r.1 ≤ c.toNat && c.toNat ≤ r.2

end StepScript.Text
