/-
# The shortest decimal of a floating-point number

Every number is an exact decimal, and the decimals nearest to it on coarser and coarser grids lie
further and further away.  The shortest decimal of a number is the one on the coarsest grid that
still reads back as the number; if two on that grid do, the nearer one, and a tie is left to the
caller.
-/
import StepScript.Double.Basic

namespace StepScript.Double

/-- The decimals that read back as a number: those between `low` and `high`, ends included or not,
around `exact`.  All three count quarters of a power of ten. -/
structure Neighbourhood where
  exact : Nat
  low : Nat
  high : Nat
  closed : Bool

/-- Whether a decimal, in the same unit as `exact`, reads back as the number. -/
def Neighbourhood.holds (n : Neighbourhood) (decimal : Nat) : Bool :=
  let quarters := 4 * decimal
  if n.closed then n.low ≤ quarters && quarters ≤ n.high
  else n.low < quarters && quarters < n.high

/-- How a decimal halfway between two candidates is decided. -/
inductive Tie where
  | up
  | even
  deriving DecidableEq, Repr

/-- The multiple of `step` that reads back as the number, if one of the two next to it does. -/
def Neighbourhood.onGrid? (n : Neighbourhood) (tie : Tie) (step : Nat) : Option Nat :=
  let below := n.exact / step
  let rest := n.exact % step
  let lowHit := n.holds (below * step)
  let highHit := n.holds ((below + 1) * step)
  if lowHit && highHit then
    if 2 * rest < step then some below
    else if step < 2 * rest then some (below + 1)
    else if tie = .even && below % 2 == 0 then some below
    else some (below + 1)
  else if lowHit then some below
  else if highHit then some (below + 1)
  else none

/-- The candidate on the coarsest grid `10 ^ k` with `k` at most the given one, with that `k`. -/
def Neighbourhood.coarsest (n : Neighbourhood) (tie : Tie) : Nat → Nat × Nat
  | 0 => (n.exact, 0)
  | k + 1 =>
    match n.onGrid? tie (Nat.pow 10 (k + 1)) with
    | some digits => (digits, k + 1)
    | none => n.coarsest tie k

/-- The shortest decimal `digits * 10 ^ exponent` of a number of a format, by its mantissa, which is
not zero, and its exponent. -/
def shortest (format : Format) (tie : Tie) (mantissa : Nat) (exponent : Int) : Nat × Int :=
  let unit : Nat := if 0 ≤ exponent then Nat.pow 2 exponent.toNat else Nat.pow 5 (-exponent).toNat
  let scale : Int := if 0 ≤ exponent then 0 else exponent
  let exact := mantissa * unit
  let isLowest := mantissa = Nat.pow 2 (format.precision - 1) ∧ format.least < exponent
  let below := if isLowest then 1 else 2
  let n : Neighbourhood :=
    ⟨exact, 4 * exact - below * unit, 4 * exact + 2 * unit, mantissa % 2 == 0⟩
  let (digits, power) := n.coarsest tie (Nat.repr exact).length
  (digits, scale + power)

end StepScript.Double
