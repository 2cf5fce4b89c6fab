/-
# Writing timestamps

A timestamp is written as its date and its time of day.  A year of more than four digits has a
sign, a leap second is the second 60, and the fraction has the fewest of no, three, six and nine
digits that show it exactly.
-/
import StepScript.Timestamp.Basic

namespace StepScript

/-- A year with at least four digits, and with a sign outside of four digits. -/
def renderYear (year : Int) : String :=
  if 0 ≤ year ∧ year ≤ 9999 then padded 4 year.toNat
  else (if year < 0 then "-" else "+") ++ padded 4 year.natAbs

/-- A date in the order year, month, day. -/
def Date.render (d : Date) : String :=
  renderYear d.year ++ "-" ++ padded 2 d.month ++ "-" ++ padded 2 d.day

/-- A fraction of a second with its point; nothing when there is none. -/
def renderFraction (nano : Nat) : String :=
  if nano = 0 then ""
  else if nano % 1000000 = 0 then "." ++ padded 3 (nano / 1000000)
  else if nano % 1000 = 0 then "." ++ padded 6 (nano / 1000)
  else "." ++ padded 9 nano

/-- The time of day of a timestamp. -/
def Timestamp.renderTime (t : Timestamp) : String :=
  padded 2 (t.second / 3600) ++ ":" ++ padded 2 (t.second / 60 % 60) ++ ":" ++
    padded 2 (t.second % 60 + t.nano / nanosPerSecond) ++ renderFraction (t.nano % nanosPerSecond)

/-- A timestamp with a separator between its date and its time. -/
def Timestamp.renderWith (separator : String) (t : Timestamp) : String :=
  (Date.ofDay t.day).render ++ separator ++ t.renderTime

/-- A timestamp as it stands in statement text. -/
def Timestamp.display (t : Timestamp) : String :=
  t.renderWith " "

end StepScript
