/-
# Points in time

A timestamp is a day of the proleptic Gregorian calendar, a second of that day and a fraction of
that second in nanoseconds, without a time zone.  A fraction of a second or more stands for a leap
second, which only the last second of a minute may have.
-/
import StepScript.Integer

namespace StepScript

/-! ## The calendar -/

/-- A day by its year, month and day of the month. -/
structure Date where
  year : Int
  month : Nat
  day : Nat
  deriving DecidableEq, Repr

/-- Whether a year has a 29th of February. -/
def isLeapYear (year : Int) : Bool :=
  year % 4 == 0 && (year % 100 != 0 || year % 400 == 0)

/-- The number of days of a month. -/
def daysInMonth (year : Int) (month : Nat) : Nat :=
  if month = 2 then (if isLeapYear year then 29 else 28)
  else if month = 4 ∨ month = 6 ∨ month = 9 ∨ month = 11 then 30
  else 31

/-- A day that the calendar has. -/
def Date.isValid (d : Date) : Bool :=
  1 ≤ d.month && d.month ≤ 12 && 1 ≤ d.day && d.day ≤ daysInMonth d.year d.month

/-- The number of days from the first of January 1970.  Years are counted from March on, so that
the leap day is the last one. -/
def Date.toDay (d : Date) : Int :=
  let year := if d.month ≤ 2 then d.year - 1 else d.year
  let era := year / 400
  let yearOfEra := year - era * 400
  let shifted : Int := if d.month ≤ 2 then d.month + 9 else d.month - 3
  let dayOfYear := (153 * shifted + 2) / 5 + d.day - 1
  let dayOfEra := yearOfEra * 365 + yearOfEra / 4 - yearOfEra / 100 + dayOfYear
  era * 146097 + dayOfEra - 719468

/-- The date a number of days after the first of January 1970. -/
def Date.ofDay (n : Int) : Date :=
  let z := n + 719468
  let era := z / 146097
  let dayOfEra := z - era * 146097
  let yearOfEra := (dayOfEra - dayOfEra / 1460 + dayOfEra / 36524 - dayOfEra / 146096) / 365
  let dayOfYear := dayOfEra - (365 * yearOfEra + yearOfEra / 4 - yearOfEra / 100)
  let shifted := (5 * dayOfYear + 2) / 153
  let day := dayOfYear - (153 * shifted + 2) / 5 + 1
  let month := if shifted < 10 then shifted + 3 else shifted - 9
  let year := yearOfEra + era * 400
  ⟨if month ≤ 2 then year + 1 else year, month.toNat, day.toNat⟩

/-! ## Timestamps -/

/-- The first day that can be held, the first of January of the year -262143. -/
def firstDay : Int := -96465292

/-- The last day that can be held, the 31st of December of the year 262142. -/
def lastDay : Int := 95026236

/-- The number of seconds of a day. -/
def secondsPerDay : Nat := 86400

/-- The number of nanoseconds of a second. -/
def nanosPerSecond : Nat := 1000000000

/-- A point in time. -/
structure Timestamp where
  day : Int
  second : Nat
  nano : Nat
  day_range : firstDay ≤ day ∧ day ≤ lastDay
  second_lt : second < secondsPerDay
  nano_range : nano < nanosPerSecond ∨ nano < 2 * nanosPerSecond ∧ second % 60 = 59
  deriving DecidableEq, Repr

namespace Timestamp

/-- The timestamp with these parts, if there is one. -/
def of? (day : Int) (second nano : Nat) : Option Timestamp :=
  if h : (firstDay ≤ day ∧ day ≤ lastDay) ∧ second < secondsPerDay ∧
      (nano < nanosPerSecond ∨ nano < 2 * nanosPerSecond ∧ second % 60 = 59) then
    some ⟨day, second, nano, h.1, h.2.1, h.2.2⟩
  else none

theorem of?_eq_some {day : Int} {second nano : Nat} {t : Timestamp} :
    of? day second nano = some t ↔ t.day = day ∧ t.second = second ∧ t.nano = nano := by
  unfold of?
  constructor
  · intro h
    split at h
    · cases h
      exact ⟨rfl, rfl, rfl⟩
    · cases h
  · rintro ⟨rfl, rfl, rfl⟩
    exact dif_pos ⟨t.day_range, t.second_lt, t.nano_range⟩

/-- The timestamp some seconds after the start of 1970, and a fraction. -/
def ofSeconds? (seconds : Int) (nano : Nat) : Option Timestamp :=
  of? (seconds / secondsPerDay) (seconds % secondsPerDay).toNat nano

/-- The timestamp some microseconds after the start of 1970. -/
def ofMicros? (micros : Int) : Option Timestamp :=
  ofSeconds? (micros / 1000000) ((micros % 1000000).toNat * 1000)

/-- The start of a day. -/
def ofDay? (day : Int) : Option Timestamp :=
  of? day 0 0

/-- Earlier timestamps come first; a leap second comes after the second it extends. -/
def order (a b : Timestamp) : Ordering :=
  (compare a.day b.day).then ((compare a.second b.second).then (compare a.nano b.nano))

end Timestamp

end StepScript
