/-
# Days and dates

The date of a day is one that the calendar has, and its day is the day it came from.  A day is
placed in its era of four hundred years, starting in March, by the century, the group of four years
and the year of the group.
-/
import Mathlib.Tactic.IntervalCases
import Mathlib.Tactic.Ring
import StepScript.Timestamp.Basic

namespace StepScript

/-! ## The place of a day in its era -/

/-- A day by its era, the century of the era, the group of four years of the century, the year of
the group and the day of the year, each counted from zero. -/
structure EraDay where
  era : Int
  century : Int
  group : Int
  year : Int
  day : Int
  century_range : 0 ≤ century ∧ century ≤ 3
  group_range : 0 ≤ group ∧ group ≤ 24
  year_range : 0 ≤ year ∧ year ≤ 3
  day_range : 0 ≤ day ∧ day ≤ 365
  /-- Only the last year of a group has a leap day, and of the last groups only the one of the last
  century. -/
  leap_day : day = 365 → year = 3 ∧ (group ≤ 23 ∨ century = 3)

namespace EraDay

/-- The number of days before this day in its era. -/
def dayOfEra (e : EraDay) : Int :=
  36524 * e.century + 1461 * e.group + 365 * e.year + e.day

/-- The number of years before this day in its era. -/
def yearOfEra (e : EraDay) : Int :=
  100 * e.century + 4 * e.group + e.year

/-- The number of days from the first of January 1970. -/
def toDay (e : EraDay) : Int :=
  e.era * 146097 + e.dayOfEra - 719468

/-- The number of the month of the year, counted from March. -/
def month (e : EraDay) : Int :=
  (5 * e.day + 2) / 153

/-- Every day has its place. -/
theorem exists_toDay (n : Int) : ∃ e : EraDay, e.toDay = n := by
  obtain ⟨era, place, hplace, hn⟩ : ∃ era place : Int,
      (0 ≤ place ∧ place ≤ 146096) ∧ n = era * 146097 + place - 719468 :=
    ⟨(n + 719468) / 146097, (n + 719468) % 146097, by omega, by omega⟩
  obtain ⟨century, rest, hcentury, hrest, hsplit⟩ : ∃ century rest : Int,
      (0 ≤ century ∧ century ≤ 3) ∧ (0 ≤ rest ∧ (rest ≤ 36523 ∨ rest = 36524 ∧ century = 3)) ∧
        place = 36524 * century + rest := by
    by_cases hlast : place = 146096
    · exact ⟨3, 36524, by omega, by omega, by omega⟩
    · exact ⟨place / 36524, place % 36524, by omega, by omega, by omega⟩
  obtain ⟨group, within, hgroup, hwithin, hrestSplit⟩ : ∃ group within : Int,
      (0 ≤ group ∧ group ≤ 24) ∧ (0 ≤ within ∧ within ≤ 1460) ∧ rest = 1461 * group + within :=
    ⟨rest / 1461, rest % 1461, by omega, by omega, by omega⟩
  by_cases hleap : within = 1460
  · refine ⟨⟨era, century, group, 3, 365, hcentury, hgroup, by omega, by omega, by omega⟩, ?_⟩
    simp only [toDay, dayOfEra]
    omega
  · refine ⟨⟨era, century, group, within / 365, within % 365, hcentury, hgroup, by omega, by omega,
      by omega⟩, ?_⟩
    simp only [toDay, dayOfEra]
    omega

theorem dayOfEra_range (e : EraDay) : 0 ≤ e.dayOfEra ∧ e.dayOfEra ≤ 146096 := by
  obtain ⟨era, century, group, year, day, hcentury, hgroup, hyear, hday, hleap⟩ := e
  simp only [dayOfEra]
  omega

/-- The year in which a day of an era lies is found by counting all years as if they had 365
days. -/
theorem yearOfEra_eq (e : EraDay) :
    (e.dayOfEra - e.dayOfEra / 1460 + e.dayOfEra / 36524 - e.dayOfEra / 146096) / 365 =
      e.yearOfEra := by
  obtain ⟨era, century, group, year, day, hcentury, hgroup, hyear, hday, hleap⟩ := e
  simp only [dayOfEra, yearOfEra]
  generalize hplace : 36524 * century + 1461 * group + 365 * year + day = place
  have hcenturies : place / 36524 = century ∧ place / 146096 = 0 ∨
      place / 36524 = 4 ∧ place / 146096 = 1 ∧ place = 146096 := by
    omega
  -- a group has one day more than four years of 365 days, and so has a century than its groups
  have hgroups : place / 1460 = 25 * century + group ∨
      place / 1460 = 25 * century + group + 1 ∧ 1364 ≤ 365 * year + day := by
    omega
  omega

/-- The days of an era in front of the year of a day. -/
theorem daysBefore_yearOfEra (e : EraDay) :
    365 * e.yearOfEra + e.yearOfEra / 4 - e.yearOfEra / 100 + e.day = e.dayOfEra := by
  obtain ⟨era, century, group, year, day, hcentury, hgroup, hyear, hday, hleap⟩ := e
  simp only [dayOfEra, yearOfEra]
  omega

theorem month_range (e : EraDay) : 0 ≤ e.month ∧ e.month ≤ 11 := by
  have hday := e.day_range
  unfold month
  omega

end EraDay

/-! ## The date of a day -/

namespace Date

/-- The parts of the date of a day. -/
theorem ofDay_toDay (e : EraDay) :
    ofDay e.toDay =
      ⟨if e.month < 10 then e.yearOfEra + e.era * 400 else e.yearOfEra + e.era * 400 + 1,
        (if e.month < 10 then e.month + 3 else e.month - 9).toNat,
        (e.day - (153 * e.month + 2) / 5 + 1).toNat⟩ := by
  have hrange := e.dayOfEra_range
  have hera : (e.toDay + 719468) / 146097 = e.era := by
    unfold EraDay.toDay
    omega
  have hdayOfEra : e.toDay + 719468 - e.era * 146097 = e.dayOfEra := by
    unfold EraDay.toDay
    omega
  have hday : e.dayOfEra - (365 * e.yearOfEra + e.yearOfEra / 4 - e.yearOfEra / 100) = e.day := by
    have h := e.daysBefore_yearOfEra
    omega
  have hmonths := e.month_range
  have hmonth : (5 * e.day + 2) / 153 = e.month := rfl
  unfold ofDay
  simp only [hera, hdayOfEra, e.yearOfEra_eq, hday, hmonth]
  congr 1
  split <;> split <;> omega

/-- A year with a leap day in front of March. -/
theorem isLeapYear_of_leapDay {e : EraDay} (h : e.day = 365) :
    isLeapYear (e.yearOfEra + e.era * 400 + 1) = true := by
  obtain ⟨hyear, hlast⟩ := e.leap_day h
  have hgroup := e.group_range
  have hcentury := e.century_range
  unfold isLeapYear EraDay.yearOfEra
  simp only [Bool.and_eq_true, Bool.or_eq_true, beq_iff_eq, bne_iff_ne, ne_eq]
  omega

/-- **The date of a day is in the calendar.** -/
theorem isValid_ofDay (n : Int) : (ofDay n).isValid = true := by
  obtain ⟨e, rfl⟩ := EraDay.exists_toDay n
  have hday := e.day_range
  have hmonth : 153 * e.month ≤ 5 * e.day + 2 ∧ 5 * e.day + 2 < 153 * e.month + 153 := by
    unfold EraDay.month
    omega
  have hleap : e.day = 365 → isLeapYear (e.yearOfEra + e.era * 400 + 1) = true :=
    isLeapYear_of_leapDay
  obtain ⟨hlow, hhigh⟩ := e.month_range
  rw [ofDay_toDay]
  generalize e.yearOfEra + e.era * 400 = year at hleap ⊢
  generalize e.month = month at hmonth hlow hhigh ⊢
  -- the days up to the month decide which day of the month it is at most
  simp only [isValid, Bool.and_eq_true, decide_eq_true_eq]
  interval_cases month <;> simp [daysInMonth] <;> grind

/-- **The day of the date of a day is that day.** -/
theorem toDay_ofDay (n : Int) : (ofDay n).toDay = n := by
  obtain ⟨e, rfl⟩ := EraDay.exists_toDay n
  have hday := e.day_range
  have hmonth : 153 * e.month ≤ 5 * e.day + 2 ∧ 5 * e.day + 2 < 153 * e.month + 153 := by
    unfold EraDay.month
    omega
  have hyear : 0 ≤ e.yearOfEra ∧ e.yearOfEra ≤ 399 := by
    have hcentury := e.century_range
    have hgroup := e.group_range
    have hlast := e.year_range
    unfold EraDay.yearOfEra
    omega
  have hmonths := e.month_range
  have hbefore := e.daysBefore_yearOfEra
  rw [ofDay_toDay]
  unfold toDay EraDay.toDay
  by_cases hspring : e.month < 10
  · simp only [if_pos hspring]
    rw [if_neg (by omega), if_neg (by omega)]
    omega
  · simp only [if_neg hspring]
    rw [if_pos (by omega), if_pos (by omega)]
    omega

end Date

end StepScript
