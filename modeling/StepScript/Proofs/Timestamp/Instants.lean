/-
# Points in time counted in units

DuckDB counts a point in time in seconds, or in thousandths, millionths or billionths of a second,
from the start of 1970.  The point becomes a timestamp exactly if the calendar has its day, and the
timestamp is that very point: the products on the way are checked for 64 bits, and fit for every
point of the calendar.
-/
import StepScript.Duckdb.Cell
import StepScript.Proofs.Timestamp.Calendar

namespace StepScript

/-! ## Instants -/

/-- The number of microseconds of a day. -/
def microsPerDay : Int := 86400000000

/-- An instant, in microseconds from the start of 1970, on a day from the first of January of the
year -262143 to the 31st of December of the year 262142. -/
def InCalendar (micros : Int) : Prop :=
  (Date.mk (-262143) 1 1).toDay * microsPerDay ≤ micros ∧
    micros < ((Date.mk 262142 12 31).toDay + 1) * microsPerDay

instance : DecidablePred InCalendar := fun _ => inferInstanceAs (Decidable (_ ∧ _))

theorem toDay_first : (Date.mk (-262143) 1 1).toDay = firstDay := by decide

theorem toDay_last : (Date.mk 262142 12 31).toDay = lastDay := by decide

theorem inCalendar_iff {micros : Int} : InCalendar micros ↔
    -8334601228800000000 ≤ micros ∧ micros < 8210266876800000000 := by
  unfold InCalendar
  rw [toDay_first, toDay_last]
  rfl

/-- An instant of the calendar is an integer of 64 bits. -/
theorem InCalendar.fits {micros : Int} (h : InCalendar micros) :
    minInteger ≤ micros ∧ micros ≤ maxInteger := by
  rw [inCalendar_iff] at h
  unfold minInteger maxInteger
  omega

namespace Timestamp

/-- The nanoseconds from the start of 1970 to the date and the time of day of a timestamp. -/
def instant (t : Timestamp) : Int :=
  ((Date.ofDay t.day).toDay * secondsPerDay + t.second) * nanosPerSecond + t.nano

/-- Whether a timestamp is not in a leap second. -/
def IsRegular (t : Timestamp) : Prop :=
  t.nano < nanosPerSecond

/-- The timestamp of a number of microseconds is that instant, and no other regular timestamp is. -/
theorem ofMicros?_eq_some {micros : Int} {t : Timestamp} :
    ofMicros? micros = some t ↔ t.IsRegular ∧ t.instant = micros * 1000 := by
  have hsecond := t.second_lt
  unfold ofMicros? ofSeconds?
  rw [of?_eq_some]
  unfold IsRegular instant
  rw [Date.toDay_ofDay]
  unfold secondsPerDay at hsecond ⊢
  unfold nanosPerSecond
  omega

/-- There is a timestamp for every instant of the calendar. -/
theorem isSome_ofMicros? {micros : Int} :
    (ofMicros? micros).isSome = true ↔ InCalendar micros := by
  unfold ofMicros? ofSeconds? of?
  rw [Option.isSome_dite, inCalendar_iff]
  unfold firstDay lastDay secondsPerDay nanosPerSecond
  omega

end Timestamp

/-! ## Units -/

namespace Duckdb

/-- The number of units of a second. -/
def TimeUnit.perSecond : TimeUnit → Nat
  | .second => 1
  | .millisecond => 1000
  | .microsecond => 1000000
  | .nanosecond => 1000000000

/-- The microseconds from the start of 1970 to a point in time, without the part of a microsecond
that is left. -/
def TimeUnit.instant (unit : TimeUnit) (count : Int) : Int :=
  (count * 1000000).tdiv unit.perSecond

theorem TimeUnit.instant_second (count : Int) :
    TimeUnit.second.instant count = count * 1000000 :=
  Int.tdiv_one _

theorem TimeUnit.instant_millisecond (count : Int) :
    TimeUnit.millisecond.instant count = count * 1000 := by
  have hfactor : count * 1000000 = count * 1000 * 1000 := by omega
  unfold instant
  rw [hfactor]
  exact Int.mul_tdiv_cancel _ (by decide)

theorem TimeUnit.instant_microsecond (count : Int) :
    TimeUnit.microsecond.instant count = count :=
  Int.mul_tdiv_cancel count (by decide)

theorem TimeUnit.instant_nanosecond (count : Int) :
    TimeUnit.nanosecond.instant count = count.tdiv 1000 :=
  Int.mul_tdiv_mul_of_pos_left count 1000 (by decide)

/-- A product that does not fit into 64 bits is no instant of the calendar. -/
theorem fits_or (n : Int) :
    (if minInteger ≤ n ∧ n ≤ maxInteger then some n else none) = some n ∨
      (if minInteger ≤ n ∧ n ≤ maxInteger then some n else none) = none ∧ ¬ InCalendar n := by
  by_cases hfits : minInteger ≤ n ∧ n ≤ maxInteger
  · exact .inl (if_pos hfits)
  · exact .inr ⟨if_neg hfits, fun hn => hfits hn.fits⟩

/-- The microseconds of a count are those of its instant, unless the instant is far outside of the
calendar. -/
theorem TimeUnit.micros?_eq (unit : TimeUnit) (count : Int) :
    unit.micros? count = some (unit.instant count) ∨
      unit.micros? count = none ∧ ¬ InCalendar (unit.instant count) := by
  cases unit with
  | second =>
    rw [instant_second]
    exact fits_or (count * 1000000)
  | millisecond =>
    rw [instant_millisecond]
    exact fits_or (count * 1000)
  | microsecond =>
    rw [instant_microsecond]
    exact .inl rfl
  | nanosecond =>
    rw [instant_nanosecond]
    exact .inl rfl

/-- What becomes of a point in time that is counted in some unit. -/
structure ConvertsExactly (unit : TimeUnit) (count : Int) : Prop where
  /-- It becomes a timestamp if it is in the calendar. -/
  isSome_iff : (timestampOf? unit count).isSome = true ↔ InCalendar (unit.instant count)
  /-- The timestamp is that instant, and no other one is. -/
  eq_some_iff : ∀ t, timestampOf? unit count = some t ↔
    t.IsRegular ∧ t.instant = unit.instant count * 1000
  /-- No product leaves the 64 bits on the way to an instant of the calendar. -/
  fits : InCalendar (unit.instant count) → unit.micros? count = some (unit.instant count)
  /-- The same instant in another unit becomes the same. -/
  same : ∀ other n, TimeUnit.instant other n = unit.instant count →
    timestampOf? other n = timestampOf? unit count
  /-- Only what is not in the calendar stays a plain integer. -/
  plain_iff : (Cell.timestamp unit count).value = .integer count ↔
    ¬ InCalendar (unit.instant count)

/-- A count becomes the timestamp of its instant. -/
theorem timestampOf?_eq (unit : TimeUnit) (count : Int) :
    timestampOf? unit count = Timestamp.ofMicros? (unit.instant count) := by
  unfold timestampOf?
  rcases unit.micros?_eq count with hmicros | ⟨hmicros, houtside⟩
  · rw [hmicros, Option.bind_some]
  · have hnone : Timestamp.ofMicros? (unit.instant count) = none := by
      rw [← Option.not_isSome_iff_eq_none, Timestamp.isSome_ofMicros?]
      exact houtside
    rw [hmicros, hnone, Option.bind_none]

/-- **A count of units becomes a timestamp exactly where the calendar has its instant**, the
timestamp of that very instant. -/
theorem instants_convert_exactly (unit : TimeUnit) (count : Int) :
    ConvertsExactly unit count where
  isSome_iff := by rw [timestampOf?_eq, Timestamp.isSome_ofMicros?]
  eq_some_iff := fun t => by rw [timestampOf?_eq, Timestamp.ofMicros?_eq_some]
  fits := by
    intro hinside
    rcases unit.micros?_eq count with hmicros | ⟨_, houtside⟩
    · exact hmicros
    · exact absurd hinside houtside
  same := by
    intro other n hsame
    rw [timestampOf?_eq, timestampOf?_eq, hsame]
  plain_iff := by
    rw [← Timestamp.isSome_ofMicros?, ← timestampOf?_eq]
    show ((timestampOf? unit count).map Value.timestamp).getD (.integer count) = _ ↔ _
    cases timestampOf? unit count <;> simp

/-- The last second of the calendar, the one behind it, and a part of a microsecond before 1970. -/
example : (timestampOf? .second 8210266876799).map Timestamp.display =
      some "+262142-12-31 23:59:59" ∧
    timestampOf? .second 8210266876800 = none ∧
    timestampOf? .nanosecond (-999) = timestampOf? .second 0 := by decide +kernel

end Duckdb

end StepScript
