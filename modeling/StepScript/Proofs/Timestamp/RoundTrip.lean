/-
# Timestamps written and read back

A timestamp is written in pieces: the parts of its date and of its time of day, each behind its
separator.  Every reader takes one piece from the front and leaves the rest, so a written timestamp
is read piece by piece.  The form with an offset is the only one tried earlier, and no offset is
there at the end.
-/
import StepScript.Proofs.Integer
import StepScript.Proofs.Text.Character
import StepScript.Proofs.Timestamp.Calendar
import StepScript.Timestamp.Read
import StepScript.Timestamp.Render

namespace StepScript

/-! ## Digits and what follows them -/

theorem Text.isBlank_of_isDigit {c : Char} (h : c.isDigit = true) : isBlank c = false := by
  apply isBlank_of_isWord
  have hrange : 48 ≤ c.toNat ∧ c.toNat ≤ 57 := by
    simpa [Char.isDigit, UInt32.le_iff_toNat_le] using h
  unfold isWord
  rw [if_pos (by omega), Char.isAlphanum, h, Bool.or_true, Bool.true_or]

theorem Text.trimStart_of_head {s : List Char} (h : ∀ c ∈ s.head?, isBlank c = false) :
    trimStart s = s := by
  cases s with
  | nil => rfl
  | cons c rest => rw [trimStart, List.dropWhile_cons, h c rfl, if_neg (by decide)]

/-- A text in which no number goes on. -/
def NumberEnds (rest : List Char) : Prop :=
  ∀ c ∈ rest.head?, c.isDigit = false

theorem numberEnds_nil : NumberEnds [] := nofun

theorem numberEnds_cons {c : Char} (h : c.isDigit = false) (rest : List Char) :
    NumberEnds (c :: rest) := by
  rintro _ ⟨⟩
  exact h

theorem takeWhile_isDigit_append {s rest : List Char} (h : ∀ c ∈ s, c.isDigit = true)
    (hrest : NumberEnds rest) : (s ++ rest).takeWhile Char.isDigit = s := by
  rw [List.takeWhile_append_of_pos h]
  cases rest with
  | nil => rw [List.takeWhile_nil, List.append_nil]
  | cons c rest => rw [List.takeWhile_cons, hrest c rfl, if_neg (by decide), List.append_nil]

/-- A number of some width starts with a digit. -/
theorem exists_cons_padded {width : Nat} (hwidth : 0 < width) (n : Nat) :
    ∃ c digits, (padded width n).toList = c :: digits ∧ c.isDigit = true := by
  cases hdigits : (padded width n).toList with
  | nil =>
    have hlength := length_toList_padded width n
    rw [hdigits, List.length_nil] at hlength
    omega
  | cons c digits =>
    have hmem : c ∈ (padded width n).toList := by
      rw [hdigits]
      exact List.mem_cons_self
    exact ⟨c, digits, rfl, isDigit_of_mem_padded hmem⟩

theorem trimStart_padded {width : Nat} (hwidth : 0 < width) (n : Nat) (rest : List Char) :
    Text.trimStart ((padded width n).toList ++ rest) = (padded width n).toList ++ rest := by
  obtain ⟨c, digits, hdigits, hc⟩ := exists_cons_padded hwidth n
  rw [hdigits]
  refine Text.trimStart_of_head ?_
  rintro _ ⟨⟩
  exact Text.isBlank_of_isDigit hc

namespace Timestamp

/-! ## Reading one piece -/

/-- A number is read back if it is not longer than the reader allows. -/
theorem readNumber?_padded {least most width n : Nat} {rest : List Char}
    (hleast : least ≤ (padded width n).toList.length)
    (hmost : (padded width n).toList.length ≤ most) (hrest : NumberEnds rest) :
    readNumber? least most ((padded width n).toList ++ rest) = some (n, rest) := by
  unfold readNumber?
  rw [takeWhile_isDigit_append (fun _ => isDigit_of_mem_padded) hrest,
    List.take_of_length_le hmost]
  dsimp only
  rw [if_neg (by omega), digitsValue_padded, List.drop_left]

/-- Two digits are read as the number below 100 that they show. -/
theorem readNumber?_two {least n : Nat} {rest : List Char} (hleast : least ≤ 2) (hn : n < 100)
    (hrest : NumberEnds rest) :
    readNumber? least 2 ((padded 2 n).toList ++ rest) = some (n, rest) := by
  have hlength : (padded 2 n).toList.length = 2 := length_padded_of_lt (by decide) hn
  exact readNumber?_padded (by omega) (by omega) hrest

theorem readField?_two {n : Nat} {rest : List Char} (hn : n < 100) (hrest : NumberEnds rest) :
    readField? ((padded 2 n).toList ++ rest) = some (n, rest) := by
  unfold readField?
  rw [trimStart_padded (by decide), readNumber?_two (by decide) hn hrest]

theorem readChar?_cons (c : Char) (rest : List Char) : readChar? c (c :: rest) = some rest :=
  if_pos rfl

/-- Behind a sign a year may have any number of digits; without one it has four. -/
theorem toList_renderYear (year : Int) :
    (0 ≤ year ∧ year ≤ 9999 ∧ (renderYear year).toList = (padded 4 year.toNat).toList) ∨
    (year < 0 ∧ (renderYear year).toList = '-' :: (padded 4 year.natAbs).toList) ∨
    (9999 < year ∧ (renderYear year).toList = '+' :: (padded 4 year.natAbs).toList) := by
  unfold renderYear
  by_cases hfour : 0 ≤ year ∧ year ≤ 9999
  · rw [if_pos hfour]
    exact .inl ⟨hfour.1, hfour.2, rfl⟩
  · rw [if_neg hfour, String.toList_append]
    by_cases hnegative : year < 0
    · rw [if_pos hnegative]
      exact .inr (.inl ⟨hnegative, rfl⟩)
    · rw [if_neg hnegative]
      exact .inr (.inr ⟨by omega, rfl⟩)

theorem readYear?_minus (rest : List Char) : readYear? ('-' :: rest) =
    (readNumber? 1 rest.length rest).map fun read => (-(read.1 : Int), read.2) := by
  unfold readYear?
  rw [Text.trimStart_of_head (by rintro _ ⟨⟩; decide)]
  rfl

theorem readYear?_plus (rest : List Char) : readYear? ('+' :: rest) =
    (readNumber? 1 rest.length rest).map fun read => ((read.1 : Int), read.2) := by
  unfold readYear?
  rw [Text.trimStart_of_head (by rintro _ ⟨⟩; decide)]
  rfl

/-- A digit in front is no sign. -/
theorem readYear?_digit {c : Char} (hc : c.isDigit = true) (rest : List Char) :
    readYear? (c :: rest) =
      (readNumber? 1 4 (c :: rest)).map fun read => ((read.1 : Int), read.2) := by
  unfold readYear?
  rw [Text.trimStart_of_head (by rintro _ ⟨⟩; exact Text.isBlank_of_isDigit hc)]
  split
  next behind heq => exact absurd (List.cons.inj heq).1 (ne_of_isDigit hc (by decide))
  next behind heq => exact absurd (List.cons.inj heq).1 (ne_of_isDigit hc (by decide))
  next => rfl

theorem readYear?_renderYear (year : Int) {rest : List Char} (hrest : NumberEnds rest) :
    readYear? ((renderYear year).toList ++ rest) = some (year, rest) := by
  have hsigned : readNumber? 1 ((padded 4 year.natAbs).toList ++ rest).length
      ((padded 4 year.natAbs).toList ++ rest) = some (year.natAbs, rest) := by
    have hlength := length_toList_padded 4 year.natAbs
    refine readNumber?_padded (by omega) ?_ hrest
    rw [List.length_append]
    omega
  rcases toList_renderYear year with ⟨hlow, hhigh, hyear⟩ | ⟨hnegative, hyear⟩ | ⟨hgreat, hyear⟩
  · have hlength : (padded 4 year.toNat).toList.length = 4 :=
      length_padded_of_lt (by decide) (by omega)
    have hread : readNumber? 1 4 ((padded 4 year.toNat).toList ++ rest) =
        some (year.toNat, rest) := readNumber?_padded (by omega) (by omega) hrest
    obtain ⟨c, digits, hdigits, hc⟩ := exists_cons_padded (show 0 < 4 by decide) year.toNat
    rw [hdigits, List.cons_append] at hread
    rw [hyear, hdigits, List.cons_append, readYear?_digit hc, hread, Option.map_some,
      Int.toNat_of_nonneg hlow]
  · rw [hyear, List.cons_append, readYear?_minus, hsigned, Option.map_some,
      Int.ofNat_natAbs_of_nonpos (by omega), Int.neg_neg]
  · rw [hyear, List.cons_append, readYear?_plus, hsigned, Option.map_some,
      Int.natAbs_of_nonneg (by omega)]

/-! ## The date -/

theorem dayOf?_ofDay (n : Int) :
    dayOf? (Date.ofDay n).year (Date.ofDay n).month (Date.ofDay n).day = some n := by
  show (if (Date.ofDay n).isValid then some (Date.ofDay n).toDay else none) = some n
  rw [if_pos (Date.isValid_ofDay n), Date.toDay_ofDay]

theorem ofDay_lt (n : Int) : (Date.ofDay n).month < 100 ∧ (Date.ofDay n).day < 100 := by
  have hvalid := Date.isValid_ofDay n
  simp only [Date.isValid, Bool.and_eq_true, decide_eq_true_eq] at hvalid
  have hdays : daysInMonth (Date.ofDay n).year (Date.ofDay n).month ≤ 31 := by
    unfold daysInMonth
    split
    · split <;> omega
    · split <;> omega
  omega

theorem toList_renderDate (d : Date) : d.render.toList =
    (renderYear d.year).toList ++
      '-' :: ((padded 2 d.month).toList ++ '-' :: (padded 2 d.day).toList) := by
  simp [Date.render]

theorem readDate?_render (n : Int) {rest : List Char} (hrest : NumberEnds rest) :
    readDate? ((Date.ofDay n).render.toList ++ rest) = some (n, rest) := by
  obtain ⟨hmonth, hday⟩ := ofDay_lt n
  have hhyphen : ∀ behind : List Char, NumberEnds ('-' :: behind) :=
    numberEnds_cons (by decide)
  rw [toList_renderDate]
  simp only [List.append_assoc, List.cons_append]
  unfold readDate?
  simp [readYear?_renderYear _ (hhyphen _), readChar?_cons, readField?_two hmonth (hhyphen _),
    readField?_two hday hrest, dayOf?_ofDay]

/-! ## The fraction -/

/-- A fraction that is not zero is a point and a number of at most nine digits, which stands for the
nanoseconds with zeros behind it. -/
theorem renderFraction_cases {nano : Nat} (h : nano < nanosPerSecond) :
    (nano = 0 ∧ (renderFraction nano).toList = []) ∨
    ∃ width n, 0 < width ∧ width ≤ 9 ∧ n < 10 ^ width ∧ n * 10 ^ (9 - width) = nano ∧
      (renderFraction nano).toList = '.' :: (padded width n).toList := by
  unfold nanosPerSecond at h
  have hpoint : ∀ digits : String, ("." ++ digits).toList = '.' :: digits.toList := by
    intro digits
    rw [String.toList_append]
    rfl
  unfold renderFraction
  by_cases hzero : nano = 0
  · rw [if_pos hzero]
    exact .inl ⟨hzero, rfl⟩
  · right
    rw [if_neg hzero]
    by_cases hthree : nano % 1000000 = 0
    · rw [if_pos hthree]
      exact ⟨3, nano / 1000000, by omega, by omega, by omega, by omega, hpoint _⟩
    · rw [if_neg hthree]
      by_cases hsix : nano % 1000 = 0
      · rw [if_pos hsix]
        exact ⟨6, nano / 1000, by omega, by omega, by omega, by omega, hpoint _⟩
      · rw [if_neg hsix]
        exact ⟨9, nano, by omega, by omega, by omega, by omega, hpoint _⟩

theorem numberEnds_renderFraction {nano : Nat} (h : nano < nanosPerSecond) :
    NumberEnds (renderFraction nano).toList := by
  rcases renderFraction_cases h with ⟨-, hfraction⟩ | ⟨width, n, -, -, -, -, hfraction⟩
  · rw [hfraction]
    exact numberEnds_nil
  · rw [hfraction]
    exact numberEnds_cons (by decide) _

theorem isDigit_or_point_of_mem_renderFraction {nano : Nat} (h : nano < nanosPerSecond) {c : Char}
    (hc : c ∈ (renderFraction nano).toList) : c.isDigit = true ∨ c = '.' := by
  rcases renderFraction_cases h with ⟨-, hfraction⟩ | ⟨width, n, -, -, -, -, hfraction⟩
  · rw [hfraction] at hc
    cases hc
  · rw [hfraction] at hc
    rcases List.mem_cons.1 hc with rfl | hc
    · exact .inr rfl
    · exact .inl (isDigit_of_mem_padded hc)

/-- A fraction is read back as the nanoseconds it shows, whatever the number of its digits. -/
theorem readOptionalFraction?_renderFraction {nano : Nat} (h : nano < nanosPerSecond) :
    readOptionalFraction? (renderFraction nano).toList = some (nano, []) := by
  rcases renderFraction_cases h with ⟨rfl, -⟩ | ⟨width, n, hwidth, hnine, hn, rfl, hfraction⟩
  · rfl
  · have hlength : (padded width n).toList.length = width := length_padded_of_lt hwidth hn
    have hdigits : (padded width n).toList.takeWhile Char.isDigit = (padded width n).toList := by
      have happend := takeWhile_isDigit_append (s := (padded width n).toList)
        (fun _ => isDigit_of_mem_padded) numberEnds_nil
      rwa [List.append_nil] at happend
    have hne : ¬ (padded width n).toList.isEmpty = true := by
      obtain ⟨c, digits, hcons, -⟩ := exists_cons_padded hwidth n
      rw [hcons]
      simp
    rw [hfraction]
    show readFraction? (padded width n).toList = some (n * 10 ^ (9 - width), [])
    unfold readFraction?
    rw [hdigits]
    dsimp only
    rw [if_neg hne, List.take_of_length_le (by omega), digitsValue_padded, List.drop_length,
      hlength]
    rfl

/-! ## The time of day -/

/-- The second that is shown; a leap second is the second 60. -/
def shownSecond (t : Timestamp) : Nat :=
  t.second % 60 + t.nano / nanosPerSecond

/-- The fraction of a second that is shown. -/
def shownNano (t : Timestamp) : Nat :=
  t.nano % nanosPerSecond

theorem shownNano_lt (t : Timestamp) : t.shownNano < nanosPerSecond :=
  Nat.mod_lt _ (by decide)

/-- The parts of the time of day have two digits each. -/
theorem timeParts_lt (t : Timestamp) :
    t.second / 3600 < 100 ∧ t.second / 60 % 60 < 100 ∧ t.shownSecond < 100 := by
  have hsecond := t.second_lt
  have hnano := t.nano_range
  unfold secondsPerDay at hsecond
  unfold nanosPerSecond at hnano
  unfold shownSecond nanosPerSecond
  omega

theorem toList_renderTime (t : Timestamp) : t.renderTime.toList =
    (padded 2 (t.second / 3600)).toList ++
      ':' :: ((padded 2 (t.second / 60 % 60)).toList ++
        ':' :: ((padded 2 t.shownSecond).toList ++ (renderFraction t.shownNano).toList)) := by
  simp [renderTime, shownSecond, shownNano]

theorem of?_self (t : Timestamp) : of? t.day t.second t.nano = some t :=
  of?_eq_some.2 ⟨rfl, rfl, rfl⟩

/-- The parts that are shown make up the timestamp again. -/
theorem assemble?_parts (t : Timestamp) :
    assemble? t.day (t.second / 3600) (t.second / 60 % 60) t.shownSecond t.shownNano = some t := by
  have hsecond := t.second_lt
  have hnano := t.nano_range
  have hself := t.of?_self
  unfold secondsPerDay at hsecond
  unfold nanosPerSecond at hnano
  unfold assemble? shownSecond shownNano nanosPerSecond
  rw [if_neg (by omega)]
  by_cases hleap : t.nano < 1000000000
  · have htime : t.second / 3600 * 3600 + t.second / 60 % 60 * 60 +
        (t.second % 60 + t.nano / 1000000000) = t.second := by
      omega
    have hfraction : t.nano % 1000000000 = t.nano := Nat.mod_eq_of_lt hleap
    rw [if_neg (by omega), htime, hfraction]
    exact hself
  · have htime : t.second / 3600 * 3600 + t.second / 60 % 60 * 60 + 59 = t.second := by
      omega
    have hfraction : 1000000000 + t.nano % 1000000000 = t.nano := by
      omega
    rw [if_pos (by omega), htime, hfraction]
    exact hself

/-! ## The whole timestamp -/

theorem toList_display (t : Timestamp) :
    t.display.toList = (Date.ofDay t.day).render.toList ++ ' ' :: t.renderTime.toList := by
  simp [display, renderWith]

theorem readLocal?_display (t : Timestamp) : readLocal? ' ' t.display.toList = some t := by
  obtain ⟨hhour, hminute, hsecond⟩ := t.timeParts_lt
  have hcolon : ∀ behind : List Char, NumberEnds (':' :: behind) := numberEnds_cons (by decide)
  have hblank : ∀ behind : List Char, NumberEnds (' ' :: behind) := numberEnds_cons (by decide)
  have hseparator : readSeparator? ' ' (' ' :: t.renderTime.toList) = some t.renderTime.toList := by
    show some (Text.trimStart (' ' :: t.renderTime.toList)) = _
    rw [Text.trimStart, List.dropWhile_cons_of_pos (by decide), ← Text.trimStart,
      toList_renderTime, trimStart_padded (by decide)]
  unfold readLocal?
  rw [toList_display]
  simp only [readDate?_render t.day (hblank _), hseparator, Option.bind_eq_bind, Option.bind_some]
  rw [toList_renderTime]
  simp only [readField?_two hhour (hcolon _), readField?_two hminute (hcolon _), readChar?_cons,
    readField?_two hsecond (numberEnds_renderFraction t.shownNano_lt), Option.bind_some,
    readOptionalFraction?_renderFraction t.shownNano_lt, List.isEmpty_nil, if_true, assemble?_parts]

/-- A date and a time without an offset behind them are not in the form with one. -/
theorem readZoned?_of_no_offset {s s₁ s₂ s₃ s₄ s₅ s₆ s₇ : List Char}
    {year month day hour minute second nano : Nat}
    (hyear : readNumber? 4 4 s = some (year, '-' :: s₁))
    (hmonth : readNumber? 2 2 s₁ = some (month, '-' :: s₂))
    (hday : readNumber? 2 2 s₂ = some (day, ' ' :: s₃))
    (hhour : readNumber? 2 2 s₃ = some (hour, ':' :: s₄))
    (hminute : readNumber? 2 2 s₄ = some (minute, ':' :: s₅))
    (hsecond : readNumber? 2 2 s₅ = some (second, s₆))
    (hfraction : readOptionalFraction? s₆ = some (nano, s₇)) (hoffset : readOffset? s₇ = none) :
    readZoned? s = none := by
  unfold readZoned?
  dsimp only [Option.bind_eq_bind]
  rw [hyear, Option.bind_some, readChar?_cons, Option.bind_some, hmonth, Option.bind_some,
    readChar?_cons, Option.bind_some, hday, Option.bind_some]
  dsimp only
  rw [if_pos (.inr (.inr rfl)), Option.bind_some, hhour, Option.bind_some, readChar?_cons,
    Option.bind_some, hminute, Option.bind_some, readChar?_cons, Option.bind_some, hsecond,
    Option.bind_some, hfraction, Option.bind_some, hoffset, Option.bind_none]

/-- The form with an offset has no sign in front of its year. -/
theorem readZoned?_cons {c : Char} (hc : c.isDigit = false) (rest : List Char) :
    readZoned? (c :: rest) = none := by
  have hnone : (c :: rest).takeWhile Char.isDigit = [] :=
    List.takeWhile_cons_of_neg (by rw [hc]; decide)
  have hyear : readNumber? 4 4 (c :: rest) = none := by
    unfold readNumber?
    rw [hnone]
    rfl
  unfold readZoned?
  rw [hyear]
  rfl

/-- No timestamp is written in the form with an offset. -/
theorem readZoned?_display (t : Timestamp) : readZoned? t.display.toList = none := by
  rw [toList_display, toList_renderDate]
  rcases toList_renderYear (Date.ofDay t.day).year with
    ⟨hlow, hhigh, hyear⟩ | ⟨-, hyear⟩ | ⟨-, hyear⟩
  · obtain ⟨hmonth, hday⟩ := ofDay_lt t.day
    obtain ⟨hhour, hminute, hsecond⟩ := t.timeParts_lt
    have hlength : (padded 4 (Date.ofDay t.day).year.toNat).toList.length = 4 :=
      length_padded_of_lt (by decide) (by omega)
    rw [hyear, toList_renderTime]
    simp only [List.append_assoc, List.cons_append]
    apply readZoned?_of_no_offset
    · exact readNumber?_padded hlength.ge hlength.le (numberEnds_cons (by decide) _)
    · exact readNumber?_two (by decide) hmonth (numberEnds_cons (by decide) _)
    · exact readNumber?_two (by decide) hday (numberEnds_cons (by decide) _)
    · exact readNumber?_two (by decide) hhour (numberEnds_cons (by decide) _)
    · exact readNumber?_two (by decide) hminute (numberEnds_cons (by decide) _)
    · exact readNumber?_two (by decide) hsecond (numberEnds_renderFraction t.shownNano_lt)
    · exact readOptionalFraction?_renderFraction t.shownNano_lt
    · rfl
  · rw [hyear]
    exact readZoned?_cons (by decide) _
  · rw [hyear]
    exact readZoned?_cons (by decide) _

/-- **A timestamp is read back from its text.** -/
theorem read?_display (t : Timestamp) : read? t.display.toList = some t := by
  unfold read?
  rw [readZoned?_display, readLocal?_display]
  rfl

/-- A leap second in the year before the year zero. -/
example : (of? (-719529) 86399 1250000000).map display = some "-0001-12-31 23:59:60.250" := by
  decide +kernel

/-! ## The ends of a written timestamp -/

/-- A timestamp starts with a digit or with the sign of its year. -/
theorem isDigit_or_sign_of_head?_display {t : Timestamp} {c : Char}
    (hc : c ∈ t.display.toList.head?) : c.isDigit = true ∨ c = '-' ∨ c = '+' := by
  rw [toList_display, toList_renderDate, List.append_assoc] at hc
  rcases toList_renderYear (Date.ofDay t.day).year with
    ⟨-, -, hyear⟩ | ⟨-, hyear⟩ | ⟨-, hyear⟩
  · obtain ⟨d, digits, hdigits, hd⟩ :=
      exists_cons_padded (show 0 < 4 by decide) (Date.ofDay t.day).year.toNat
    rw [hyear, hdigits] at hc
    cases hc
    exact .inl hd
  · rw [hyear] at hc
    cases hc
    exact .inr (.inl rfl)
  · rw [hyear] at hc
    cases hc
    exact .inr (.inr rfl)

/-- There is no white space around a timestamp. -/
theorem trim_display (t : Timestamp) : Text.trim t.display.toList = t.display.toList := by
  refine Text.trim_of_ends ?_ ?_
  · intro c hc
    rcases isDigit_or_sign_of_head?_display hc with hdigit | rfl | rfl
    · exact Text.isBlank_of_isDigit hdigit
    · decide
    · decide
  · -- the last character is one of the second or of the fraction
    intro c hc
    obtain ⟨front, hfront⟩ : ∃ front, t.display.toList =
        front ++ ((padded 2 t.shownSecond).toList ++ (renderFraction t.shownNano).toList) := by
      refine ⟨(Date.ofDay t.day).render.toList ++ ' ' :: ((padded 2 (t.second / 3600)).toList ++
        ':' :: ((padded 2 (t.second / 60 % 60)).toList ++ [':'])), ?_⟩
      simp [toList_display, toList_renderTime]
    have hne : (padded 2 t.shownSecond).toList ++ (renderFraction t.shownNano).toList ≠ [] := by
      obtain ⟨d, digits, hdigits, -⟩ := exists_cons_padded (show 0 < 2 by decide) t.shownSecond
      rw [hdigits]
      exact List.cons_ne_nil _ _
    rw [hfront, List.getLast?_append_of_ne_nil _ hne] at hc
    have hdigit : c.isDigit = true ∨ c = '.' := by
      rcases List.mem_append.1 (List.mem_of_mem_getLast? hc) with h | h
      · exact .inl (isDigit_of_mem_padded h)
      · exact isDigit_or_point_of_mem_renderFraction t.shownNano_lt h
    rcases hdigit with hdigit | rfl
    · exact Text.isBlank_of_isDigit hdigit
    · decide

end Timestamp

end StepScript
