/-
# The text of a numeric is exact

A numeric counts powers of ten thousand, and its text counts powers of ten.  The text has the digits
of the number that the numeric stands for, cut off behind the decimal places that are to be shown,
wherever its first digit stands and however many digits were sent: `exists_decimal`.
-/
import Mathlib.Algebra.BigOperators.Fin
import Mathlib.Algebra.Order.BigOperators.Group.Finset
import Mathlib.Algebra.Order.Field.Power
import Mathlib.Algebra.Order.Floor.Semifield
import Mathlib.Data.Rat.Floor
import StepScript.Postgres.Numeric
import StepScript.Proofs.Integer

namespace StepScript

/-! ## Decimal numbers -/

/-- A decimal number as it is written: a sign, the digits of its whole part and its decimal
places. -/
structure Decimal where
  negative : Bool
  whole : List Char
  places : List Char
  whole_ne_nil : whole ≠ []
  isDigit_whole : ∀ c ∈ whole, c.isDigit = true
  isDigit_places : ∀ c ∈ places, c.isDigit = true

namespace Decimal

/-- The text of a decimal number; the point stands only in front of decimal places. -/
def text (d : Decimal) : String :=
  (if d.negative then "-" else "") ++ String.ofList d.whole ++
    (if d.places = [] then "" else "." ++ String.ofList d.places)

/-- The number that is written. -/
def quantity (d : Decimal) : ℚ :=
  signed d.negative (digitsValue (d.whole ++ d.places)) / 10 ^ d.places.length

end Decimal

/-- A number without what stands behind some decimal places, which brings it nearer to zero. -/
def truncated (places : ℕ) (q : ℚ) : ℚ :=
  ((if 0 ≤ q then ⌊q * 10 ^ places⌋ else ⌈q * 10 ^ places⌉ : ℤ) : ℚ) / 10 ^ places

theorem truncated_of_nonneg {q : ℚ} (h : 0 ≤ q) (places : ℕ) :
    truncated places q = (⌊q * 10 ^ places⌋₊ : ℚ) / 10 ^ places := by
  have hfloor : (⌊q * 10 ^ places⌋₊ : ℤ) = ⌊q * 10 ^ places⌋ :=
    Int.natCast_floor_eq_floor (mul_nonneg h (by positivity))
  rw [truncated, if_pos h, ← hfloor, Int.cast_natCast]

theorem truncated_neg (places : ℕ) (q : ℚ) : truncated places (-q) = -truncated places q := by
  unfold truncated
  rw [neg_mul, Int.floor_neg, Int.ceil_neg]
  rcases lt_trichotomy q 0 with h | rfl | h
  · rw [if_pos (by linarith), if_neg (by linarith)]
    push_cast
    ring
  · simp
  · rw [if_neg (by linarith), if_pos (by linarith)]
    push_cast
    ring

namespace Postgres

/-! ## Digits in base ten thousand -/

/-- The number of digits in base ten thousand, the first of which counts a power given by its
weight. -/
def weigh (digits : List ℕ) (weight : ℤ) : ℚ :=
  ∑ i : Fin digits.length, (digits[i] : ℚ) * 10000 ^ (weight - i)

theorem weigh_nil (weight : ℤ) : weigh [] weight = 0 := rfl

theorem weigh_cons (d : ℕ) (digits : List ℕ) (weight : ℤ) :
    weigh (d :: digits) weight = d * 10000 ^ weight + weigh digits (weight - 1) := by
  unfold weigh
  show ∑ i : Fin (digits.length + 1), _ = _
  rw [Fin.sum_univ_succ]
  congr 1
  · simp
  · refine Finset.sum_congr rfl fun i _ => ?_
    have hweight : weight - ((i.succ : Fin (digits.length + 1)) : ℕ) = weight - 1 - (i : ℕ) := by
      rw [Fin.val_succ]
      push_cast
      ring
    rw [hweight]
    rfl

/-- To weigh all digits more is to multiply. -/
theorem weigh_add (digits : List ℕ) (weight k : ℤ) :
    weigh digits (weight + k) = weigh digits weight * 10000 ^ k := by
  induction digits generalizing weight with
  | nil => rw [weigh_nil, weigh_nil, zero_mul]
  | cons d digits ih =>
    have hweight : weight + k - 1 = weight - 1 + k := by ring
    rw [weigh_cons, weigh_cons, hweight, ih, zpow_add₀ (by norm_num)]
    ring

theorem weigh_nonneg (digits : List ℕ) (weight : ℤ) : 0 ≤ weigh digits weight :=
  Finset.sum_nonneg fun _ _ => by positivity

/-- All digits together count less than the power above the first one. -/
theorem weigh_lt {digits : List ℕ} (h : ∀ d ∈ digits, d < 10000) (weight : ℤ) :
    weigh digits weight < 10000 ^ (weight + 1) := by
  induction digits generalizing weight with
  | nil =>
    rw [weigh_nil]
    positivity
  | cons d digits ih =>
    have hd : (d : ℚ) ≤ 9999 := by
      have hle : d ≤ 9999 := Nat.le_of_lt_succ (h d List.mem_cons_self)
      exact_mod_cast hle
    have hrest := ih (fun e he => h e (List.mem_cons_of_mem d he)) (weight - 1)
    rw [sub_add_cancel] at hrest
    have hpos : (0 : ℚ) < 10000 ^ weight := by positivity
    rw [weigh_cons, zpow_add₀ (by norm_num), zpow_one]
    nlinarith

namespace Numeric

variable {n : Numeric}

/-- A numeric with one of the two signs that numbers have. -/
def IsFinite (n : Numeric) : Prop :=
  n.sign = 0 ∨ n.sign = 0x4000

instance (n : Numeric) : Decidable n.IsFinite :=
  inferInstanceAs (Decidable (_ ∨ _))

/-- The number that a finite numeric stands for. -/
def quantity (n : Numeric) : ℚ :=
  if n.sign = 0x4000 then -weigh n.digits n.weight else weigh n.digits n.weight

theorem digit_natCast (n : Numeric) (place : ℕ) : n.digit place = (n.digits[place]?).getD 0 := by
  rw [digit, if_neg (by omega), Int.toNat_natCast]

theorem digit_of_neg {place : ℤ} (h : place < 0) : n.digit place = 0 :=
  if_pos h

theorem digit_lt (h : ∀ d ∈ n.digits, d < 10000) (place : ℤ) : n.digit place < 10000 := by
  unfold digit
  split
  · decide
  · cases hd : n.digits[place.toNat]? with
    | none => decide
    | some d => exact h d (List.mem_of_getElem? hd)

/-- The number of the first digits alone, the last of them counting ones. -/
def lead (n : Numeric) : ℕ → ℕ
  | 0 => 0
  | count + 1 => n.lead count * 10000 + n.digit count

/-- One place further, the first digits count one digit more. -/
theorem lead_toNat_succ (n : Numeric) (place : ℤ) :
    n.lead (place + 1).toNat = n.lead place.toNat * 10000 + n.digit place := by
  rcases lt_or_ge place 0 with h | h
  · rw [show (place + 1).toNat = 0 by omega, show place.toNat = 0 by omega, digit_of_neg h, lead,
      Nat.zero_mul]
  · have hcount : ((place.toNat : ℕ) : ℤ) = place := Int.toNat_of_nonneg h
    rw [show (place + 1).toNat = place.toNat + 1 by omega, lead, hcount]

/-- The first digits count ones, and the digits behind them what is less than one. -/
theorem weigh_eq_lead_add (n : Numeric) (count : ℕ) :
    weigh n.digits (count - 1) = n.lead count + weigh (n.digits.drop count) (-1) := by
  induction count with
  | zero => simp [lead]
  | succ count ih =>
    have hnext : weigh (n.digits.drop count) 0 =
        n.digit count + weigh (n.digits.drop (count + 1)) (-1) := by
      rcases lt_or_ge count n.digits.length with h | h
      · rw [List.drop_eq_getElem_cons h, weigh_cons, digit_natCast, List.getElem?_eq_getElem h]
        simp
      · rw [List.drop_of_length_le h, List.drop_of_length_le (by omega), digit_natCast,
          List.getElem?_eq_none h]
        simp [weigh_nil]
    have hshift : ((count + 1 : ℕ) : ℤ) - 1 = ((count : ℤ) - 1) + 1 := by
      push_cast
      ring
    have hdrop : weigh (n.digits.drop count) (-1) * 10000 = weigh (n.digits.drop count) 0 := by
      have h := weigh_add (n.digits.drop count) (-1) 1
      rw [zpow_one] at h
      exact h.symm
    rw [hshift, weigh_add, ih, zpow_one, add_mul, hdrop, hnext, lead]
    push_cast
    ring

/-- The first digits are the whole part of what all digits count at the place of the last of them,
also in front of the first digit. -/
theorem floor_weigh (h : ∀ d ∈ n.digits, d < 10000) (place : ℤ) :
    ⌊weigh n.digits (place - 1)⌋₊ = n.lead place.toNat := by
  rw [Nat.floor_eq_iff (weigh_nonneg _ _)]
  rcases lt_or_ge place 0 with hneg | hpos
  · have hlt := weigh_lt h (place - 1)
    rw [sub_add_cancel] at hlt
    have hone : (10000 : ℚ) ^ place ≤ 1 := zpow_le_one_of_nonpos₀ (by norm_num) hneg.le
    have hzero : n.lead place.toNat = 0 := by
      rw [show place.toNat = 0 by omega]
      rfl
    rw [hzero, Nat.cast_zero, zero_add]
    exact ⟨weigh_nonneg _ _, by linarith⟩
  · obtain ⟨count, rfl⟩ := Int.eq_ofNat_of_zero_le hpos
    have hrest : ∀ d ∈ n.digits.drop count, d < 10000 := fun d hd => h d (List.mem_of_mem_drop hd)
    have hlt := weigh_lt hrest (-1)
    rw [neg_add_cancel, zpow_zero] at hlt
    have hnonneg := weigh_nonneg (n.digits.drop count) (-1)
    rw [weigh_eq_lead_add, Int.toNat_natCast]
    constructor <;> linarith

/-! ## The digits of the text -/

/-- The digits at some places in a row, each in four decimal digits. -/
def groups (n : Numeric) (start : ℤ) (count : ℕ) : List Char :=
  (List.range count).flatMap fun k : ℕ => (padded 4 (n.digit (start + k))).toList

theorem groups_succ (n : Numeric) (start : ℤ) (count : ℕ) :
    n.groups start (count + 1) =
      n.groups start count ++ (padded 4 (n.digit (start + count))).toList := by
  unfold groups
  rw [List.range_succ, List.flatMap_append]
  simp

theorem isDigit_of_mem_groups {start : ℤ} {count : ℕ} {c : Char} (h : c ∈ n.groups start count) :
    c.isDigit = true := by
  obtain ⟨_, -, hc⟩ := List.mem_flatMap.1 h
  exact isDigit_of_mem_padded hc

/-- Every digit has four decimal digits at least. -/
theorem le_length_groups (n : Numeric) (start : ℤ) (count : ℕ) :
    4 * count ≤ (n.groups start count).length := by
  induction count with
  | zero => exact Nat.zero_le _
  | succ count ih =>
    rw [groups_succ, List.length_append, length_toList_padded]
    omega

theorem length_groups (h : ∀ d ∈ n.digits, d < 10000) (start : ℤ) (count : ℕ) :
    (n.groups start count).length = 4 * count := by
  induction count with
  | zero => rfl
  | succ count ih =>
    rw [groups_succ, List.length_append, ih, length_padded_of_lt (by decide) (digit_lt h _)]
    omega

/-- Digits in groups behind the first ones are the first ones of a greater number of digits. -/
theorem digitsValue_append_groups (h : ∀ d ∈ n.digits, d < 10000) {s : List Char} {start : ℤ}
    (hs : digitsValue s = n.lead start.toNat) (count : ℕ) :
    digitsValue (s ++ n.groups start count) = n.lead (start + count).toNat := by
  induction count with
  | zero => simpa [groups] using hs
  | succ count ih =>
    have hplace : start + (count + 1 : ℕ) = start + count + 1 := by
      push_cast
      ring
    rw [groups_succ, ← List.append_assoc, digitsValue_append, ih, digitsValue_padded,
      length_padded_of_lt (by decide) (digit_lt h _), hplace, lead_toNat_succ]
    norm_num

theorem toList_wholeText (n : Numeric) :
    n.wholeText.toList =
      if n.weight < 0 then ['0'] else (n.digit 0).repr.toList ++ n.groups 1 n.weight.toNat := by
  unfold wholeText
  split
  · rfl
  · rw [String.toList_join, List.flatMap_cons, List.flatMap_map]
    have hgroups : (fun i : ℕ => (padded 4 (n.digit (i + 1))).toList) =
        fun k : ℕ => (padded 4 (n.digit (1 + k))).toList := by
      funext k
      rw [add_comm]
    rw [hgroups]
    rfl

theorem wholeText_ne_nil (n : Numeric) : n.wholeText.toList ≠ [] := by
  rw [toList_wholeText]
  split
  · simp
  · rw [Nat.toList_repr]
    intro h
    exact Nat.toDigits_ne_nil (List.append_eq_nil_iff.1 h).1

theorem isDigit_of_mem_wholeText {c : Char} (h : c ∈ n.wholeText.toList) : c.isDigit = true := by
  rw [toList_wholeText] at h
  split at h
  · obtain rfl := List.mem_singleton.1 h
    decide
  · rcases List.mem_append.1 h with h | h
    · exact isDigit_of_mem_repr h
    · exact isDigit_of_mem_groups h

/-- The digits up to the place of the ones. -/
theorem digitsValue_wholeText (h : ∀ d ∈ n.digits, d < 10000) :
    digitsValue n.wholeText.toList = n.lead (n.weight + 1).toNat := by
  rw [toList_wholeText]
  split
  · rename_i hweight
    rw [show (n.weight + 1).toNat = 0 by omega]
    rfl
  · rename_i hweight
    have hfirst : digitsValue (n.digit 0).repr.toList = n.lead (1 : ℤ).toNat := by
      rw [digitsValue_repr]
      show n.digit 0 = 0 * 10000 + n.digit 0
      omega
    rw [digitsValue_append_groups h hfirst, show 1 + (n.weight.toNat : ℤ) = n.weight + 1 by omega]

theorem toList_placesText (n : Numeric) :
    n.placesText.toList = (n.groups (n.weight + 1) ((n.scale + 3) / 4)).take n.scale := by
  rw [placesText, String.toList_ofList, String.toList_join, List.flatMap_map]
  rfl

/-- There are always enough digits for all decimal places. -/
theorem length_placesText (n : Numeric) : n.placesText.toList.length = n.scale := by
  have hlength := n.le_length_groups (n.weight + 1) ((n.scale + 3) / 4)
  rw [toList_placesText, List.length_take]
  omega

theorem isDigit_of_mem_placesText {c : Char} (h : c ∈ n.placesText.toList) :
    c.isDigit = true := by
  rw [toList_placesText] at h
  exact isDigit_of_mem_groups (List.mem_of_mem_take h)

/-- The digits of the text are the whole part of the number shifted by the decimal places. -/
theorem digitsValue_text (h : ∀ d ∈ n.digits, d < 10000) :
    digitsValue (n.wholeText.toList ++ n.placesText.toList) =
      ⌊weigh n.digits n.weight * 10 ^ n.scale⌋₊ := by
  obtain ⟨count, hcount⟩ : ∃ count, count = (n.scale + 3) / 4 := ⟨_, rfl⟩
  have hscale : n.scale ≤ 4 * count := by omega
  have hlength := length_groups h (n.weight + 1) count
  -- the text is the front of one that shows all groups
  have htake : n.wholeText.toList ++ n.placesText.toList =
      (n.wholeText.toList ++ n.groups (n.weight + 1) count).take
        (n.wholeText.toList.length + n.scale) := by
    rw [toList_placesText, ← hcount, List.take_length_add_append]
  have hdigits : ∀ c ∈ n.wholeText.toList ++ n.groups (n.weight + 1) count,
      c.isDigit = true := by
    intro c hc
    rcases List.mem_append.1 hc with hc | hc
    · exact isDigit_of_mem_wholeText hc
    · exact isDigit_of_mem_groups hc
  have hcut : (n.wholeText.toList ++ n.groups (n.weight + 1) count).length -
      (n.wholeText.toList.length + n.scale) = 4 * count - n.scale := by
    rw [List.length_append, hlength]
    omega
  have hall : digitsValue (n.wholeText.toList ++ n.groups (n.weight + 1) count) =
      ⌊weigh n.digits n.weight * 10000 ^ count⌋₊ := by
    have hplace : n.weight + 1 + count - 1 = n.weight + count := by ring
    rw [digitsValue_append_groups h (digitsValue_wholeText h), ← floor_weigh h, hplace, weigh_add,
      zpow_natCast]
  have hpower : weigh n.digits n.weight * 10000 ^ count / (10 ^ (4 * count - n.scale) : ℕ) =
      weigh n.digits n.weight * 10 ^ n.scale := by
    have hten : (10000 : ℚ) ^ count = 10 ^ n.scale * 10 ^ (4 * count - n.scale) := by
      rw [← pow_add, Nat.add_sub_cancel' hscale, pow_mul]
      norm_num
    rw [hten]
    push_cast
    field_simp
  calc digitsValue (n.wholeText.toList ++ n.placesText.toList)
      = ⌊weigh n.digits n.weight * 10000 ^ count⌋₊ / 10 ^ (4 * count - n.scale) := by
        rw [htake, digitsValue_take hdigits, hcut, hall]
    _ = ⌊weigh n.digits n.weight * 10000 ^ count / (10 ^ (4 * count - n.scale) : ℕ)⌋₊ :=
        (Nat.floor_div_natCast _ _).symm
    _ = ⌊weigh n.digits n.weight * 10 ^ n.scale⌋₊ := by rw [hpower]

/-- The text of a finite numeric. -/
theorem text_of_isFinite (h : n.IsFinite) :
    n.text = (if n.sign = 0x4000 then "-" else "") ++ n.wholeText ++
      (if n.scale = 0 then "" else "." ++ n.placesText) := by
  unfold text
  rcases h with h | h <;>
    · rw [h]
      rfl

/-- **The text of a finite numeric is the decimal number cut off behind its decimal places.** -/
theorem exists_decimal (hfinite : n.IsFinite) (h : ∀ d ∈ n.digits, d < 10000) :
    ∃ d : Decimal, n.text = d.text ∧ (d.negative = true ↔ n.sign = 0x4000) ∧
      d.places.length = n.scale ∧ d.quantity = truncated n.scale n.quantity := by
  let d : Decimal := ⟨decide (n.sign = 0x4000), n.wholeText.toList, n.placesText.toList,
    n.wholeText_ne_nil, fun c hc => isDigit_of_mem_wholeText hc,
    fun c hc => isDigit_of_mem_placesText hc⟩
  have hplaces : n.placesText.toList = [] ↔ n.scale = 0 := by
    rw [← List.length_eq_zero_iff, length_placesText]
  have habs : truncated n.scale (weigh n.digits n.weight) =
      (digitsValue (n.wholeText.toList ++ n.placesText.toList) : ℚ) / 10 ^ n.scale := by
    rw [truncated_of_nonneg (weigh_nonneg _ _), digitsValue_text h]
  refine ⟨d, ?_, decide_eq_true_iff, length_placesText n, ?_⟩
  · rw [text_of_isFinite hfinite]
    simp only [Decimal.text, d, decide_eq_true_eq, hplaces, String.ofList_toList]
  · show (signed (decide (n.sign = 0x4000)) _ : ℚ) / 10 ^ n.placesText.toList.length = _
    rw [length_placesText, quantity]
    by_cases hsign : n.sign = 0x4000
    · rw [if_pos hsign, truncated_neg, habs, decide_eq_true hsign, signed_true]
      push_cast
      ring
    · rw [if_neg hsign, habs, decide_eq_false hsign, signed_false]
      push_cast
      rfl

end Numeric

end Postgres

end StepScript
