/-
# Numerics as they are sent

A numeric is sent as its head, four numbers of sixteen bits, and its digits.  Reading fails exactly
if octets are missing, and otherwise gives back what was sent.  Whole numbers of sixty-four bits
arrive as integers, in whatever way their digits in base ten thousand are sent.
-/
import Mathlib.Data.List.TakeWhile
import Mathlib.Data.Nat.Digits.Lemmas
import StepScript.Proofs.Postgres.Numeric

namespace StepScript.Postgres

/-! ## Octets -/

/-- The octets of a number of sixteen bits, high octet first. -/
def octetsOfWord (word : ℕ) : List UInt8 :=
  [UInt8.ofNat (word / 256), UInt8.ofNat (word % 256)]

/-- The number of digits that the head of a numeric announces. -/
def announced : List UInt8 → ℕ
  | high :: low :: _ => high.toNat * 256 + low.toNat
  | _ => 0

theorem length_words (octets : List UInt8) : (words octets).length = octets.length / 2 := by
  induction octets using words.induct with
  | case1 high low rest ih =>
    rw [words, List.length_cons, ih, List.length_cons, List.length_cons]
    omega
  | case2 octets hshort =>
    have hlength : octets.length < 2 := by
      rcases octets with _ | ⟨high, _ | ⟨low, rest⟩⟩
      · decide
      · simp
      · exact absurd rfl (hshort high low rest)
    rw [words, Nat.div_eq_of_lt hlength]
    · rfl
    · exact hshort

/-- Numbers of sixteen bits are read as they were sent. -/
theorem words_octetsOfWord {numbers : List ℕ} (h : ∀ word ∈ numbers, word < 65536)
    (rest : List UInt8) :
    words (numbers.flatMap octetsOfWord ++ rest) = numbers ++ words rest := by
  induction numbers with
  | nil => rfl
  | cons word numbers ih =>
    have hword : word < 65536 := h word List.mem_cons_self
    have hhigh : (UInt8.ofNat (word / 256)).toNat = word / 256 :=
      UInt8.toNat_ofNat_of_lt (show word / 256 < 256 by omega)
    have hlow : (UInt8.ofNat (word % 256)).toNat = word % 256 :=
      UInt8.toNat_ofNat_of_lt (show word % 256 < 256 by omega)
    have hsplit : (word :: numbers).flatMap octetsOfWord ++ rest =
        UInt8.ofNat (word / 256) :: UInt8.ofNat (word % 256) ::
          (numbers.flatMap octetsOfWord ++ rest) := by
      simp [octetsOfWord]
    rw [hsplit, words, hhigh, hlow, ih fun w hw => h w (List.mem_cons_of_mem word hw),
      Nat.div_add_mod' word 256, List.cons_append]

theorem signed16_of_weight {weight : ℤ} (h : -32768 ≤ weight ∧ weight < 32768) :
    signed16 (weight % 65536).toNat = weight := by
  unfold signed16
  split <;> omega

/-! ## Digits in base ten thousand once more -/

theorem weigh_append (first second : List ℕ) (weight : ℤ) :
    weigh (first ++ second) weight =
      weigh first weight + weigh second (weight - first.length) := by
  induction first generalizing weight with
  | nil => simp [weigh_nil]
  | cons d first ih =>
    have hweight : weight - 1 - (first.length : ℤ) = weight - ((d :: first).length : ℤ) := by
      rw [List.length_cons]
      push_cast
      ring
    rw [List.cons_append, weigh_cons, weigh_cons, ih, hweight, add_assoc]

theorem weigh_zeros {zeros : List ℕ} (h : ∀ d ∈ zeros, d = 0) (weight : ℤ) :
    weigh zeros weight = 0 := by
  induction zeros generalizing weight with
  | nil => rfl
  | cons d zeros ih =>
    rw [weigh_cons, h d List.mem_cons_self, ih fun e he => h e (List.mem_cons_of_mem d he)]
    simp

/-- Digits that start with the ones, turned round. -/
theorem weigh_reverse (digits : List ℕ) :
    weigh digits.reverse (digits.length - 1) = (Nat.ofDigits 10000 digits : ℕ) := by
  induction digits with
  | nil => simp [weigh_nil]
  | cons d digits ih =>
    have hweight : ((d :: digits).length : ℤ) - 1 = (digits.length - 1) + 1 := by
      rw [List.length_cons]
      push_cast
      ring
    rw [List.reverse_cons, weigh_append, List.length_reverse, hweight, weigh_add, ih, zpow_one,
      sub_add_cancel, sub_self, weigh_cons, weigh_nil, zpow_zero, Nat.ofDigits_cons]
    push_cast
    ring

namespace Numeric

variable {n : Numeric}

/-! ## Reading -/

/-- Reading fails exactly if the head or one of the announced digits is not complete. -/
theorem read?_eq_none_iff (octets : List UInt8) :
    read? octets = none ↔ octets.length < 8 ∨ octets.length < 8 + 2 * announced octets := by
  have hlength := length_words octets
  unfold read?
  split
  · rename_i count weight sign scale digits hwords
    rw [hwords] at hlength
    simp only [List.length_cons] at hlength
    have hcount : announced octets = count := by
      rcases octets with _ | ⟨high, _ | ⟨low, rest⟩⟩
      · cases hwords
      · cases hwords
      · exact (List.cons.inj hwords).1
    rw [hcount]
    constructor
    · intro h
      split at h
      · omega
      · cases h
    · intro h
      rw [if_pos (by omega)]
  · rename_i hshort
    refine ⟨fun _ => .inl ?_, fun _ => rfl⟩
    -- with eight octets there are four numbers
    by_contra hlong
    have hfour : 4 ≤ (words octets).length := by omega
    rcases hwords : words octets with _ | ⟨a, _ | ⟨b, _ | ⟨c, _ | ⟨d, rest⟩⟩⟩⟩
    · simp [hwords] at hfour
    · simp [hwords] at hfour
    · simp [hwords] at hfour
    · simp [hwords] at hfour
    · exact hshort a b c d rest hwords

/-- A numeric all of whose numbers have sixteen bits. -/
structure Fits (n : Numeric) : Prop where
  length_lt : n.digits.length < 65536
  weight_range : -32768 ≤ n.weight ∧ n.weight < 32768
  sign_lt : n.sign < 65536
  scale_lt : n.scale < 65536
  digits_lt : ∀ d ∈ n.digits, d < 65536

/-- A numeric as it is sent. -/
def octets (n : Numeric) : List UInt8 :=
  (n.digits.length :: (n.weight % 65536).toNat :: n.sign :: n.scale :: n.digits).flatMap
    octetsOfWord

/-- A numeric is read as it was sent, whatever stands behind it. -/
theorem read?_octets (h : n.Fits) (rest : List UInt8) : read? (n.octets ++ rest) = some n := by
  have hnumbers : ∀ word ∈ n.digits.length :: (n.weight % 65536).toNat :: n.sign :: n.scale ::
      n.digits, word < 65536 := by
    intro word hword
    simp only [List.mem_cons] at hword
    rcases hword with rfl | rfl | rfl | rfl | hword
    · exact h.length_lt
    · omega
    · exact h.sign_lt
    · exact h.scale_lt
    · exact h.digits_lt word hword
  have hlong : ¬ (n.digits ++ words rest).length < n.digits.length := by
    rw [List.length_append]
    omega
  unfold read? octets
  rw [words_octetsOfWord hnumbers]
  simp only [List.cons_append]
  rw [if_neg hlong, signed16_of_weight h.weight_range, List.take_left]

/-! ## Whole numbers -/

/-- The numeric of a whole number: its digits in base ten thousand without the zeros at their
end. -/
def ofInt (z : ℤ) : Numeric where
  weight := ((Nat.digits 10000 z.natAbs).length - 1 : ℕ)
  sign := if z < 0 then 0x4000 else 0
  scale := 0
  digits := ((Nat.digits 10000 z.natAbs).dropWhile (· == 0)).reverse

theorem isFinite_ofInt (z : ℤ) : (ofInt z).IsFinite := by
  unfold IsFinite ofInt
  split <;> simp

theorem mem_digits_ofInt {z : ℤ} {d : ℕ} (h : d ∈ (ofInt z).digits) :
    d ∈ Nat.digits 10000 z.natAbs :=
  (List.dropWhile_suffix _).subset (List.mem_reverse.1 h)

theorem digits_ofInt_lt (z : ℤ) : ∀ d ∈ (ofInt z).digits, d < 10000 := fun _ hd =>
  Nat.digits_lt_base (by decide) (mem_digits_ofInt hd)

/-- No zeros are sent behind the last digit that is not zero. -/
theorem getLast?_ofInt (z : ℤ) : (ofInt z).digits.getLast? ≠ some 0 := by
  intro h
  have hhead := List.head?_dropWhile_not (· == 0) (Nat.digits 10000 z.natAbs)
  rw [ofInt, List.getLast?_reverse] at h
  rw [h] at hhead
  simp at hhead

theorem quantity_ofInt (z : ℤ) : (ofInt z).quantity = z := by
  have hzeros : ∀ weight, weigh ((Nat.digits 10000 z.natAbs).takeWhile (· == 0)).reverse weight =
      0 := by
    refine weigh_zeros fun d hd => ?_
    simpa using List.mem_takeWhile_imp (List.mem_reverse.1 hd)
  have hdrop : weigh (ofInt z).digits (ofInt z).weight =
      weigh (Nat.digits 10000 z.natAbs).reverse (ofInt z).weight := by
    conv_rhs => rw [← List.takeWhile_append_dropWhile (p := (· == 0))
      (l := Nat.digits 10000 z.natAbs)]
    rw [List.reverse_append, weigh_append, hzeros, add_zero]
    rfl
  have habs : weigh (ofInt z).digits (ofInt z).weight = (z.natAbs : ℚ) := by
    rw [hdrop]
    rcases eq_or_ne z.natAbs 0 with hzero | hne
    · rw [hzero, Nat.digits_zero]
      simp [weigh_nil]
    · have hpos : 0 < (Nat.digits 10000 z.natAbs).length :=
        List.length_pos_iff.2 (Nat.digits_ne_nil_iff_ne_zero.2 hne)
      have hweight : (ofInt z).weight = ((Nat.digits 10000 z.natAbs).length : ℤ) - 1 := by
        show (((Nat.digits 10000 z.natAbs).length - 1 : ℕ) : ℤ) = _
        omega
      rw [hweight, weigh_reverse, Nat.ofDigits_digits]
  unfold quantity
  rw [habs]
  by_cases hneg : z < 0
  · have hsign : (ofInt z).sign = 0x4000 := if_pos hneg
    have hcast : (z.natAbs : ℤ) = -z := by omega
    rw [if_pos hsign, ← Int.cast_natCast, hcast]
    push_cast
    ring
  · have hsign : (ofInt z).sign ≠ 0x4000 := by
      show (if z < 0 then 0x4000 else 0) ≠ 0x4000
      rw [if_neg hneg]
      decide
    have hcast : (z.natAbs : ℤ) = z := by omega
    rw [if_neg hsign, ← Int.cast_natCast, hcast]

section

variable {z : ℤ} (hmin : minInteger ≤ z) (hmax : z ≤ maxInteger)
include hmin hmax

/-- A whole number of sixty-four bits has five digits at most. -/
theorem fits_ofInt : (ofInt z).Fits := by
  have habs : z.natAbs < 10000 ^ 5 := by
    unfold minInteger at hmin
    unfold maxInteger at hmax
    omega
  have hlength : (Nat.digits 10000 z.natAbs).length ≤ 5 :=
    (Nat.digits_length_le_iff (by decide) z.natAbs).2 habs
  have hshort : (ofInt z).digits.length ≤ 5 := by
    show (List.reverse _).length ≤ 5
    rw [List.length_reverse]
    exact (List.dropWhile_suffix _).length_le.trans hlength
  have hweight : (ofInt z).weight = ((Nat.digits 10000 z.natAbs).length - 1 : ℕ) := rfl
  refine ⟨by omega, by omega, ?_, ?_, fun d hd => ?_⟩
  · show (if z < 0 then 0x4000 else 0) < 65536
    split <;> decide
  · show 0 < 65536
    decide
  · have hlt := digits_ofInt_lt z d hd
    omega

/-- A finite numeric without decimal places that stands for a whole number of sixty-four bits has it
as its value. -/
theorem value_eq_integer (hfinite : n.IsFinite) (hdigits : ∀ d ∈ n.digits, d < 10000)
    (hscale : n.scale = 0) (hquantity : n.quantity = z) : n.value = .integer z := by
  obtain ⟨d, htext, -, hlength, hd⟩ := exists_decimal hfinite hdigits
  have hplaces : d.places = [] := List.length_eq_zero_iff.1 (hlength.trans hscale)
  have htruncated : truncated 0 (z : ℚ) = z := by simp [truncated]
  have hwhole : signed d.negative (digitsValue d.whole) = z := by
    rw [hscale, hquantity, htruncated, Decimal.quantity, hplaces, List.append_nil,
      List.length_nil, pow_zero, div_one] at hd
    exact_mod_cast hd
  have hlist : n.text.toList = (if d.negative then ['-'] else []) ++ d.whole := by
    rw [htext, Decimal.text, hplaces, if_pos rfl, String.append_empty, String.toList_append,
      String.toList_ofList]
    cases d.negative <;> rfl
  have hpoint : n.text.toList.contains '.' = false := by
    rw [hlist, List.contains_eq_mem, decide_eq_false_iff_not]
    intro hmem
    rcases List.mem_append.1 hmem with hmem | hmem
    · cases hnegative : d.negative <;> simp [hnegative] at hmem
    · exact absurd (d.isDigit_whole '.' hmem) (by decide)
  have hread := readInteger?_digits d.negative d.whole_ne_nil d.isDigit_whole
    (by rw [hwhole]; exact hmin) (by rw [hwhole]; exact hmax)
  unfold value valueOfText
  simp only [hpoint, Bool.false_eq_true, if_false]
  rw [hlist, hread, hwhole]
  rfl

end

/-- **Numerics are decoded exactly.**  Reading fails exactly if octets of the head or of the
announced digits are missing, and reads everything that can be sent.  Decimal places are never cut
from too few digits, whatever was sent.  The text of a finite numeric is a decimal number, with a
minus sign exactly if it has the negative sign and with the decimal places it asks for, and is what
the numeric stands for, cut off behind these places.  A whole number of sixty-four bits is the value
of each numeric that stands for it without decimal places, and so of the one that is sent for it. -/
theorem decoded_exactly :
    (∀ octets, read? octets = none ↔
      octets.length < 8 ∨ octets.length < 8 + 2 * announced octets) ∧
    (∀ n : Numeric, n.Fits → ∀ rest, read? (n.octets ++ rest) = some n) ∧
    (∀ n : Numeric, n.placesText.toList.length = n.scale ∧
      ∀ c ∈ n.placesText.toList, c.isDigit = true) ∧
    (∀ n : Numeric, n.IsFinite → (∀ d ∈ n.digits, d < 10000) →
      ∃ d : Decimal, n.text = d.text ∧ (d.negative = true ↔ n.sign = 0x4000) ∧
        d.places.length = n.scale ∧ d.quantity = truncated n.scale n.quantity) ∧
    ∀ z : ℤ, minInteger ≤ z → z ≤ maxInteger →
      (∀ n : Numeric, n.IsFinite → (∀ d ∈ n.digits, d < 10000) → n.scale = 0 → n.quantity = z →
        n.value = .integer z) ∧
      (ofInt z).quantity = z ∧ (ofInt z).scale = 0 ∧ (ofInt z).digits.getLast? ≠ some 0 ∧
        (read? (ofInt z).octets).map value = some (.integer z) := by
  refine ⟨read?_eq_none_iff, fun n hfits rest => read?_octets hfits rest,
    fun n => ⟨length_placesText n, fun _ hc => isDigit_of_mem_placesText hc⟩,
    fun n hfinite hdigits => exists_decimal hfinite hdigits, fun z hmin hmax => ?_⟩
  have hvalue : (ofInt z).value = .integer z :=
    value_eq_integer hmin hmax (isFinite_ofInt z) (digits_ofInt_lt z) rfl (quantity_ofInt z)
  have hread : read? (ofInt z).octets = some (ofInt z) := by
    have h := read?_octets (fits_ofInt hmin hmax) []
    rwa [List.append_nil] at h
  refine ⟨fun n hfinite hdigits hscale hquantity =>
    value_eq_integer hmin hmax hfinite hdigits hscale hquantity,
    quantity_ofInt z, rfl, getLast?_ofInt z, ?_⟩
  rw [hread, Option.map_some, hvalue]

/-- A number cut inside a group of four decimal digits, which is not rounded, and the least whole
number. -/
theorem decoded_exactly_cutGroup :
    let n : Numeric := ⟨0, 0x4000, 6, [1, 9999, 9999]⟩
    n.IsFinite ∧ (∀ d ∈ n.digits, d < 10000) ∧ n.text = "-1.999999" ∧
      (∃ d : Decimal, n.text = d.text ∧ d.quantity = truncated 6 n.quantity) ∧
      (read? (ofInt minInteger).octets).map value = some (.integer minInteger) := by
  intro n
  have hfinite : n.IsFinite := by decide
  have hdigits : ∀ d ∈ n.digits, d < 10000 := by decide
  obtain ⟨-, -, -, hdecimal, hwhole⟩ := decoded_exactly
  obtain ⟨d, htext, -, -, hquantity⟩ := hdecimal n hfinite hdigits
  obtain ⟨-, -, -, -, hleast⟩ := hwhole minInteger (by decide) (by decide)
  exact ⟨hfinite, hdigits, by decide +kernel, ⟨d, htext, hquantity⟩, hleast⟩

end Numeric

end StepScript.Postgres
