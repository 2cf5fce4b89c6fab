/-
# Decimal digits

The number that a run of digits stands for, cut and put together, and the two ways in which numbers
are written: as they are, and padded with zeros to a width.  A number that is written is read as
itself.
-/
import Mathlib.Algebra.Order.Ring.Nat
import Mathlib.Tactic.Ring
import StepScript.Integer

namespace StepScript

/-! ## The number of a run of digits -/

theorem digitsValue_eq_ofDigitChars (s : List Char) :
    digitsValue s = Nat.ofDigitChars 10 s 0 := by
  have hstep : (fun n c => n * 10 + digitValue c) =
      fun (n : Nat) (c : Char) => 10 * n + (c.toNat - '0'.toNat) := by
    funext n c
    rw [Nat.mul_comm]
    rfl
  rw [digitsValue, hstep, Nat.ofDigitChars_eq_foldl]

theorem digitsValue_append (s t : List Char) :
    digitsValue (s ++ t) = digitsValue s * 10 ^ t.length + digitsValue t := by
  simp only [digitsValue_eq_ofDigitChars]
  rw [Nat.ofDigitChars_append, Nat.ofDigitChars_eq_ofDigitChars_zero, Nat.mul_comm]

theorem digitsValue_cons (c : Char) (s : List Char) :
    digitsValue (c :: s) = digitValue c * 10 ^ s.length + digitsValue s := by
  have hone : digitsValue [c] = digitValue c := by simp [digitsValue]
  rw [← List.singleton_append, digitsValue_append, hone]

/-- A digit is no character that is none. -/
theorem ne_of_isDigit {c d : Char} (hc : c.isDigit = true) (hd : d.isDigit = false) : c ≠ d := by
  rintro rfl
  rw [hc] at hd
  cases hd

theorem digitValue_lt {c : Char} (h : c.isDigit = true) : digitValue c < 10 := by
  have hrange : 48 ≤ c.toNat ∧ c.toNat ≤ 57 := by
    simpa [Char.isDigit, UInt32.le_iff_toNat_le] using h
  have hzero : '0'.toNat = 48 := rfl
  rw [digitValue, hzero]
  omega

theorem digitsValue_lt {s : List Char} (h : ∀ c ∈ s, c.isDigit = true) :
    digitsValue s < 10 ^ s.length := by
  induction s with
  | nil => decide
  | cons c s ih =>
    have hc : digitValue c ≤ 9 := Nat.le_of_lt_succ (digitValue_lt (h c List.mem_cons_self))
    have hs := ih fun d hd => h d (List.mem_cons_of_mem c hd)
    have hmul : digitValue c * 10 ^ s.length ≤ 9 * 10 ^ s.length := Nat.mul_le_mul_right _ hc
    rw [digitsValue_cons, List.length_cons, Nat.pow_succ]
    omega

/-- Digits cut off at the end are divided away. -/
theorem digitsValue_take {s : List Char} (h : ∀ c ∈ s, c.isDigit = true) (k : Nat) :
    digitsValue (s.take k) = digitsValue s / 10 ^ (s.length - k) := by
  have hrest : digitsValue (s.drop k) < 10 ^ (s.length - k) := by
    have hdigits : ∀ c ∈ s.drop k, c.isDigit = true := fun c hc => h c (List.mem_of_mem_drop hc)
    have hlt := digitsValue_lt hdigits
    rwa [List.length_drop] at hlt
  have hsplit : digitsValue s =
      digitsValue (s.drop k) + digitsValue (s.take k) * 10 ^ (s.length - k) := by
    conv_lhs => rw [← List.take_append_drop k s]
    rw [digitsValue_append, List.length_drop, Nat.add_comm]
  rw [hsplit, Nat.add_mul_div_right _ _ (Nat.pow_pos (by decide)),
    Nat.div_eq_of_lt hrest, Nat.zero_add]

/-! ## Numbers as they are written -/

theorem isDigit_of_mem_repr {n : Nat} {c : Char} (h : c ∈ n.repr.toList) : c.isDigit = true := by
  rw [Nat.toList_repr] at h
  exact Nat.isDigit_of_mem_toDigits (by decide) (by decide) h

theorem digitsValue_repr (n : Nat) : digitsValue n.repr.toList = n := by
  rw [digitsValue_eq_ofDigitChars, Nat.toList_repr, Nat.ofDigitChars_ten_toDigits]

theorem toList_padded (width n : Nat) :
    (padded width n).toList =
      List.replicate (width - n.repr.length) '0' ++ n.repr.toList := by
  unfold padded
  rw [String.toList_append, String.toList_ofList]

theorem isDigit_of_mem_padded {width n : Nat} {c : Char} (h : c ∈ (padded width n).toList) :
    c.isDigit = true := by
  rw [toList_padded, List.mem_append] at h
  rcases h with h | h
  · rw [List.eq_of_mem_replicate h]
    decide
  · exact isDigit_of_mem_repr h

theorem digitsValue_padded (width n : Nat) : digitsValue (padded width n).toList = n := by
  have hzeros : ∀ k, digitsValue (List.replicate k '0') = 0 := by
    intro k
    rw [digitsValue_eq_ofDigitChars, Nat.ofDigitChars_replicate_zero, Nat.mul_zero]
  rw [toList_padded, digitsValue_append, hzeros, digitsValue_repr, Nat.zero_mul, Nat.zero_add]

theorem length_toList_padded (width n : Nat) :
    (padded width n).toList.length = max width n.repr.length := by
  rw [toList_padded, List.length_append, List.length_replicate, String.length_toList]
  omega

/-- A number that fits its width has exactly this width. -/
theorem length_padded_of_lt {width n : Nat} (hwidth : 0 < width) (h : n < 10 ^ width) :
    (padded width n).toList.length = width := by
  rw [length_toList_padded]
  have hle := (Nat.length_repr_le_iff hwidth).2 h
  omega

/-! ## Numbers as they are read -/

/-- A number with a sign. -/
def signed (negative : Bool) (n : Nat) : Int :=
  if negative then -(n : Int) else n

@[simp]
theorem signed_true (n : Nat) : signed true n = -(n : Int) := rfl

@[simp]
theorem signed_false (n : Nat) : signed false n = n := rfl

/-- Digits are read as the number that they continue, if it lies in the range. -/
theorem readDigits_eq (negative : Bool) {s : List Char} (h : ∀ c ∈ s, c.isDigit = true) {n : Nat}
    (hmin : minInteger ≤ signed negative (n * 10 ^ s.length + digitsValue s))
    (hmax : signed negative (n * 10 ^ s.length + digitsValue s) ≤ maxInteger) :
    readDigits negative (signed negative n) s =
      .ok (signed negative (n * 10 ^ s.length + digitsValue s)) := by
  induction s generalizing n with
  | nil =>
    show Except.ok (signed negative n) = .ok (signed negative (n * 1 + 0))
    rw [Nat.mul_one, Nat.add_zero]
  | cons c s ih =>
    have hvalue : n * 10 ^ (c :: s).length + digitsValue (c :: s) =
        (n * 10 + digitValue c) * 10 ^ s.length + digitsValue s := by
      rw [digitsValue_cons, List.length_cons]
      ring
    have hnext : (if negative then signed negative n * 10 - (digitValue c : Int)
        else signed negative n * 10 + digitValue c) = signed negative (n * 10 + digitValue c) := by
      cases negative
      · show (n : Int) * 10 + digitValue c = ((n * 10 + digitValue c : Nat) : Int)
        omega
      · show -(n : Int) * 10 - digitValue c = -((n * 10 + digitValue c : Nat) : Int)
        omega
    -- the digits to come only take the number further away from zero
    have hle : n * 10 + digitValue c ≤
        (n * 10 + digitValue c) * 10 ^ s.length + digitsValue s := by
      have hmul : (n * 10 + digitValue c) * 1 ≤ (n * 10 + digitValue c) * 10 ^ s.length :=
        Nat.mul_le_mul_left _ (Nat.pow_pos (by decide))
      omega
    rw [hvalue] at hmin hmax ⊢
    have hsmall : ¬ maxInteger < signed negative (n * 10 + digitValue c) := by
      cases negative <;>
        · simp only [signed_true, signed_false, maxInteger, minInteger] at hmin hmax ⊢
          omega
    have hgreat : ¬ signed negative (n * 10 + digitValue c) < minInteger := by
      cases negative <;>
        · simp only [signed_true, signed_false, maxInteger, minInteger] at hmin hmax ⊢
          omega
    rw [readDigits, if_pos (h c List.mem_cons_self)]
    simp only [hnext]
    rw [if_neg hsmall, if_neg hgreat]
    exact ih (fun d hd => h d (List.mem_cons_of_mem c hd)) hmin hmax

/-- A run of digits, behind a minus sign or not, is read as its number if that lies in the range. -/
theorem readInteger?_digits (negative : Bool) {s : List Char} (hne : s ≠ [])
    (h : ∀ c ∈ s, c.isDigit = true) (hmin : minInteger ≤ signed negative (digitsValue s))
    (hmax : signed negative (digitsValue s) ≤ maxInteger) :
    readInteger? ((if negative then ['-'] else []) ++ s) =
      some (signed negative (digitsValue s)) := by
  obtain ⟨c, s, rfl⟩ := List.exists_cons_of_ne_nil hne
  have hc : c.isDigit = true := h c List.mem_cons_self
  have hread := readDigits_eq negative h (n := 0) (by simpa using hmin) (by simpa using hmax)
  simp only [Nat.zero_mul, Nat.zero_add] at hread
  unfold readInteger?
  cases negative with
  | true =>
    have hsign : readInteger ('-' :: c :: s) = readDigits true (signed true 0) (c :: s) := rfl
    show (readInteger ('-' :: c :: s)).toOption = _
    rw [hsign, hread]
    rfl
  | false =>
    have hplus : c ≠ '+' := ne_of_isDigit hc (by decide)
    have hminus : c ≠ '-' := ne_of_isDigit hc (by decide)
    have hsign : readInteger (c :: s) = readDigits false (signed false 0) (c :: s) := by
      rw [readInteger]
      · rfl
      · simp
      · intro _ heq
        exact hplus (List.cons.inj heq).1
      · intro _ heq
        exact hminus (List.cons.inj heq).1
    show (readInteger (c :: s)).toOption = _
    rw [hsign, hread]
    rfl

end StepScript
