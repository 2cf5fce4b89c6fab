/-
# Searching and replacing: what the passes do

Prefixes as the searches see them, and the two things a left-to-right pass does with a stretch of
text: it copies it where nothing is to be edited, and it leaps over it where the text was consumed.
For the replacement of one text by another, `Clear` says where nothing is to be edited.
-/
import Mathlib.Data.List.Infix
import StepScript.Text.Search

namespace StepScript.Text

/-! ## Prefixes -/

/-- A text starts with `pat` exactly if it is `pat` and what follows it. -/
theorem after?_eq_some {pat s rest : List Char} : after? pat s = some rest ↔ s = pat ++ rest := by
  induction pat generalizing s with
  | nil =>
    simp only [after?, Option.some.injEq, List.nil_append]
  | cons p ps ih =>
    cases s with
    | nil => simp [after?]
    | cons c cs =>
      simp only [after?, List.cons_append, List.cons.injEq]
      by_cases h : p = c
      · rw [if_pos h, ih]
        exact ⟨fun hs => ⟨h.symm, hs⟩, fun hs => hs.2⟩
      · rw [if_neg h]
        exact ⟨fun hs => by simp at hs, fun hs => absurd hs.1.symm h⟩

theorem startsWith_iff {pat s : List Char} : startsWith pat s = true ↔ pat <+: s := by
  unfold startsWith
  rw [Option.isSome_iff_exists]
  constructor
  · rintro ⟨rest, h⟩
    exact ⟨rest, (after?_eq_some.1 h).symm⟩
  · rintro ⟨rest, h⟩
    exact ⟨rest, after?_eq_some.2 h.symm⟩

theorem startsWith_append (pat rest : List Char) : startsWith pat (pat ++ rest) = true :=
  startsWith_iff.2 (List.prefix_append pat rest)

/-- A pattern that starts with one character is not found at another. -/
theorem startsWith_cons_ne {p c : Char} (h : c ≠ p) (ps cs : List Char) :
    startsWith (p :: ps) (c :: cs) = false := by
  simp [startsWith, after?, h.symm]

/-- Behind an equal character, the rest of the pattern decides. -/
theorem startsWith_cons_self (p : Char) (ps cs : List Char) :
    startsWith (p :: ps) (p :: cs) = startsWith ps cs := by
  simp [startsWith, after?]

/-- A character that a pattern does not have ends what the pattern can be found in. -/
theorem startsWith_append_cons {c : Char} {pat : List Char} (h : c ∉ pat) (s rest : List Char) :
    startsWith pat (s ++ c :: rest) = startsWith pat s := by
  induction s generalizing pat with
  | nil =>
    cases pat with
    | nil => rfl
    | cons p ps =>
      have hne : c ≠ p := fun heq => h (heq ▸ List.mem_cons_self)
      exact startsWith_cons_ne hne ps rest
  | cons d s ih =>
    cases pat with
    | nil => rfl
    | cons p ps =>
      by_cases hd : d = p
      · subst hd
        rw [List.cons_append, startsWith_cons_self, startsWith_cons_self,
          ih fun hc => h (List.mem_cons_of_mem d hc)]
      · rw [List.cons_append, startsWith_cons_ne hd, startsWith_cons_ne hd]

/-! ## Passes -/

variable {edit : List Char → Option (Nat × List Char)}

theorem replaceWith_nil : replaceWith edit [] = [] := rfl

/-- A pass leaps over consumed text. -/
theorem replaceWithFrom_length_append (xs ys : List Char) :
    replaceWithFrom edit xs.length (xs ++ ys) = replaceWith edit ys := by
  induction xs with
  | nil => rfl
  | cons x xs ih => exact ih

/-- Where nothing is to be edited, a pass copies a character. -/
theorem replaceWith_cons_of_none {c : Char} {cs : List Char} (h : edit (c :: cs) = none) :
    replaceWith edit (c :: cs) = c :: replaceWith edit cs := by
  simp only [replaceWith, replaceWithFrom, h]

/-- Where a non-empty stretch is to be edited, a pass writes the new text and leaps over the
stretch. -/
theorem replaceWith_of_some {c : Char} {xs ys out : List Char}
    (h : edit (c :: xs ++ ys) = some (xs.length + 1, out)) :
    replaceWith edit (c :: xs ++ ys) = out ++ replaceWith edit ys := by
  rw [List.cons_append] at h ⊢
  simp only [replaceWith, replaceWithFrom, h, Nat.add_sub_cancel]
  rw [replaceWithFrom_length_append]
  rfl

/-- A pass copies a stretch in which nothing is to be edited, whatever follows it. -/
theorem replaceWith_append_of_none {xs : List Char} (ys : List Char)
    (h : ∀ x ∈ xs, ∀ rest, edit (x :: rest) = none) :
    replaceWith edit (xs ++ ys) = xs ++ replaceWith edit ys := by
  induction xs with
  | nil => rfl
  | cons x xs ih =>
    have hxs : ∀ y ∈ xs, ∀ rest, edit (y :: rest) = none := fun y hy =>
      h y (List.mem_cons_of_mem x hy)
    rw [List.cons_append, replaceWith_cons_of_none (h x List.mem_cons_self _), ih hxs]
    rfl

/-- A pass that finds nothing to edit copies the whole text. -/
theorem replaceWith_of_suffixes {s : List Char} (h : ∀ t, t <:+ s → t ≠ [] → edit t = none) :
    replaceWith edit s = s := by
  induction s with
  | nil => rfl
  | cons c s ih =>
    have hs : ∀ t, t <:+ s → t ≠ [] → edit t = none := fun t ht =>
      h t (ht.trans (List.suffix_cons c s))
    rw [replaceWith_cons_of_none (h _ List.suffix_rfl (List.cons_ne_nil c s)), ih hs]

/-- A pass that edits nothing copies the whole text. -/
theorem replaceWith_eq_self {s : List Char} (h : ∀ c ∈ s, ∀ rest, edit (c :: rest) = none) :
    replaceWith edit s = s := by
  refine replaceWith_of_suffixes fun t ht hne => ?_
  obtain ⟨c, rest, rfl⟩ := List.exists_cons_of_ne_nil hne
  exact h c (ht.subset List.mem_cons_self) rest

theorem replaceWithFrom_append {skip : Nat} {xs ys : List Char} (hskip : skip ≤ xs.length)
    (hsame : ∀ t, t ≠ [] → edit (t ++ ys) = edit t)
    (hfits : ∀ t n out, edit t = some (n, out) → n ≤ t.length) :
    replaceWithFrom edit skip (xs ++ ys) = replaceWithFrom edit skip xs ++ replaceWith edit ys := by
  induction xs generalizing skip with
  | nil =>
    obtain rfl : skip = 0 := Nat.le_zero.1 hskip
    rfl
  | cons x xs ih =>
    cases skip with
    | succ skip => exact ih (Nat.le_of_succ_le_succ hskip)
    | zero =>
      have hedit := hsame (x :: xs) (List.cons_ne_nil x xs)
      rw [List.cons_append] at hedit
      rw [List.cons_append, replaceWithFrom, replaceWithFrom, hedit]
      cases hfound : edit (x :: xs) with
      | none => exact congrArg (x :: ·) (ih (Nat.zero_le _))
      | some found =>
        obtain ⟨n, out⟩ := found
        have hn : n - 1 ≤ xs.length := by
          have hle := hfits _ _ _ hfound
          rw [List.length_cons] at hle
          omega
        show out ++ replaceWithFrom edit (n - 1) (xs ++ ys) = _
        rw [ih hn, List.append_assoc]

/-- A pass over two stretches is one over each, if what it edits in the first neither depends on the
second nor reaches into it. -/
theorem replaceWith_append {ys : List Char} (hsame : ∀ t, t ≠ [] → edit (t ++ ys) = edit t)
    (hfits : ∀ t n out, edit t = some (n, out) → n ≤ t.length) (xs : List Char) :
    replaceWith edit (xs ++ ys) = replaceWith edit xs ++ replaceWith edit ys :=
  replaceWithFrom_append (Nat.zero_le xs.length) hsame hfits

/-- Characters of a kind that every edit puts out as it takes them in stay as they are, in their
order. -/
theorem filter_replaceWith {kept : Char → Bool} (h : ∀ t n out, edit t = some (n, out) →
      1 ≤ n ∧ out.filter kept = (t.take n).filter kept) (s : List Char) :
    (replaceWith edit s).filter kept = s.filter kept := by
  -- behind the characters to be skipped, the rest is looked at
  have hfrom : ∀ skip, (replaceWithFrom edit skip s).filter kept = (s.drop skip).filter kept := by
    induction s with
    | nil =>
      intro skip
      rw [List.drop_nil]
      rfl
    | cons c s ih =>
      intro skip
      cases skip with
      | succ skip => exact ih skip
      | zero =>
        rw [replaceWithFrom, List.drop_zero]
        cases hedit : edit (c :: s) with
        | none =>
          show (c :: replaceWithFrom edit 0 s).filter kept = (c :: s).filter kept
          rw [List.filter_cons, List.filter_cons, ih, List.drop_zero]
        | some found =>
          obtain ⟨n, out⟩ := found
          obtain ⟨hn, hout⟩ := h _ _ _ hedit
          have hdrop : (c :: s).drop n = s.drop (n - 1) := by
            rw [show n = n - 1 + 1 by omega, List.drop_succ_cons, Nat.add_sub_cancel]
          show (out ++ replaceWithFrom edit (n - 1) s).filter kept = (c :: s).filter kept
          rw [List.filter_append, ih, hout, ← hdrop, ← List.filter_append, List.take_append_drop]
  exact hfrom 0

/-! ## Replacing one text -/

/-- No occurrence of a pattern starts in a text, whatever follows the text. -/
def Clear (pat s : List Char) : Prop :=
  ∀ t ∈ s.tails, t ≠ [] → ¬ pat <+: t ∧ ¬ t <+: pat

instance (pat s : List Char) : Decidable (Clear pat s) :=
  inferInstanceAs (Decidable (∀ t ∈ s.tails, _))

theorem Clear.cons {pat s : List Char} {c : Char} (h : Clear pat (c :: s)) :
    (¬ pat <+: c :: s ∧ ¬ c :: s <+: pat) ∧ Clear pat s := by
  refine ⟨h _ ((List.mem_tails _ _).2 List.suffix_rfl) (List.cons_ne_nil c s), fun t ht => h t ?_⟩
  exact (List.mem_tails _ _).2 (((List.mem_tails _ _).1 ht).trans (List.suffix_cons c s))

/-- What is clear of the start of a pattern is clear of the pattern. -/
theorem Clear.append {pat s : List Char} (h : Clear pat s) (more : List Char) :
    Clear (pat ++ more) s := by
  intro t ht hne
  obtain ⟨hpat, hover⟩ := h t ht hne
  refine ⟨fun hprefix => hpat ((List.prefix_append pat more).trans hprefix), fun hprefix => ?_⟩
  rcases List.prefix_or_prefix_of_prefix hprefix (List.prefix_append pat more) with ht | ht
  · exact hover ht
  · exact hpat ht

/-- A text without the first character of a pattern is clear of it. -/
theorem clear_of_not_mem {c : Char} {s : List Char} (h : c ∉ s) (pat : List Char) :
    Clear (c :: pat) s := by
  intro t ht hne
  obtain ⟨d, t, rfl⟩ := List.exists_cons_of_ne_nil hne
  have hd : d ∈ s := ((List.mem_tails _ _).1 ht).subset List.mem_cons_self
  have hne : c ≠ d := fun heq => h (heq ▸ hd)
  refine ⟨fun hprefix => hne (List.cons_prefix_cons.1 hprefix).1, fun hprefix => ?_⟩
  exact hne (List.cons_prefix_cons.1 hprefix).1.symm

/-- A text that is clear of a pattern is copied. -/
theorem replace_append_of_clear {pat s : List Char} (h : Clear pat s) (new rest : List Char) :
    replace pat new (s ++ rest) = s ++ replace pat new rest := by
  induction s with
  | nil => rfl
  | cons c s ih =>
    obtain ⟨⟨hpat, hover⟩, hs⟩ := h.cons
    have hnot : startsWith pat (c :: (s ++ rest)) = false := by
      refine Bool.eq_false_iff.2 fun hstart => ?_
      rcases List.prefix_or_prefix_of_prefix (startsWith_iff.1 hstart)
        (List.prefix_append (c :: s) rest) with hprefix | hprefix
      · exact hpat hprefix
      · exact hover hprefix
    have hcopy : replace pat new (c :: (s ++ rest)) = c :: replace pat new (s ++ rest) :=
      replaceWith_cons_of_none (by rw [hnot]; rfl)
    rw [List.cons_append, hcopy, ih hs]
    rfl

/-- A text in which a pattern does not occur is copied. -/
theorem replace_of_not_infix {pat s : List Char} (h : ¬ pat <:+: s) (new : List Char) :
    replace pat new s = s := by
  refine replaceWith_of_suffixes fun t ht _ => if_neg fun hstart => h ?_
  exact List.infix_iff_prefix_suffix.2 ⟨t, startsWith_iff.1 hstart, ht⟩

/-- An occurrence of a pattern is replaced. -/
theorem replace_append_self (c : Char) (pat new rest : List Char) :
    replace (c :: pat) new (c :: pat ++ rest) = new ++ replace (c :: pat) new rest := by
  refine replaceWith_of_some ?_
  rw [startsWith_append, if_pos rfl, List.length_cons]

/-- A text whose first character alone starts a pattern is copied if the pattern is not there. -/
theorem replace_cons_append_of_not_prefix {c : Char} {pat s rest : List Char} (hs : c ∉ s)
    (h : ¬ pat <+: s ++ rest) (new : List Char) :
    replace (c :: pat) new (c :: s ++ rest) = c :: s ++ replace (c :: pat) new rest := by
  have hnot : startsWith (c :: pat) (c :: (s ++ rest)) = false := by
    rw [startsWith_cons_self]
    exact Bool.eq_false_iff.2 fun hstart => h (startsWith_iff.1 hstart)
  have hcopy : replace (c :: pat) new (c :: (s ++ rest)) =
      c :: replace (c :: pat) new (s ++ rest) :=
    replaceWith_cons_of_none (by rw [hnot]; rfl)
  rw [List.cons_append, hcopy, replace_append_of_clear (clear_of_not_mem hs pat)]
  rfl

end StepScript.Text
