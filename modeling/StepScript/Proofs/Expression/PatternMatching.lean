/-
# What patterns match

A pattern matches the texts that can be cut into pieces, one for each of its characters and in their
order: `%` takes any piece, `_` any single character, and every other character takes itself.
Matching reads the pattern once.  Behind each of its characters it knows the prefixes of the text
that the part read so far matches, and `Reached.Tells` is what it knows: true at the start, kept by
each character, and at the end the answer for the whole text.
-/
import Mathlib.Data.List.Forall2
import Mathlib.Data.List.TakeDrop
import StepScript.Expression.Comparison

namespace StepScript.Like

/-! ## Cutting a text -/

/-- A character of a pattern takes a piece of a text. -/
def Takes (p : Char) (piece : List Char) : Prop :=
  if p = '%' then True else if p = '_' then ∃ c, piece = [c] else piece = [p]

/-- A text can be cut into pieces that the characters of a pattern take one by one. -/
def Matches (pattern text : List Char) : Prop :=
  ∃ pieces : List (List Char), List.Forall₂ Takes pattern pieces ∧ pieces.flatten = text

/-- The single characters that a character of a pattern accepts, if it is not `%`. -/
def accepts (p c : Char) : Bool := p == '_' || c == p

theorem takes_percent (piece : List Char) : Takes '%' piece := by
  rw [Takes, if_pos rfl]
  trivial

theorem takes_iff_of_ne {p : Char} (hp : p ≠ '%') {piece : List Char} :
    Takes p piece ↔ ∃ c, piece = [c] ∧ accepts p c = true := by
  rw [Takes, if_neg hp]
  by_cases hany : p = '_'
  · simp [hany, accepts]
  · simp [hany, accepts]

theorem matches_nil {text : List Char} : Matches [] text ↔ text = [] := by
  constructor
  · rintro ⟨pieces, hpieces, rfl⟩
    rw [List.forall₂_nil_left_iff.1 hpieces]
    rfl
  · rintro rfl
    exact ⟨[], .nil, rfl⟩

/-- The last character of a pattern takes what the others leave of the text. -/
theorem matches_concat {pattern text : List Char} {p : Char} :
    Matches (pattern ++ [p]) text ↔
      ∃ before piece, text = before ++ piece ∧ Matches pattern before ∧ Takes p piece := by
  constructor
  · rintro ⟨pieces, hpieces, rfl⟩
    rw [← List.forall₂_reverse_iff, List.reverse_append, List.reverse_singleton,
      List.singleton_append, List.forall₂_cons_left_iff] at hpieces
    obtain ⟨piece, others, hpiece, hothers, hreverse⟩ := hpieces
    obtain rfl : pieces = others.reverse ++ [piece] := by
      rw [← List.reverse_reverse pieces, hreverse, List.reverse_cons]
    rw [← List.forall₂_reverse_iff, List.reverse_reverse] at hothers
    refine ⟨others.reverse.flatten, piece, ?_, ⟨others.reverse, hothers, rfl⟩, hpiece⟩
    rw [List.flatten_append, List.flatten_singleton]
  · rintro ⟨before, piece, rfl, ⟨pieces, hpieces, rfl⟩, hpiece⟩
    refine ⟨pieces ++ [piece], List.rel_append hpieces (.cons hpiece .nil), ?_⟩
    rw [List.flatten_append, List.flatten_singleton]

/-! ## One character of the pattern -/

/-- A `%` at the end matches a prefix if what is before it matches a shorter one. -/
theorem matches_concat_percent {pattern text : List Char} {n : Nat} :
    Matches (pattern ++ ['%']) (text.take n) ↔ ∃ m ≤ n, Matches pattern (text.take m) := by
  rw [matches_concat]
  constructor
  · rintro ⟨before, piece, htext, hbefore, -⟩
    have hprefix : before = (text.take n).take before.length := by
      rw [htext, List.take_left]
    rw [List.take_take] at hprefix
    refine ⟨min before.length n, Nat.min_le_right _ _, ?_⟩
    rwa [← hprefix]
  · rintro ⟨m, hm, hmatches⟩
    have hcut : text.take n = text.take m ++ (text.take n).drop m := by
      have htake : (text.take n).take m = text.take m := by
        rw [List.take_take, Nat.min_eq_left hm]
      rw [← htake, List.take_append_drop]
    exact ⟨text.take m, (text.take n).drop m, hcut, hmatches, takes_percent _⟩

/-- Any other character at the end takes the last character of a prefix. -/
theorem matches_concat_of_ne {pattern text : List Char} {p : Char} (hp : p ≠ '%') {n : Nat}
    {c : Char} (hc : text[n]? = some c) :
    Matches (pattern ++ [p]) (text.take (n + 1)) ↔
      accepts p c = true ∧ Matches pattern (text.take n) := by
  have hlast : text.take (n + 1) = text.take n ++ [c] := by
    rw [List.take_add_one, hc]
    rfl
  rw [matches_concat, hlast]
  constructor
  · rintro ⟨before, piece, htext, hbefore, hpiece⟩
    obtain ⟨d, rfl, hd⟩ := (takes_iff_of_ne hp).1 hpiece
    obtain ⟨rfl, heq⟩ := List.append_inj' htext rfl
    cases heq
    exact ⟨hd, hbefore⟩
  · rintro ⟨haccepts, hmatches⟩
    exact ⟨text.take n, [c], rfl, hmatches, (takes_iff_of_ne hp).2 ⟨c, rfl, haccepts⟩⟩

/-- It does not match the empty prefix. -/
theorem not_matches_concat_nil {pattern : List Char} {p : Char} (hp : p ≠ '%') :
    ¬ Matches (pattern ++ [p]) [] := by
  rw [matches_concat]
  rintro ⟨before, piece, htext, -, hpiece⟩
  obtain ⟨c, rfl, -⟩ := (takes_iff_of_ne hp).1 hpiece
  simp at htext

/-! ## The prefixes reached -/

/-- What is known of the prefixes of a text behind a part of a pattern. -/
structure Reached.Tells (reached : Reached) (text pattern : List Char) : Prop where
  length : reached.length = text.length + 1
  reached_iff : ∀ n ≤ text.length, reached[n]? = some true ↔ Matches pattern (text.take n)

theorem length_one (accept : Char → Bool) {text : List Char} {reached : Reached}
    (h : reached.length = text.length + 1) :
    (one accept text reached).length = text.length + 1 := by
  rw [one, List.length_cons, List.length_zipWith, h]
  omega

theorem getElem?_one (accept : Char → Bool) (text : List Char) (reached : Reached) (n : Nat) :
    (one accept text reached)[n + 1]? = some true ↔
      ∃ c, text[n]? = some c ∧ accept c = true ∧ reached[n]? = some true := by
  rw [one, List.getElem?_cons_succ, List.getElem?_zipWith]
  cases text[n]? <;> cases reached[n]? <;> simp

theorem length_any (seen : Bool) (reached : Reached) :
    (any seen reached).length = reached.length := by
  induction reached generalizing seen with
  | nil => rfl
  | cons r rest ih => rw [any, List.length_cons, List.length_cons, ih]

/-- Behind `%`, a prefix is reached if one up to it was. -/
theorem getElem?_any (seen : Bool) (reached : Reached) (n : Nat) :
    (any seen reached)[n]? = some true ↔
      n < reached.length ∧ (seen = true ∨ ∃ m ≤ n, reached[m]? = some true) := by
  induction reached generalizing seen n with
  | nil => simp [any]
  | cons r rest ih =>
    cases n with
    | zero => simp [any]
    | succ n =>
      have hfirst : (∃ m ≤ n + 1, (r :: rest)[m]? = some true) ↔
          r = true ∨ ∃ m ≤ n, rest[m]? = some true := by
        constructor
        · rintro ⟨m, hm, hreached⟩
          cases m with
          | zero => exact .inl (by simpa using hreached)
          | succ m => exact .inr ⟨m, Nat.le_of_succ_le_succ hm, by simpa using hreached⟩
        · rintro (rfl | ⟨m, hm, hreached⟩)
          · exact ⟨0, Nat.zero_le _, rfl⟩
          · exact ⟨m + 1, Nat.succ_le_succ hm, by simpa using hreached⟩
      rw [any, List.getElem?_cons_succ, ih, hfirst, List.length_cons, Nat.succ_lt_succ_iff,
        Bool.or_eq_true, or_assoc]

/-- Before the pattern is read, the empty prefix is reached. -/
theorem tells_start (text : List Char) : (start text).Tells text [] where
  length := by rw [start, List.length_cons, List.length_map]
  reached_iff n hn := by
    rw [matches_nil]
    cases n with
    | zero => simp [start]
    | succ n =>
      have hne : text.take (n + 1) ≠ [] := by
        rw [Ne, List.take_eq_nil_iff]
        rintro (h | rfl)
        · omega
        · simp at hn
      refine iff_of_false ?_ hne
      rw [start, List.getElem?_cons_succ, List.getElem?_map]
      cases text[n]? <;> simp

/-- Each character of the pattern keeps what is known true. -/
theorem Reached.Tells.step {reached : Reached} {text pattern : List Char}
    (h : reached.Tells text pattern) (p : Char) :
    (step text reached p).Tells text (pattern ++ [p]) := by
  by_cases hp : p = '%'
  · subst hp
    rw [Like.step, if_pos rfl]
    refine ⟨(length_any _ _).trans h.length, fun n hn => ?_⟩
    rw [getElem?_any, h.length, matches_concat_percent]
    constructor
    · rintro ⟨-, hseen | ⟨m, hm, hreached⟩⟩
      · cases hseen
      · exact ⟨m, hm, (h.reached_iff m (Nat.le_trans hm hn)).1 hreached⟩
    · rintro ⟨m, hm, hmatches⟩
      exact ⟨Nat.lt_succ_of_le hn, .inr ⟨m, hm, (h.reached_iff m (Nat.le_trans hm hn)).2 hmatches⟩⟩
  · -- `_` and the other characters differ in what they accept only
    have hstep : Like.step text reached p = one (accepts p) text reached := by
      rw [Like.step, if_neg hp]
      by_cases hany : p = '_'
      · rw [if_pos hany]
        congr 1
        funext c
        simp [accepts, hany]
      · rw [if_neg hany]
        congr 1
        funext c
        simp [accepts, hany]
    rw [hstep]
    refine ⟨length_one _ h.length, fun n hn => ?_⟩
    cases n with
    | zero => exact iff_of_false (by simp [one]) (not_matches_concat_nil hp)
    | succ n =>
      have hc : text[n]? = some text[n] := List.getElem?_eq_getElem hn
      rw [getElem?_one, matches_concat_of_ne hp hc, hc,
        ← h.reached_iff n (Nat.le_of_succ_le hn)]
      simp

/-- Behind the whole pattern, it is known which prefixes it matches. -/
theorem Reached.Tells.foldl {reached : Reached} {text before : List Char}
    (h : reached.Tells text before) (pattern : List Char) :
    (pattern.foldl (Like.step text) reached).Tells text (before ++ pattern) := by
  induction pattern generalizing reached before with
  | nil => rwa [List.append_nil]
  | cons p rest ih =>
    have hrest := ih (h.step p)
    rwa [List.append_assoc] at hrest

/-- The last prefix of a text is the text. -/
theorem holds_iff (text pattern : List Char) :
    holds text pattern = true ↔ Matches pattern text := by
  have htells : (pattern.foldl (step text) (start text)).Tells text pattern :=
    (tells_start text).foldl pattern
  have hlast := htells.reached_iff text.length (Nat.le_refl _)
  rw [List.take_length] at hlast
  rw [← hlast, holds, List.getLast?_eq_getElem?, htells.length, Nat.add_sub_cancel]
  cases (pattern.foldl (step text) (start text))[text.length]? <;> simp

/-! ## The operators -/

/-- **What `like` means.**  The operator never fails.  It holds of a text and a pattern exactly if
the text can be cut into pieces, one for each character of the pattern in order, where `%` takes any
piece, `_` takes one character and every other character takes itself.  The operator `notlike` says
the opposite. -/
theorem like_iff_cut (text pattern : Value) :
    (Operator.like.compareValues text pattern = .ok true ↔
      ∃ pieces : List (List Char),
        List.Forall₂ Takes pattern.display.toList pieces ∧ pieces.flatten = text.display.toList) ∧
    (Operator.like.compareValues text pattern = .ok false ↔
      ¬ ∃ pieces : List (List Char),
        List.Forall₂ Takes pattern.display.toList pieces ∧ pieces.flatten = text.display.toList) ∧
    ∀ b, Operator.notLike.compareValues text pattern = .ok b ↔
      Operator.like.compareValues text pattern = .ok (!b) := by
  have hlike : Operator.like.compareValues text pattern =
      .ok (holds text.display.toList pattern.display.toList) := rfl
  have hnotLike : Operator.notLike.compareValues text pattern =
      .ok (!holds text.display.toList pattern.display.toList) := rfl
  have hholds := holds_iff text.display.toList pattern.display.toList
  unfold Matches at hholds
  rw [hlike, hnotLike, Except.ok.injEq, Except.ok.injEq]
  refine ⟨hholds, ?_, fun b => ?_⟩
  · rw [← hholds, Bool.not_eq_true]
  · rw [Except.ok.injEq, Except.ok.injEq, Bool.not_eq_eq_eq_not]

/-- A line break is a character as any other, and so is what regular expressions give a meaning. -/
example : holds "a\n.b".toList "_%.b".toList = true ∧ holds "ab".toList "a.".toList = false := by
  decide

end StepScript.Like
