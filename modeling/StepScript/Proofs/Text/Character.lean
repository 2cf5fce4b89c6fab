/-
# Letter case and white space

Which texts lower-casing, folding and trimming leave alone or can be told from.
-/
import Mathlib.Data.List.DropRight
import StepScript.Text.Blank
import StepScript.Text.Letter
import StepScript.Text.Word

namespace StepScript.Text

/-! ## Trimming -/

/-- A text without white space at its ends is its own trimmed form. -/
theorem trim_of_ends {s : List Char} (hhead : ∀ c ∈ s.head?, isBlank c = false)
    (hlast : ∀ c ∈ s.getLast?, isBlank c = false) : trim s = s := by
  have hkeep : ∀ t : List Char, (∀ c ∈ t.head?, isBlank c = false) → t.dropWhile isBlank = t := by
    intro t ht
    cases t with
    | nil => rfl
    | cons c rest => rw [List.dropWhile_cons, ht c rfl, if_neg (by decide)]
  unfold trim trimStart trimEnd
  rw [hkeep s hhead, hkeep s.reverse, List.reverse_reverse]
  rw [List.head?_reverse]
  exact hlast

theorem trimEnd_eq_rdropWhile (s : List Char) : trimEnd s = s.rdropWhile isBlank := rfl

theorem trimEnd_isPrefix (s : List Char) : trimEnd s <+: s := by
  rw [trimEnd_eq_rdropWhile]
  exact List.rdropWhile_prefix isBlank s

/-- Trimming leaves a stretch of the text. -/
theorem trim_isInfix (s : List Char) : trim s <:+: s :=
  (trimEnd_isPrefix (trimStart s)).isInfix.trans (List.dropWhile_suffix isBlank).isInfix

theorem length_trim_le (s : List Char) : (trim s).length ≤ s.length :=
  (trim_isInfix s).length_le

/-- A trimmed text does not start with white space. -/
theorem isBlank_of_head?_trim {s : List Char} {c : Char} (hc : c ∈ (trim s).head?) :
    isBlank c = false := by
  obtain ⟨rest, hrest⟩ := List.head?_eq_some_iff.1 hc
  obtain ⟨behind, hbehind⟩ := trimEnd_isPrefix (trimStart s)
  have hstart : (s.dropWhile isBlank).head? = some c := by
    show (trimStart s).head? = some c
    rw [← hbehind, ← trim, hrest]
    rfl
  have hnot := List.head?_dropWhile_not isBlank s
  rw [hstart] at hnot
  simpa using hnot

/-- A trimmed text does not end with white space. -/
theorem isBlank_of_getLast?_trim {s : List Char} {c : Char} (hc : c ∈ (trim s).getLast?) :
    isBlank c = false := by
  have hne : (trimStart s).rdropWhile isBlank ≠ [] := by
    intro hnil
    rw [trim, trimEnd_eq_rdropWhile, hnil] at hc
    cases hc
  have hlast := List.rdropWhile_last_not isBlank (trimStart s) hne
  rw [trim, trimEnd_eq_rdropWhile, List.getLast?_eq_getLast_of_ne_nil hne] at hc
  cases hc
  simpa using hlast

theorem trim_trim (s : List Char) : trim (trim s) = trim s :=
  trim_of_ends (fun _ hc => isBlank_of_head?_trim hc) (fun _ hc => isBlank_of_getLast?_trim hc)

/-- Trimming takes white space away only. -/
theorem isBlank_or_mem_trim {s : List Char} {c : Char} (hc : c ∈ s) :
    isBlank c = true ∨ c ∈ trim s := by
  have hdrop : ∀ {t : List Char}, c ∈ t → isBlank c = true ∨ c ∈ t.dropWhile isBlank := by
    intro t ht
    rw [← List.takeWhile_append_dropWhile (p := isBlank) (l := t)] at ht
    exact (List.mem_append.1 ht).imp_left List.mem_takeWhile_imp
  refine (hdrop hc).elim .inl fun hstart => ?_
  refine (hdrop (List.mem_reverse.2 hstart)).imp_right fun hend => ?_
  exact List.mem_reverse.2 hend

/-- No character of a name is white space. -/
theorem isBlank_of_isWord {c : Char} (h : isWord c = true) : isBlank c = false := by
  unfold isWord at h
  by_cases hc : c.toNat < 0x80
  · rw [if_pos hc] at h
    have hall : ∀ n < 0x80, ((Char.ofNat n).isAlphanum || Char.ofNat n == '_') = true →
        isBlank (Char.ofNat n) = false := by
      decide +kernel
    have := hall c.toNat hc
    rw [Char.ofNat_toNat] at this
    exact this h
  · rw [if_neg hc] at h
    have hdisjoint : ∀ b ∈ blankRanges, ∀ w ∈ wordRanges, b.2 < w.1 ∨ w.2 < b.1 := by
      decide +kernel
    obtain ⟨w, hw, hwithin⟩ := List.any_eq_true.1 h
    refine List.any_eq_false.2 fun b hb => ?_
    have hapart := hdisjoint b hb w hw
    simp only [Bool.and_eq_true, decide_eq_true_eq] at hwithin ⊢
    omega

/-! ## Letter case -/

theorem toLower_of_not_ascii {c : Char} (h : ¬ c.toNat < 0x80) : c.toLower = c := by
  unfold Char.toLower
  rw [dif_neg]
  rintro ⟨_, hle⟩
  have : c.toNat ≤ 90 := hle
  omega

/-- Lower-casing leads into ASCII from ASCII only. -/
theorem ascii_of_toLower {c : Char} (h : c.toLower.toNat < 0x80) : c.toNat < 0x80 := by
  refine Decidable.byContradiction fun hc => ?_
  rw [toLower_of_not_ascii hc] at h
  exact hc h

/-- A run moves no character to the one with this number: it ends below it or starts above it. -/
def CaseRun.Avoids (r : CaseRun) (n : Nat) : Prop :=
  (n : Int) < r.first + r.shift ∨ r.last + r.shift < (n : Int)

instance (r : CaseRun) (n : Nat) : Decidable (r.Avoids n) :=
  inferInstanceAs (Decidable (_ ∨ _))

/-- What a table moves keeps clear of a number that all its runs avoid. -/
theorem toNat_moveBy_ne {runs : List CaseRun} {n : Nat} (hn : n ≠ 0)
    (hruns : ∀ r ∈ runs, r.Avoids n) {c d : Char} (h : moveBy runs c = some d) : d.toNat ≠ n := by
  obtain ⟨r, hr, rfl⟩ := Option.map_eq_some_iff.1 h
  have hmoves : r.moves c.toNat = true := by simpa using List.find?_some hr
  have hrange : r.first ≤ c.toNat ∧ c.toNat ≤ r.last := by
    simp only [CaseRun.moves, Bool.and_eq_true, decide_eq_true_eq] at hmoves
    exact hmoves.1
  have havoids : (n : Int) < r.first + r.shift ∨ r.last + r.shift < (n : Int) :=
    hruns r (List.mem_of_find?_eq_some hr)
  by_cases hvalid : ((c.toNat : Int) + r.shift).toNat.isValidChar
  · rw [Char.ofNat, dif_pos hvalid]
    show (((c.toNat : Int) + r.shift).toNat) ≠ n
    omega
  · rw [Char.ofNat, dif_neg hvalid]
    exact hn.symm

/-- A character that both tables avoid has no case variants beyond ASCII. -/
theorem toLower_of_foldChar {c d : Char} (hd : d.toNat ≠ 0)
    (hfold : ∀ r ∈ foldRuns, r.Avoids d.toNat) (hlower : ∀ r ∈ lowerRuns, r.Avoids d.toNat)
    (h : foldChar c = d) : c.toLower = d := by
  unfold foldChar lowerChar at h
  by_cases hc : c.toNat < 0x80
  · rw [if_pos hc] at h
    exact h
  · rw [if_neg hc, if_neg hc] at h
    cases hm : moveBy foldRuns c with
    | some moved =>
      rw [hm] at h
      exact absurd (congrArg Char.toNat h) (toNat_moveBy_ne hd hfold hm)
    | none =>
      cases hl : moveBy lowerRuns c with
      | some moved =>
        rw [hm, hl] at h
        exact absurd (congrArg Char.toNat h) (toNat_moveBy_ne hd hlower hl)
      | none =>
        rw [hm, hl] at h
        rw [toLower_of_not_ascii hc]
        exact h

/-- A character of ASCII without case variants: no table leads to it, and no other character of
ASCII is lower-cased to it. -/
def IsCaseless (d : Char) : Prop :=
  (d.toNat ≠ 0 ∧ d.toNat < 0x80) ∧ (∀ r ∈ foldRuns, r.Avoids d.toNat) ∧
    (∀ r ∈ lowerRuns, r.Avoids d.toNat) ∧
    ∀ n < 0x80, (Char.ofNat n).toLower = d → Char.ofNat n = d

instance (d : Char) : Decidable (IsCaseless d) :=
  inferInstanceAs (Decidable (_ ∧ _))

/-- Only the character itself is folded to a character without case variants. -/
theorem eq_of_foldChar {c d : Char} (hd : IsCaseless d) (h : foldChar c = d) : c = d := by
  obtain ⟨⟨hzero, hascii⟩, hfold, hlower, hself⟩ := hd
  have htoLower : c.toLower = d := toLower_of_foldChar hzero hfold hlower h
  have hc : c.toNat < 0x80 := ascii_of_toLower (by rw [htoLower]; exact hascii)
  have heq := hself c.toNat hc
  rw [Char.ofNat_toNat] at heq
  exact heq htoLower

/-- Only the colon is folded to the colon. -/
theorem foldChar_eq_colon {c : Char} (h : foldChar c = ':') : c = ':' :=
  eq_of_foldChar (by decide +kernel) h

/-- A character whose lower-case form is one character, the same in every text. -/
def LowersAlone (c : Char) : Prop :=
  c.toNat ≠ 0x3A3 ∧ c.toNat ≠ 0x130

theorem lowerAfter_cons_of_lowersAlone {c : Char} (hc : LowersAlone c) (before rest : List Char) :
    lowerAfter before (c :: rest) = lowerChar c :: lowerAfter (c :: before) rest := by
  rw [lowerAfter, if_neg hc.1, if_neg hc.2]
  rfl

/-- A stretch of such characters is lower-cased one by one, whatever stands around it. -/
theorem lowerAfter_append_of_lowersAlone {xs : List Char} (h : ∀ c ∈ xs, LowersAlone c)
    (before ys : List Char) :
    lowerAfter before (xs ++ ys) = xs.map lowerChar ++ lowerAfter (xs.reverse ++ before) ys := by
  induction xs generalizing before with
  | nil => rfl
  | cons c xs ih =>
    rw [List.cons_append, lowerAfter_cons_of_lowersAlone (h c List.mem_cons_self),
      ih fun d hd => h d (List.mem_cons_of_mem c hd), List.reverse_cons, List.append_assoc]
    rfl

theorem lowerAfter_of_lowersAlone {s : List Char} (h : ∀ c ∈ s, LowersAlone c)
    (before : List Char) : lowerAfter before s = s.map lowerChar := by
  have happend : lowerAfter before (s ++ []) = s.map lowerChar ++ [] :=
    lowerAfter_append_of_lowersAlone h before []
  rwa [List.append_nil, List.append_nil] at happend

/-- What is written for the end of a text stands at the end. -/
theorem lowerAfter_isSuffix (before xs ys : List Char) :
    lowerAfter (xs.reverse ++ before) ys <:+ lowerAfter before (xs ++ ys) := by
  induction xs generalizing before with
  | nil => exact List.suffix_refl _
  | cons c xs ih =>
    rw [List.reverse_cons, List.append_assoc]
    exact (ih (c :: before)).trans (List.suffix_append _ _)

/-- A text with a lower-case form in ASCII has only characters that are lower-cased alone. -/
theorem lowersAlone_of_ascii {before s : List Char}
    (h : ∀ c ∈ lowerAfter before s, c.toNat < 0x80) : ∀ c ∈ s, LowersAlone c := by
  induction s generalizing before with
  | nil => nofun
  | cons c rest ih =>
    rw [lowerAfter] at h
    have hrest : ∀ d ∈ rest, LowersAlone d :=
      ih fun d hd => h d (List.mem_append_right _ hd)
    have hc : LowersAlone c := by
      constructor
      · intro hsigma
        rw [if_pos hsigma] at h
        split at h
        · exact absurd (h _ List.mem_cons_self) (by decide)
        · exact absurd (h _ List.mem_cons_self) (by decide)
      · intro hdotted
        rw [if_neg (by omega), if_pos hdotted] at h
        exact absurd (h (Char.ofNat 0x307) (by simp)) (by decide)
    intro d hd
    rcases List.mem_cons.1 hd with rfl | hd
    · exact hc
    · exact hrest d hd

/-- A stretch of a text whose lower-case form is in ASCII keeps this form in the whole text. -/
theorem lower_isInfix {part : List Char} {s : String} (hpart : part <:+: s.toList)
    (hascii : ∀ c ∈ (lower (String.ofList part)).toList, c.toNat < 0x80) :
    (lower (String.ofList part)).toList <:+: (lower s).toList := by
  unfold lower at hascii ⊢
  simp only [String.toList_ofList] at hascii ⊢
  have halone := lowersAlone_of_ascii hascii
  obtain ⟨front, behind, hs⟩ := hpart
  have hfrom : lowerAfter [] part <+: lowerAfter (front.reverse ++ []) (part ++ behind) := by
    rw [lowerAfter_append_of_lowersAlone halone, lowerAfter_of_lowersAlone halone]
    exact List.prefix_append _ _
  rw [← hs, List.append_assoc]
  exact hfrom.isInfix.trans (lowerAfter_isSuffix [] front (part ++ behind)).isInfix

/-- Within ASCII, lower-casing a text is lower-casing its characters. -/
theorem lowerAfter_of_ascii {s : List Char} (h : ∀ c ∈ s, c.toNat < 0x80) (before : List Char) :
    lowerAfter before s = asciiLower s := by
  have halone : ∀ c ∈ s, LowersAlone c := by
    intro c hc
    have := h c hc
    exact ⟨by omega, by omega⟩
  rw [lowerAfter_of_lowersAlone halone, asciiLower]
  exact List.map_congr_left fun c hc => if_pos (h c hc)

/-- A text that is a word of ASCII up to the case of ASCII letters has this word as its lower-case
form. -/
theorem lower_of_asciiLower {s : String} {word : List Char} (h : asciiLower s.toList = word)
    (hword : word.all (·.toNat < 0x80) = true) : lower s = String.ofList word := by
  unfold lower
  rw [lowerAfter_of_ascii, h]
  intro c hc
  have hmem : c.toLower ∈ word := by
    rw [← h]
    exact List.mem_map_of_mem hc
  exact ascii_of_toLower (of_decide_eq_true (List.all_eq_true.1 hword _ hmem))

/-- A character of ASCII at the start of a text is lower-cased on its own. -/
theorem head_lowerAfter {c : Char} (hc : c.toNat < 0x80) (rest : List Char) :
    (lowerAfter [] (c :: rest)).head? = some c.toLower := by
  rw [lowerAfter, if_neg (by omega), if_neg (by omega), lowerChar, if_pos hc]
  rfl

end StepScript.Text
