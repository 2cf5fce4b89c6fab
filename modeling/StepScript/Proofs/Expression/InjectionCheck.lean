/-
# The check on captured values

Unless the check is switched off, an environment is captured exactly if no captured value is
dangerous: none has a quote or a semicolon, and none has a destructive word, a white-space character
and, behind a stretch of text, one of the things that can be destroyed.  That stretch has to lie on
one line, so a line break hides the rest of such a statement from the check.  Variables that the
allow-list leaves out have no say in any of this.
-/
import Mathlib.Data.List.Sort
import StepScript.Proofs.Expression.EnvironmentReferences

namespace StepScript

/-! ## Words up to letter case -/

namespace Reference

/-- A text starts with a word up to letter case exactly if it is a word with the same letters and
what follows it. -/
theorem afterFolded?_eq_some_iff {word s rest : List Char} :
    afterFolded? word s = some rest ↔
      ∃ found, s = found ++ rest ∧ Text.sameLetters found word = true := by
  simp only [Text.sameLetters, beq_iff_eq]
  induction word generalizing s with
  | nil => simp [afterFolded?]
  | cons p word ih =>
    cases s with
    | nil => simp [afterFolded?]
    | cons c s =>
      rw [afterFolded?]
      by_cases hfold : Text.foldChar p = Text.foldChar c
      · rw [if_pos hfold, ih]
        constructor
        · rintro ⟨found, rfl, hsame⟩
          exact ⟨c :: found, rfl, by simp [hfold, hsame]⟩
        · rintro ⟨found, hsplit, hsame⟩
          obtain ⟨d, found, rfl⟩ : ∃ d tail, found = d :: tail :=
            List.exists_cons_of_ne_nil fun hnil => by simp [hnil] at hsame
          obtain ⟨rfl, rfl⟩ := List.cons.inj hsplit
          exact ⟨found, rfl, (List.cons.inj hsame).2⟩
      · rw [if_neg hfold]
        constructor
        · intro h
          cases h
        · rintro ⟨found, hsplit, hsame⟩
          obtain ⟨d, found, rfl⟩ : ∃ d tail, found = d :: tail :=
            List.exists_cons_of_ne_nil fun hnil => by simp [hnil] at hsame
          obtain ⟨rfl, rfl⟩ := List.cons.inj hsplit
          exact absurd (List.cons.inj hsame).1.symm hfold

theorem isFoldedPrefix_iff {word s : List Char} :
    IsFoldedPrefix word s ↔
      ∃ found back, s = found ++ back ∧ Text.sameLetters found word = true := by
  rw [IsFoldedPrefix, Option.isSome_iff_exists]
  constructor
  · rintro ⟨back, h⟩
    obtain ⟨found, hfound⟩ := afterFolded?_eq_some_iff.1 h
    exact ⟨found, back, hfound⟩
  · rintro ⟨found, back, hfound⟩
    exact ⟨back, afterFolded?_eq_some_iff.2 ⟨found, hfound⟩⟩

end Reference

/-- Texts with the same letters have the same characters without case variants. -/
theorem Text.not_mem_of_sameLetters {s t : List Char} (h : Text.sameLetters s t = true) {d : Char}
    (hd : Text.IsCaseless d) (hself : Text.foldChar d = d) (ht : d ∉ t) : d ∉ s := by
  intro hs
  have hmap : s.map Text.foldChar = t.map Text.foldChar := by simpa [Text.sameLetters] using h
  have hmem : Text.foldChar d ∈ t.map Text.foldChar := hmap ▸ List.mem_map_of_mem hs
  obtain ⟨c, hc, hfold⟩ := List.mem_map.1 hmem
  have heq : c = d := Text.eq_of_foldChar hd (hfold.trans hself)
  exact ht (heq ▸ hc)

/-! ## Dangerous values -/

namespace Environment

/-- A destructive word, a white-space character and, behind a stretch of text that may stand there,
one of the things that can be destroyed, in any letter case. -/
def Destroys (between : List Char → Prop) (s : List Char) : Prop :=
  ∃ front word blank gap object back,
    s = front ++ (word ++ blank :: (gap ++ (object ++ back))) ∧
      (∃ w ∈ destructiveWords, Text.sameLetters word w = true) ∧ Text.isBlank blank = true ∧
      between gap ∧ ∃ o ∈ objectWords, Text.sameLetters object o = true

/-- A value that could end a literal or a statement, or destroy something. -/
def Dangerous (between : List Char → Prop) (s : List Char) : Prop :=
  '\'' ∈ s ∨ ';' ∈ s ∨ Destroys between s

/-- Any text. -/
def AnyText (_ : List Char) : Prop := True

/-- A text without a line break. -/
def OnOneLine (s : List Char) : Prop := '\n' ∉ s

/-- A word occurs up to letter case exactly if a stretch of the text has the same letters. -/
theorem occursFolded_iff {word s : List Char} :
    occursFolded word s = true ↔
      ∃ front found back, s = front ++ (found ++ back) ∧ Text.sameLetters found word = true := by
  induction s with
  | nil =>
    rw [occursFolded, ← Reference.IsFoldedPrefix, Reference.isFoldedPrefix_iff]
    constructor
    · rintro ⟨found, back, hsplit, hsame⟩
      exact ⟨[], found, back, hsplit, hsame⟩
    · rintro ⟨front, found, back, hsplit, hsame⟩
      obtain ⟨_, hrest⟩ := List.append_eq_nil_iff.1 hsplit.symm
      exact ⟨found, back, hrest.symm, hsame⟩
  | cons c s ih =>
    rw [occursFolded, Bool.or_eq_true, ← Reference.IsFoldedPrefix, Reference.isFoldedPrefix_iff, ih]
    constructor
    · rintro (⟨found, back, hsplit, hsame⟩ | ⟨front, found, back, rfl, hsame⟩)
      · exact ⟨[], found, back, hsplit, hsame⟩
      · exact ⟨c :: front, found, back, rfl, hsame⟩
    · rintro ⟨front, found, back, hsplit, hsame⟩
      cases front with
      | nil => exact .inl ⟨found, back, hsplit, hsame⟩
      | cons d front => exact .inr ⟨front, found, back, (List.cons.inj hsplit).2, hsame⟩

/-- No line break is part of a thing that can be destroyed. -/
theorem onOneLine_of_object {object o : List Char} (ho : o ∈ objectWords)
    (hsame : Text.sameLetters object o = true) : OnOneLine object := by
  have hwords : ∀ w ∈ objectWords, '\n' ∉ w := by decide
  exact Text.not_mem_of_sameLetters hsame (by decide +kernel) (by decide) (hwords o ho)

/-- Of a text, what starts with one on one line starts on its first line. -/
theorem takeWhile_append_of_onOneLine {s : List Char} (h : OnOneLine s) (rest : List Char) :
    (s ++ rest).takeWhile (· != '\n') = s ++ rest.takeWhile (· != '\n') := by
  refine List.takeWhile_append_of_pos fun c hc => ?_
  have hne : c ≠ '\n' := fun heq => h (heq ▸ hc)
  simpa using hne

/-- Something that can be destroyed occurs on the first line exactly if it occurs behind a stretch
on one line. -/
theorem occursFolded_line_iff {o rest : List Char} (ho : o ∈ objectWords) :
    occursFolded o (rest.takeWhile (· != '\n')) = true ↔
      ∃ gap object back, rest = gap ++ (object ++ back) ∧ OnOneLine gap ∧
        Text.sameLetters object o = true := by
  rw [occursFolded_iff]
  constructor
  · rintro ⟨gap, object, back, hline, hsame⟩
    have hgap : OnOneLine gap := by
      intro hmem
      have hin : '\n' ∈ rest.takeWhile (· != '\n') := by
        rw [hline]
        exact List.mem_append_left _ hmem
      simpa using List.mem_takeWhile_imp hin
    refine ⟨gap, object, back ++ rest.dropWhile (· != '\n'), ?_, hgap, hsame⟩
    calc rest = rest.takeWhile (· != '\n') ++ rest.dropWhile (· != '\n') :=
          List.takeWhile_append_dropWhile.symm
      _ = gap ++ (object ++ (back ++ rest.dropWhile (· != '\n'))) := by
          rw [hline, List.append_assoc, List.append_assoc]
  · rintro ⟨gap, object, back, rfl, hgap, hsame⟩
    refine ⟨gap, object, back.takeWhile (· != '\n'), ?_, hsame⟩
    rw [takeWhile_append_of_onOneLine hgap,
      takeWhile_append_of_onOneLine (onOneLine_of_object ho hsame)]

/-- What the check finds at the start of a text. -/
theorem startsDestructive_iff {s : List Char} :
    startsDestructive s = true ↔
      ∃ word blank gap object back, s = word ++ blank :: (gap ++ (object ++ back)) ∧
        (∃ w ∈ destructiveWords, Text.sameLetters word w = true) ∧ Text.isBlank blank = true ∧
        OnOneLine gap ∧ ∃ o ∈ objectWords, Text.sameLetters object o = true := by
  unfold startsDestructive
  rw [List.any_eq_true]
  constructor
  · rintro ⟨w, hw, hfound⟩
    split at hfound
    next blank rest hafter =>
      obtain ⟨word, hsplit, hword⟩ := Reference.afterFolded?_eq_some_iff.1 hafter
      obtain ⟨hblank, hobject⟩ := Bool.and_eq_true_iff.1 hfound
      obtain ⟨o, ho, hoccurs⟩ := List.any_eq_true.1 hobject
      obtain ⟨gap, object, back, rfl, hgap, hsame⟩ := (occursFolded_line_iff ho).1 hoccurs
      exact ⟨word, blank, gap, object, back, hsplit, ⟨w, hw, hword⟩, hblank, hgap, o, ho, hsame⟩
    next => cases hfound
  · rintro ⟨word, blank, gap, object, back, hsplit, ⟨w, hw, hword⟩, hblank, hgap, o, ho, hsame⟩
    have hafter := Reference.afterFolded?_eq_some_iff.2 ⟨word, hsplit, hword⟩
    have hoccurs := (occursFolded_line_iff ho).2 ⟨gap, object, back, rfl, hgap, hsame⟩
    refine ⟨w, hw, ?_⟩
    rw [hafter]
    exact Bool.and_eq_true_iff.2 ⟨hblank, List.any_eq_true.2 ⟨o, ho, hoccurs⟩⟩

/-- The check finds what destroys something on one line, at any place. -/
theorem destroys_cons {c : Char} {s : List Char} :
    Destroys OnOneLine (c :: s) ↔ startsDestructive (c :: s) = true ∨ Destroys OnOneLine s := by
  rw [startsDestructive_iff]
  constructor
  · rintro ⟨front, word, blank, gap, object, back, hsplit, hrest⟩
    cases front with
    | nil => exact .inl ⟨word, blank, gap, object, back, hsplit, hrest⟩
    | cons d front =>
      exact .inr ⟨front, word, blank, gap, object, back, (List.cons.inj hsplit).2, hrest⟩
  · rintro (⟨word, blank, gap, object, back, hsplit, hrest⟩ |
      ⟨front, word, blank, gap, object, back, rfl, hrest⟩)
    · exact ⟨[], word, blank, gap, object, back, hsplit, hrest⟩
    · exact ⟨c :: front, word, blank, gap, object, back, rfl, hrest⟩

/-- A text is rejected exactly if it is dangerous, as far as one line goes. -/
theorem isHarmful_iff {s : List Char} : isHarmful s = true ↔ Dangerous OnOneLine s := by
  induction s with
  | nil =>
    refine ⟨nofun, ?_⟩
    rintro (h | h | ⟨front, word, blank, gap, object, back, hsplit, -⟩)
    · cases h
    · cases h
    · simp at hsplit
  | cons c s ih =>
    rw [isHarmful, Bool.or_eq_true, Bool.or_eq_true, Bool.or_eq_true, ih, Dangerous, Dangerous,
      destroys_cons, List.mem_cons, List.mem_cons, beq_iff_eq, beq_iff_eq, eq_comm (a := c),
      eq_comm (a := c)]
    tauto

/-- Without line breaks, all of a text is on one line. -/
theorem dangerous_iff_of_onOneLine {s : List Char} (h : OnOneLine s) :
    Dangerous OnOneLine s ↔ Dangerous AnyText s := by
  refine or_congr Iff.rfl (or_congr Iff.rfl ?_)
  constructor
  · rintro ⟨front, word, blank, gap, object, back, hsplit, hword, hblank, -, hobject⟩
    exact ⟨front, word, blank, gap, object, back, hsplit, hword, hblank, trivial, hobject⟩
  · rintro ⟨front, word, blank, gap, object, back, hsplit, hword, hblank, -, hobject⟩
    refine ⟨front, word, blank, gap, object, back, hsplit, hword, hblank, ?_, hobject⟩
    intro hmem
    exact h (by rw [hsplit]; simp [hmem])

end Environment

/-! ## What is captured -/

/-- Tables with the same entries are the same. -/
theorem Table.eq_of_mem_iff {α : Type} {t t' : Table α}
    (h : ∀ v, v ∈ t.entries ↔ v ∈ t'.entries) : t = t' := by
  have hnodup : ∀ t : Table α, t.entries.Nodup := by
    intro t
    refine t.ascending.imp fun {a b} hlt heq => ?_
    exact String.lt_irrefl b.1 (heq ▸ hlt)
  have hperm : t.entries.Perm t'.entries := (List.perm_ext_iff_of_nodup (hnodup t) (hnodup t')).2 h
  have hentries : t.entries = t'.entries := by
    refine List.Perm.eq_of_pairwise (fun a b _ _ hab hba => ?_) t.ascending t'.ascending hperm
    exact absurd (String.lt_trans hab hba) (String.lt_irrefl _)
  cases t
  cases t'
  cases hentries
  rfl

/-- A variable of this name is captured, if there is one. -/
def CaptureOptions.Admits (options : CaptureOptions) (name : String) : Prop :=
  ∀ names, options.allowed = some names → name ∈ names

namespace Environment

variable {options : CaptureOptions} {environment captured : Table String} {name value : String}

theorem mem_visible {v : String × String} :
    v ∈ (visible options environment).entries ↔ v ∈ environment.entries ∧ options.Admits v.1 := by
  unfold visible CaptureOptions.Admits
  cases options.allowed with
  | none => simp
  | some names => simp [Table.filter]

/-- Only the variables that are captured matter. -/
theorem visible_congr {other : Table String}
    (h : ∀ name, options.Admits name → other.get? name = environment.get? name) :
    visible options other = visible options environment := by
  refine Table.eq_of_mem_iff fun v => ?_
  rw [mem_visible, mem_visible, ← Table.get?_eq_some, ← Table.get?_eq_some]
  refine and_congr_left fun hadmits => ?_
  rw [h v.1 hadmits]

theorem capture_congr {other : Table String}
    (h : ∀ name, options.Admits name → other.get? name = environment.get? name) :
    capture options other = capture options environment := by
  unfold capture
  rw [visible_congr h]

section

variable (hchecked : options.unchecked = false)
include hchecked

/-- An environment is captured if none of the captured values is dangerous. -/
theorem capture_eq_ok_iff :
    capture options environment = .ok captured ↔ captured = visible options environment ∧
      ∀ v ∈ (visible options environment).entries, ¬ Dangerous OnOneLine v.2.toList := by
  have hnone : ((visible options environment).entries.find? fun e => isHarmful e.2.toList) = none ↔
      ∀ v ∈ (visible options environment).entries, ¬ Dangerous OnOneLine v.2.toList := by
    rw [List.find?_eq_none]
    exact forall₂_congr fun v _ => not_congr isHarmful_iff
  rw [← hnone, capture, hchecked, if_neg Bool.false_ne_true]
  cases (visible options environment).entries.find? fun e => isHarmful e.2.toList with
  | none => simp [eq_comm]
  | some v => simp

/-- A rejection names a captured variable with a dangerous value. -/
theorem exists_of_capture_error {error : Error} (h : capture options environment = .error error) :
    ∃ v ∈ (visible options environment).entries, Dangerous OnOneLine v.2.toList ∧
      error = .injection v.1 := by
  rw [capture, hchecked, if_neg Bool.false_ne_true] at h
  cases hfind : (visible options environment).entries.find? fun e => isHarmful e.2.toList with
  | none =>
    rw [hfind] at h
    cases h
  | some v =>
    rw [hfind] at h
    cases h
    have hharmful : isHarmful v.2.toList = true := by simpa using List.find?_some hfind
    exact ⟨v, List.mem_of_find?_eq_some hfind, isHarmful_iff.1 hharmful, rfl⟩

end

/-- A captured variable can be read by its name. -/
theorem lookup_of_get? (h : captured.get? name = some value) :
    lookup captured name = some value := by
  rw [lookup, h]
  rfl

/-- What can be read is the value of a captured variable. -/
theorem exists_of_lookup (h : lookup captured name = some value) :
    ∃ v ∈ captured.entries, Text.asciiLower v.1.toList = Text.asciiLower name.toList ∧
      v.2 = value := by
  rw [lookup] at h
  cases hget : captured.get? name with
  | some exact' =>
    rw [hget] at h
    cases h
    exact ⟨(name, value), Table.get?_eq_some.1 hget, rfl, rfl⟩
  | none =>
    rw [hget] at h
    obtain ⟨v, hfind, rfl⟩ := Option.map_eq_some_iff.1 h
    have hsame := List.find?_some hfind
    exact ⟨v, List.mem_of_find?_eq_some hfind, by simpa using hsame, rfl⟩

end Environment

namespace Evaluator

open Environment (Dangerous OnOneLine AnyText)

variable {options : CaptureOptions} {environment : Table String}

theorem exists_new_iff (hchecked : options.unchecked = false) :
    (∃ e, Evaluator.new options environment = .ok e) ↔
      ∀ v ∈ environment.entries, options.Admits v.1 → ¬ Dangerous OnOneLine v.2.toList := by
  constructor
  · rintro ⟨e, hnew⟩ v hmem hadmits
    obtain ⟨captured, hcapture, -⟩ := Outcome.map_eq_ok.1 hnew
    have hsafe := ((Environment.capture_eq_ok_iff hchecked).1 hcapture).2
    exact hsafe v (Environment.mem_visible.2 ⟨hmem, hadmits⟩)
  · intro hsafe
    refine ⟨_, Outcome.map_eq_ok.2 ⟨_, (Environment.capture_eq_ok_iff hchecked).2 ⟨rfl, ?_⟩, rfl⟩⟩
    intro v hv
    obtain ⟨hmem, hadmits⟩ := Environment.mem_visible.1 hv
    exact hsafe v hmem hadmits

/-- What an evaluator captures when it is checked. -/
theorem mem_environment_iff (hchecked : options.unchecked = false) {e : Evaluator}
    (hnew : Evaluator.new options environment = .ok e) {v : String × String} :
    v ∈ e.environment.entries ↔ v ∈ environment.entries ∧ options.Admits v.1 := by
  obtain ⟨captured, hcapture, rfl⟩ := Outcome.map_eq_ok.1 hnew
  obtain ⟨rfl, -⟩ := (Environment.capture_eq_ok_iff hchecked).1 hcapture
  exact Environment.mem_visible

/-- **An environment is captured exactly if it is harmless, as far as one line goes.**  With the
check switched on, the capture succeeds if and only if no captured value has a quote, a semicolon,
or a destructive word, a white-space character and behind it on the same line a thing that can be
destroyed; for values without line breaks, these are the values in which it comes anywhere behind.
A rejection names a captured variable with such a value.  On success exactly the captured variables
can be read.  And variables that are not captured change nothing. -/
theorem new_accepts_harmless (hchecked : options.unchecked = false) :
    ((∃ e, Evaluator.new options environment = .ok e) ↔
      ∀ v ∈ environment.entries, options.Admits v.1 → ¬ Dangerous OnOneLine v.2.toList) ∧
    ((∀ v ∈ environment.entries, options.Admits v.1 → OnOneLine v.2.toList) →
      ((∃ e, Evaluator.new options environment = .ok e) ↔
        ∀ v ∈ environment.entries, options.Admits v.1 → ¬ Dangerous AnyText v.2.toList)) ∧
    (∀ error, Evaluator.new options environment = .error error →
      ∃ v ∈ environment.entries, options.Admits v.1 ∧ Dangerous OnOneLine v.2.toList ∧
        error = .injection v.1) ∧
    (∀ e, Evaluator.new options environment = .ok e →
      (∀ name value, options.Admits name → environment.get? name = some value →
        Environment.lookup e.environment name = some value) ∧
      ∀ name value, Environment.lookup e.environment name = some value →
        ∃ v ∈ environment.entries, options.Admits v.1 ∧
          Text.asciiLower v.1.toList = Text.asciiLower name.toList ∧ v.2 = value) ∧
    ∀ other : Table String,
      (∀ name, options.Admits name → other.get? name = environment.get? name) →
        Evaluator.new options other = Evaluator.new options environment := by
  refine ⟨exists_new_iff hchecked, fun hlines => ?_, fun error hnew => ?_, fun e hnew => ⟨?_, ?_⟩,
    fun other hsame => ?_⟩
  · rw [exists_new_iff hchecked]
    refine forall₃_congr fun v hv hadmits => not_congr ?_
    exact Environment.dangerous_iff_of_onOneLine (hlines v hv hadmits)
  · have hcapture := Outcome.map_eq_error.1 hnew
    obtain ⟨v, hv, hdangerous, rfl⟩ := Environment.exists_of_capture_error hchecked hcapture
    obtain ⟨hmem, hadmits⟩ := Environment.mem_visible.1 hv
    exact ⟨v, hmem, hadmits, hdangerous, rfl⟩
  · intro name value hadmits hget
    refine Environment.lookup_of_get? (Table.get?_eq_some.2 ?_)
    exact (mem_environment_iff hchecked hnew).2 ⟨Table.get?_eq_some.1 hget, hadmits⟩
  · intro name value hlookup
    obtain ⟨v, hv, hsame, rfl⟩ := Environment.exists_of_lookup hlookup
    obtain ⟨hmem, hadmits⟩ := (mem_environment_iff hchecked hnew).1 hv
    exact ⟨v, hmem, hadmits, hsame, rfl⟩
  · exact congrArg (Except.map _) (Environment.capture_congr hsame)

/-- A variable that the allow-list leaves out may have any value. -/
theorem new_accepts_harmless_allowList :
    let options : CaptureOptions := ⟨some ["KEEP"], false⟩
    let environment := Table.ofList [("KEEP", "the table may drop off"), ("LEFT", "'quoted'")]
    options.unchecked = false ∧ ∃ e, Evaluator.new options environment = .ok e ∧
      Environment.lookup e.environment "KEEP" = some "the table may drop off" ∧
      Environment.lookup e.environment "LEFT" = none := by
  intro options environment
  have hadmits : options.Admits "KEEP" := by
    rintro names ⟨⟩
    decide
  have hsafe : ∀ v ∈ environment.entries, options.Admits v.1 →
      ¬ Dangerous OnOneLine v.2.toList := by
    intro v hv hname
    have hkeep : v.1 = "KEEP" := by simpa using hname ["KEEP"] rfl
    have hentries : ∀ v ∈ environment.entries, v.1 = "KEEP" →
        Environment.isHarmful v.2.toList = false := by
      decide +kernel
    rw [← Environment.isHarmful_iff, hentries v hv hkeep]
    exact Bool.false_ne_true
  have hchecked : options.unchecked = false := rfl
  obtain ⟨haccepts, -, -, hreads, -⟩ := @new_accepts_harmless options environment hchecked
  obtain ⟨e, hnew⟩ := haccepts.2 hsafe
  obtain ⟨hread, hcaptured⟩ := hreads e hnew
  refine ⟨rfl, e, hnew, hread "KEEP" _ hadmits (by decide +kernel), ?_⟩
  refine Option.eq_none_iff_forall_ne_some.2 fun value hvalue => ?_
  obtain ⟨v, -, hname, hsame, -⟩ := hcaptured "LEFT" value hvalue
  have hkeep : v.1 = "KEEP" := by simpa using hname ["KEEP"] rfl
  rw [hkeep] at hsame
  exact absurd hsame (by decide)

/-- A line break hides what is to be destroyed from the check. -/
theorem not_new_accepts_harmless_of_lineBreak :
    ¬ ∀ (options : CaptureOptions) (environment : Table String), options.unchecked = false →
      ((∃ e, Evaluator.new options environment = .ok e) ↔
        ∀ v ∈ environment.entries, options.Admits v.1 → ¬ Dangerous AnyText v.2.toList) := by
  intro h
  let environment := Table.ofList [("BAD", "drop \ntable users")]
  have haccepted : ∃ e, Evaluator.new Environment.defaultOptions environment = .ok e :=
    ⟨⟨environment, Table.empty⟩, by decide +kernel⟩
  have hdangerous : Dangerous AnyText "drop \ntable users".toList :=
    .inr (.inr ⟨[], "drop".toList, ' ', ['\n'], "table".toList, " users".toList, by decide,
      ⟨_, List.mem_cons_self, by decide⟩, by decide, trivial, _, List.mem_cons_self, by decide⟩)
  exact (h Environment.defaultOptions environment rfl).1 haccepted ("BAD", "drop \ntable users")
    (by decide) nofun hdangerous

end Evaluator

end StepScript
