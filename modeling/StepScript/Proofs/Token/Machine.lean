/-
# How the machine reads a tag

The classes of characters that start a word, continue it or stand in a literal, and the ways in
which the machine goes from one character to the next.
-/
import StepScript.Token

namespace StepScript

/-! ## Words and literals -/

/-- A character with which a word can start. -/
def CharClass.startsWord : CharClass → Bool
  | .blank | .escape | .quote | .closeBrace => false
  | _ => true

/-- A character with which a word can go on. -/
def CharClass.continuesWord : CharClass → Bool
  | .blank | .escape | .quote | .openBrace => false
  | _ => true

/-- A word. -/
def IsWordToken : List Char → Prop
  | [] => False
  | c :: rest => (classify c).startsWord ∧ ∀ d ∈ rest, (classify d).continuesWord

/-- What can stand between the quotes of a literal. -/
inductive LiteralBody : List Char → Prop
  | nil : LiteralBody []
  | plain {c : Char} {rest : List Char} (hescape : c ≠ '\\') (hquote : c ≠ '\'')
      (h : LiteralBody rest) : LiteralBody (c :: rest)
  | escaped {c : Char} {rest : List Char} (h : LiteralBody rest) : LiteralBody ('\\' :: c :: rest)

/-- A string literal. -/
def IsLiteralToken (token : List Char) : Prop :=
  ∃ body, LiteralBody body ∧ token = '\'' :: (body ++ ['\''])

/-- A word or a string literal. -/
def IsToken (token : List Char) : Prop :=
  IsWordToken token ∨ IsLiteralToken token

theorem LiteralBody.append {a b : List Char} (ha : LiteralBody a) (hb : LiteralBody b) :
    LiteralBody (a ++ b) := by
  induction ha with
  | nil => exact hb
  | plain hescape hquote _ ih => exact .plain hescape hquote ih
  | escaped _ ih => exact .escaped ih

/-! ## Classes -/

theorem classify_eq_escape {c : Char} : classify c = .escape ↔ c = '\\' := by
  constructor
  · intro h
    unfold classify at h
    split at h
    · cases h
    · split at h
      · assumption
      · grind
  · rintro rfl
    decide

theorem classify_eq_quote {c : Char} : classify c = .quote ↔ c = '\'' := by
  constructor
  · intro h
    unfold classify at h
    grind
  · rintro rfl
    decide

theorem classify_eq_openBrace {c : Char} : classify c = .openBrace ↔ c = '{' := by
  constructor
  · intro h
    unfold classify at h
    grind
  · rintro rfl
    decide

theorem classify_eq_closeBrace {c : Char} : classify c = .closeBrace ↔ c = '}' := by
  constructor
  · intro h
    unfold classify at h
    grind
  · rintro rfl
    decide

theorem classify_eq_blank {c : Char} : classify c = .blank ↔ Text.isBlank c = true := by
  unfold classify
  split <;> grind

/-- A word starts with any character but white space, a quote, a backslash and a closing brace. -/
theorem startsWord_classify {c : Char} : (classify c).startsWord = true ↔
    Text.isBlank c = false ∧ c ≠ '\'' ∧ c ≠ '\\' ∧ c ≠ '}' := by
  have hclass : ∀ kind : CharClass, kind.startsWord = true ↔
      kind ≠ .blank ∧ kind ≠ .quote ∧ kind ≠ .escape ∧ kind ≠ .closeBrace := by
    intro kind
    cases kind <;> decide
  rw [hclass, Ne, classify_eq_blank, Ne, classify_eq_quote, Ne, classify_eq_escape, Ne,
    classify_eq_closeBrace, Bool.not_eq_true]

/-- A word goes on with any character but white space, a quote, a backslash and an opening brace. -/
theorem continuesWord_classify {c : Char} : (classify c).continuesWord = true ↔
    Text.isBlank c = false ∧ c ≠ '\'' ∧ c ≠ '\\' ∧ c ≠ '{' := by
  have hclass : ∀ kind : CharClass, kind.continuesWord = true ↔
      kind ≠ .blank ∧ kind ≠ .quote ∧ kind ≠ .escape ∧ kind ≠ .openBrace := by
    intro kind
    cases kind <;> decide
  rw [hclass, Ne, classify_eq_blank, Ne, classify_eq_quote, Ne, classify_eq_escape, Ne,
    classify_eq_openBrace, Bool.not_eq_true]

/-! ## The machine -/

namespace Tokenizer

/-- The ways in which the machine can go from one character to the next. -/
inductive Moves (c : Char) : Tokenizer → Tokenizer → Prop
  | skip {complete current} (h : classify c = .blank) :
      Moves c ⟨.outside, complete, current⟩ ⟨.outside, complete, current⟩
  | startLiteral {complete current} (h : classify c = .quote) :
      Moves c ⟨.outside, complete, current⟩
        ⟨.inLiteral, tokens ⟨.outside, complete, current⟩, [c]⟩
  | startWord {complete current} (h : (classify c).startsWord) :
      Moves c ⟨.outside, complete, current⟩ ⟨.inWord, tokens ⟨.outside, complete, current⟩, [c]⟩
  | endWord {complete current} (h : classify c = .blank) :
      Moves c ⟨.inWord, complete, current⟩ ⟨.outside, complete, current⟩
  | continueWord {complete current} (h : (classify c).continuesWord) :
      Moves c ⟨.inWord, complete, current⟩ ⟨.inWord, complete, current ++ [c]⟩
  | startEscape {complete current} (h : classify c = .escape) :
      Moves c ⟨.inLiteral, complete, current⟩ ⟨.inEscape, complete, current ++ [c]⟩
  | endLiteral {complete current} (h : classify c = .quote) :
      Moves c ⟨.inLiteral, complete, current⟩ ⟨.outside, complete, current ++ [c]⟩
  | continueLiteral {complete current} (hescape : classify c ≠ .escape)
      (hquote : classify c ≠ .quote) :
      Moves c ⟨.inLiteral, complete, current⟩ ⟨.inLiteral, complete, current ++ [c]⟩
  | endEscape {complete current} :
      Moves c ⟨.inEscape, complete, current⟩ ⟨.inLiteral, complete, current ++ [c]⟩

/-- The machine moves in one of these ways if it takes a character. -/
theorem moves_of_step {t next : Tokenizer} {c : Char} (h : t.step c = some next) :
    Moves c t next := by
  obtain ⟨mode, complete, current⟩ := t
  -- the table of actions is read off for each mode and class of characters
  cases mode with
  | outside =>
    cases hclass : classify c <;>
      simp only [step, hclass, tokenActions, List.foldlM, perform, Option.bind_eq_bind,
        Option.bind_some, Option.pure_def, Option.some.injEq, reduceCtorEq,
        Option.bind_none] at h <;>
      subst h
    case blank => exact .skip hclass
    case quote => exact .startLiteral hclass
    all_goals exact .startWord (by rw [hclass]; rfl)
  | inWord =>
    cases hclass : classify c <;>
      simp only [step, hclass, tokenActions, List.foldlM, perform, Option.bind_eq_bind,
        Option.bind_some, Option.pure_def, Option.some.injEq, reduceCtorEq,
        Option.bind_none] at h <;>
      subst h
    case blank => exact .endWord hclass
    all_goals exact .continueWord (by rw [hclass]; rfl)
  | inLiteral =>
    cases hclass : classify c <;>
      simp only [step, hclass, tokenActions, List.foldlM, perform, Option.bind_eq_bind,
        Option.bind_some, Option.pure_def, Option.some.injEq] at h <;>
      subst h
    case escape => exact .startEscape hclass
    case quote => exact .endLiteral hclass
    all_goals exact .continueLiteral (by rw [hclass]; decide) (by rw [hclass]; decide)
  | inEscape =>
    cases hclass : classify c <;>
      simp only [step, hclass, tokenActions, List.foldlM, perform, Option.bind_eq_bind,
        Option.bind_some, Option.pure_def, Option.some.injEq] at h <;>
      subst h <;>
      exact .endEscape

/-- The machine takes a character in each of these ways. -/
theorem step_of_moves {t next : Tokenizer} {c : Char} (h : Moves c t next) :
    t.step c = some next := by
  cases h with
  | skip h => rw [step, h]; rfl
  | startLiteral h => rw [step, h]; rfl
  | startWord h =>
    cases hclass : classify c <;> rw [hclass] at h
    case blank | escape | quote | closeBrace => cases h
    all_goals rw [step, hclass]; rfl
  | endWord h => rw [step, h]; rfl
  | continueWord h =>
    cases hclass : classify c <;> rw [hclass] at h
    case blank | escape | quote | openBrace => cases h
    all_goals rw [step, hclass]; rfl
  | startEscape h => rw [step, h]; rfl
  | endLiteral h => rw [step, h]; rfl
  | continueLiteral hescape hquote =>
    cases hclass : classify c <;> rw [hclass] at hescape hquote
    case escape => exact absurd rfl hescape
    case quote => exact absurd rfl hquote
    all_goals rw [step, hclass]; rfl
  | endEscape => cases hclass : classify c <;> rw [step, hclass] <;> rfl

end Tokenizer

end StepScript
