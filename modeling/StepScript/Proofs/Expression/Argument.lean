/-
# What the arguments of a tag evaluate to

The arguments of a tag are checked as they stand in the tag, and used after they were evaluated.
Every token has a value.  The words that commands look at (operators, names, modes and actions) have
no mark of a reference or a literal in front and evaluate to themselves.
-/
import StepScript.Command.Basic
import StepScript.Proofs.Text.Character
import StepScript.Proofs.Token

namespace StepScript

/-! ## White space around tokens -/

theorem isBlank_eq_false {c : Char} (h : classify c ≠ .blank) : Text.isBlank c = false := by
  unfold classify at h
  split at h
  · exact absurd rfl h
  · rename_i hblank
    exact Bool.eq_false_iff.2 hblank

theorem IsWordToken.not_blank {token : List Char} (h : IsWordToken token) :
    ∀ c ∈ token, Text.isBlank c = false := by
  cases token with
  | nil => exact h.elim
  | cons d rest =>
    intro c hc
    apply isBlank_eq_false
    intro hblank
    rcases List.mem_cons.1 hc with rfl | hc
    · have := h.1
      rw [hblank] at this
      cases this
    · have := h.2 c hc
      rw [hblank] at this
      cases this

/-- There is no white space around a token. -/
theorem IsToken.trim {token : List Char} (h : IsToken token) : Text.trim token = token := by
  rcases h with h | ⟨body, _, rfl⟩
  · refine Text.trim_of_ends ?_ ?_
    · intro c hc
      exact h.not_blank c (List.mem_of_mem_head? hc)
    · intro c hc
      exact h.not_blank c (List.mem_of_mem_getLast? hc)
  · have hquote : Text.isBlank '\'' = false := by decide
    refine Text.trim_of_ends ?_ ?_
    · rintro c ⟨⟩
      exact hquote
    · intro c hc
      rw [← List.cons_append, List.getLast?_append_cons] at hc
      obtain rfl : '\'' = c := by simpa using hc
      exact hquote

theorem IsToken.trimmed {a : String} (h : IsToken a.toList) : Text.trimmed a = a := by
  unfold Text.trimmed
  rw [h.trim, String.ofList_toList]

/-! ## Every token has a value -/

/-- Any character but a backslash stands for itself. -/
theorem Evaluator.unescape?_cons_of_ne {c : Char} (hc : c ≠ '\\') (rest : List Char) :
    unescape? (c :: rest) = (unescape? rest).map (c :: ·) := by
  rw [unescape?, if_neg hc]
  rintro d behind rfl
  exact absurd rfl hc

theorem exists_unescape {body : List Char} (h : LiteralBody body) :
    ∃ content, Evaluator.unescape? body = some content := by
  induction h with
  | nil => exact ⟨[], rfl⟩
  | @plain c rest hescape hquote _ ih =>
    obtain ⟨content, hcontent⟩ := ih
    refine ⟨c :: content, ?_⟩
    rw [Evaluator.unescape?_cons_of_ne hescape, hcontent]
    rfl
  | @escaped c rest _ ih =>
    obtain ⟨content, hcontent⟩ := ih
    refine ⟨c :: content, ?_⟩
    rw [Evaluator.unescape?, hcontent]
    rfl

/-- What stands between the quotes of a token can be unescaped. -/
theorem IsToken.exists_unescape_literal {token inner : List Char} (h : IsToken token)
    (hinner : Reference.literal? token = some inner) :
    ∃ content, Evaluator.unescape? inner = some content := by
  rcases h with h | ⟨body, hbody, rfl⟩
  · cases token with
    | nil => exact h.elim
    | cons c rest =>
      have hc : c ≠ '\'' := by
        rintro rfl
        exact absurd h.1 (by decide)
      rw [Reference.literal?] at hinner
      · cases hinner
      · rintro r ⟨rfl, _⟩
        exact hc rfl
  · rw [Reference.literal?, List.getLast?_append_cons, List.dropLast_concat] at hinner
    cases hinner
    exact exists_unescape hbody

namespace Evaluator

/-- **Every token has a value.** -/
theorem exists_evaluate (e : Evaluator) {a : String} (h : IsToken a.toList) :
    ∃ v, e.evaluate (.text a) = .ok v := by
  show ∃ v, e.evaluateText a = .ok v
  unfold evaluateText
  dsimp only
  rw [h.trim]
  split
  · exact ⟨_, rfl⟩
  · split
    · exact ⟨_, rfl⟩
    · split
      · exact ⟨_, rfl⟩
      · split
        · exact ⟨_, rfl⟩
        · split
          · rename_i inner hinner
            obtain ⟨content, hcontent⟩ := h.exists_unescape_literal hinner
            rw [hcontent]
            exact ⟨_, rfl⟩
          · exact ⟨_, rfl⟩

end Evaluator

/-! ## Words without a mark -/

/-- A text that starts with no mark of a reference or a literal. -/
def IsBare (s : List Char) : Prop :=
  ∀ c ∈ s.head?, c ≠ ':' ∧ c ≠ '{' ∧ c ≠ '\''

theorem isBare_cons {c : Char} {rest : List Char} :
    IsBare (c :: rest) ↔ c ≠ ':' ∧ c ≠ '{' ∧ c ≠ '\'' := by
  constructor
  · intro h
    exact h c rfl
  · rintro h _ ⟨⟩
    exact h

instance (s : List Char) : Decidable (IsBare s) :=
  match s with
  | [] => isTrue nofun
  | _ :: _ => decidable_of_iff' _ isBare_cons

namespace IsBare

variable {s : List Char}

/-- An environment reference starts with a colon. -/
theorem environment (h : IsBare s) : Reference.environment? s = none := by
  cases s with
  | nil => rfl
  | cons c rest =>
    have hc : Text.foldChar ':' ≠ Text.foldChar c := by
      intro hfold
      exact (h c rfl).1 (Text.foldChar_eq_colon hfold.symm)
    unfold Reference.environment? Reference.environmentMark
    rw [Reference.afterFolded?, if_neg hc]
    rfl

theorem session (h : IsBare s) : Reference.session? s = none := by
  cases s with
  | nil => rfl
  | cons c rest =>
    rw [Reference.session?]
    rintro r ⟨rfl, _⟩
    exact (h ':' rfl).1 rfl

theorem braced (h : IsBare s) : Reference.braced? s = none := by
  cases s with
  | nil => rfl
  | cons c rest =>
    rw [Reference.braced?]
    rintro r ⟨rfl, _⟩
    exact (h '{' rfl).2.1 rfl

theorem literal (h : IsBare s) : Reference.literal? s = none := by
  cases s with
  | nil => rfl
  | cons c rest =>
    rw [Reference.literal?]
    rintro r ⟨rfl, _⟩
    exact (h '\'' rfl).2.2 rfl

end IsBare

theorem Reference.isName_of_isVariableName {name : String} (h : isVariableName name = true) :
    Text.isName name.toList = true := by
  simp only [isVariableName, Bool.and_eq_true] at h
  exact h.1.1

/-- A name starts with no mark. -/
theorem isBare_of_isName {s : List Char} (h : Text.isName s = true) : IsBare s := by
  intro c hc
  have hword : Text.isWord c = true := by
    simp only [Text.isName, Bool.and_eq_true, List.all_eq_true] at h
    exact h.2 c (List.mem_of_mem_head? hc)
  refine ⟨?_, ?_, ?_⟩ <;>
    · rintro rfl
      exact absurd hword (by decide)

/-- The words for truth values. -/
def IsTruthWord (s : List Char) : Prop :=
  Text.asciiLower s = ['t', 'r', 'u', 'e'] ∨ Text.asciiLower s = ['f', 'a', 'l', 's', 'e']

namespace Evaluator

/-- A word without a mark is a truth value or stands for itself. -/
theorem evaluate_of_isBare (e : Evaluator) {a : String} (ht : IsToken a.toList)
    (h : IsBare a.toList) :
    e.evaluate (.text a) = .ok
      (if Text.asciiLower a.toList = ['t', 'r', 'u', 'e'] then .boolean true
      else if Text.asciiLower a.toList = ['f', 'a', 'l', 's', 'e'] then .boolean false
      else .text a) := by
  unfold evaluate evaluateText
  simp only [ht.trim, h.environment, h.session, h.braced, h.literal, Option.orElse_eq_orElse,
    Option.orElse_none, String.ofList_toList]
  split
  · rfl
  · split <;> rfl

theorem evaluate_of_not_truth (e : Evaluator) {a : String} (ht : IsToken a.toList)
    (h : IsBare a.toList) (htruth : ¬ IsTruthWord a.toList) :
    e.evaluate (.text a) = .ok (.text a) := by
  rw [e.evaluate_of_isBare ht h, if_neg fun h => htruth (.inl h), if_neg fun h => htruth (.inr h)]

/-- A word is known by its lower-case form not to be a reference, a literal or a truth value. -/
theorem evaluate_of_lower (e : Evaluator) {a : String} (ht : IsToken a.toList)
    (hbare : IsBare (Text.lower a).toList) (htrue : Text.lower a ≠ "true")
    (hfalse : Text.lower a ≠ "false") : e.evaluate (.text a) = .ok (.text a) := by
  refine e.evaluate_of_not_truth ht ?_ ?_
  · intro c hc
    -- the marks are their own lower-case forms, so one in front stays there
    have hmark : ∀ {mark : Char}, mark.toNat < 0x80 → mark.toLower = mark → c = mark →
        mark ∈ (Text.lower a).toList.head? := by
      rintro mark hascii hlower rfl
      obtain ⟨rest, hrest⟩ := List.head?_eq_some_iff.1 hc
      rw [Text.lower, String.toList_ofList, hrest, Text.head_lowerAfter hascii, hlower]
      rfl
    refine ⟨fun h => ?_, fun h => ?_, fun h => ?_⟩
    · exact (hbare ':' (hmark (by decide) (by decide) h)).1 rfl
    · exact (hbare '{' (hmark (by decide) (by decide) h)).2.1 rfl
    · exact (hbare '\'' (hmark (by decide) (by decide) h)).2.2 rfl
  · rintro (h | h)
    · exact htrue (Text.lower_of_asciiLower h (by decide +kernel))
    · exact hfalse (Text.lower_of_asciiLower h (by decide +kernel))

theorem evaluate_operator (e : Evaluator) {a : String} {op : Operator} (ht : IsToken a.toList)
    (h : Operator.read a = .ok op) : e.evaluate (.text a) = .ok (.text a) := by
  have hsymbol : op.symbol = a := by
    unfold Operator.read at h
    dsimp only at h
    split at h
    · rename_i found hfound
      cases h
      have hname := List.find?_some hfound
      rw [ht.trimmed] at hname
      exact eq_of_beq hname
    · cases h
  subst hsymbol
  cases op <;>
    exact e.evaluate_of_lower ht (by decide +kernel) (by decide +kernel) (by decide +kernel)

theorem evaluate_handlerAction (e : Evaluator) {a : String} {action : HandlerAction}
    (ht : IsToken a.toList) (h : HandlerAction.read a = .ok action) :
    e.evaluate (.text a) = .ok (.text a) := by
  unfold HandlerAction.read at h
  rw [ht.trimmed] at h
  generalize hname : Text.lower a = name at h
  have hcases : name = "continue" ∨ name = "exit_step" ∨ name = "execute" ∨ name = "fail" := by
    grind
  refine e.evaluate_of_lower ht ?_ ?_ ?_ <;>
    rw [hname] <;>
    rcases hcases with rfl | rfl | rfl | rfl <;>
    decide +kernel

theorem evaluate_conditionMode (e : Evaluator) {a : String} {mode : ConditionMode}
    (ht : IsToken a.toList) (h : Condition.readMode a = .ok mode) :
    e.evaluate (.text a) = .ok (.text a) := by
  unfold Condition.readMode at h
  generalize hname : Text.lower a = name at h
  have hcases : name = "include" ∨ name = "exclude" := by grind
  refine e.evaluate_of_lower ht ?_ ?_ ?_ <;>
    rw [hname] <;>
    rcases hcases with rfl | rfl <;>
    decide +kernel

/-- The value of the name of a variable spells the name of a variable. -/
theorem evaluate_variableName (e : Evaluator) {a : String} (ht : IsToken a.toList)
    (h : Reference.isVariableName a = true) :
    ∃ v, e.evaluate (.text a) = .ok v ∧ Reference.isVariableName v.display = true := by
  rw [e.evaluate_of_isBare ht (isBare_of_isName (Reference.isName_of_isVariableName h))]
  split
  · exact ⟨_, rfl, by decide⟩
  · split
    · exact ⟨_, rfl, by decide⟩
    · exact ⟨_, rfl, h⟩

end Evaluator

end StepScript
