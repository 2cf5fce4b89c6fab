/-
# Evaluating a value again

The value of an expression may look like an expression itself: a literal can hold the text of a
reference, and so can a variable.  Evaluated again, such a value becomes another one.  The values
that stay what they are, the settled ones, are those that are no texts, the texts that are no
expressions of anything else, and the texts of references to variables that hold these very texts.
-/
import StepScript.Proofs.Expression.Argument

namespace StepScript

/-! ## Settled values -/

/-- A text in one of the three forms of a reference to a variable. -/
def Reference.IsReference (s : List Char) : Prop :=
  (environment? s).isSome = true ∨ (session? s).isSome = true ∨ (braced? s).isSome = true

/-- A text that stands for itself: without white space around it, and neither a reference nor a
word for a truth value nor a literal. -/
structure IsPlain (s : List Char) : Prop where
  trimmed : Text.trim s = s
  reference : ¬ Reference.IsReference s
  truth : ¬ IsTruthWord s
  literal : Reference.literal? s = none

namespace Evaluator

/-- What the variable holds that a text refers to. -/
def referent? (e : Evaluator) (s : List Char) : Option Value :=
  match Reference.environment? s with
  | some name => (Environment.lookup e.environment (String.ofList name)).map .text
  | none =>
    (Reference.session? s <|> Reference.braced? s).bind fun name =>
      e.session.get? (String.ofList name)

/-- A value that is no text, a text that stands for itself, or a reference to a variable that holds
the text of this very reference. -/
def IsSettled (e : Evaluator) : Value → Prop
  | .text s => IsPlain s.toList ∨ e.referent? (Text.trim s.toList) = some (.text s)
  | _ => True

/-! ## The forms of a text -/

/-- A reference has the value of its variable, or none. -/
theorem evaluateText_of_reference (e : Evaluator) {s : String}
    (h : Reference.IsReference (Text.trim s.toList)) :
    e.evaluateText s = .ok ((e.referent? (Text.trim s.toList)).getD .null) := by
  unfold evaluateText referent?
  dsimp only
  cases henvironment : Reference.environment? (Text.trim s.toList) with
  | some name =>
    rfl
  | none =>
    cases hsession : (Reference.session? (Text.trim s.toList) <|>
        Reference.braced? (Text.trim s.toList)) with
    | some name => rfl
    | none =>
      rw [Option.orElse_eq_orElse, Option.orElse_eq_or, Option.or_eq_none_iff] at hsession
      rcases h with h | h | h
      · rw [henvironment] at h
        cases h
      · rw [hsession.1] at h
        cases h
      · rw [hsession.2] at h
        cases h

/-- Any other text is a truth value, a literal or a text that stands for itself but for the white
space around it. -/
theorem evaluateText_of_not_reference (e : Evaluator) {s : String}
    (h : ¬ Reference.IsReference (Text.trim s.toList)) :
    e.evaluateText s =
      if Text.asciiLower (Text.trim s.toList) = ['t', 'r', 'u', 'e'] then .ok (.boolean true)
      else if Text.asciiLower (Text.trim s.toList) = ['f', 'a', 'l', 's', 'e'] then
        .ok (.boolean false)
      else
        match Reference.literal? (Text.trim s.toList) with
        | some inner =>
          match unescape? inner with
          | some content => .ok (.text (String.ofList content))
          | none => .error (.expression ("dangling escape in '" ++ String.ofList inner ++ "'"))
        | none => .ok (.text (String.ofList (Text.trim s.toList))) := by
  simp only [Reference.IsReference, not_or, Option.not_isSome_iff_eq_none] at h
  unfold evaluateText
  dsimp only
  rw [h.1, h.2.1, h.2.2]
  rfl

/-- Unescaping does not make a text longer. -/
theorem length_unescape_le {s content : List Char} (h : unescape? s = some content) :
    content.length ≤ s.length := by
  induction s using unescape?.induct generalizing content with
  | case1 =>
    cases h
    exact Nat.le_refl 0
  | case2 c rest ih =>
    rw [unescape?] at h
    obtain ⟨tail, htail, rfl⟩ := Option.map_eq_some_iff.1 h
    have := ih htail
    simp only [List.length_cons]
    omega
  | case3 rest hlast =>
    rw [unescape?, if_pos rfl] at h
    · cases h
    · exact hlast
  | case4 c rest _ hc ih =>
    rw [unescape?_cons_of_ne hc] at h
    obtain ⟨tail, htail, rfl⟩ := Option.map_eq_some_iff.1 h
    exact Nat.succ_le_succ (ih htail)

/-- What stands between quotes is shorter than with the quotes. -/
theorem length_literal {s inner : List Char} (h : Reference.literal? s = some inner) :
    inner.length < s.length := by
  unfold Reference.literal? at h
  split at h
  · split at h
    · cases h
      rw [List.length_dropLast, List.length_cons]
      omega
    · cases h
  · cases h

/-- A literal is longer than the text it stands for. -/
theorem unescape_literal_ne {s : String} {inner content : List Char}
    (hinner : Reference.literal? (Text.trim s.toList) = some inner)
    (hcontent : unescape? inner = some content) : String.ofList content ≠ s := by
  rintro rfl
  have hinside := length_literal hinner
  have htrim := Text.length_trim_le (String.ofList content).toList
  have hunescape := length_unescape_le hcontent
  rw [String.toList_ofList] at hinside htrim
  omega

/-! ## What evaluation leaves alone -/

theorem evaluateText_eq_self_of_reference (e : Evaluator) {s : String}
    (h : Reference.IsReference (Text.trim s.toList)) :
    e.evaluateText s = .ok (.text s) ↔ e.IsSettled (.text s) := by
  have hplain : ¬ IsPlain s.toList := by
    intro hplain
    rw [hplain.trimmed] at h
    exact hplain.reference h
  rw [e.evaluateText_of_reference h, Except.ok.injEq]
  show _ ↔ _ ∨ _
  rw [or_iff_right hplain]
  cases e.referent? (Text.trim s.toList) with
  | none => simp
  | some v => simp

theorem evaluateText_eq_self_of_not_reference (e : Evaluator) {s : String}
    (h : ¬ Reference.IsReference (Text.trim s.toList)) :
    e.evaluateText s = .ok (.text s) ↔ e.IsSettled (.text s) := by
  have hreferent : e.referent? (Text.trim s.toList) = none := by
    simp only [Reference.IsReference, not_or, Option.not_isSome_iff_eq_none] at h
    unfold referent?
    rw [h.1, h.2.1, h.2.2]
    rfl
  show _ ↔ _ ∨ _
  rw [hreferent, or_iff_left (by simp), e.evaluateText_of_not_reference h]
  by_cases htruth : IsTruthWord (Text.trim s.toList)
  · -- a truth value is no text, and its word is not plain
    refine iff_of_false ?_ ?_
    · rcases htruth with htrue | hfalse
      · rw [if_pos htrue]
        simp
      · rw [if_neg (by rw [hfalse]; decide), if_pos hfalse]
        simp
    · intro hplain
      rw [hplain.trimmed] at htruth
      exact hplain.truth htruth
  · rw [if_neg fun htrue => htruth (.inl htrue), if_neg fun hfalse => htruth (.inr hfalse)]
    cases hliteral : Reference.literal? (Text.trim s.toList) with
    | some inner =>
      refine iff_of_false ?_ ?_
      · dsimp only
        cases hcontent : unescape? inner with
        | none => simp
        | some content => simpa using unescape_literal_ne hliteral hcontent
      · intro hplain
        rw [hplain.trimmed, hplain.literal] at hliteral
        cases hliteral
    | none =>
      constructor
      · intro hself
        have htrimmed : Text.trim s.toList = s.toList := by
          have : String.ofList (Text.trim s.toList) = s := by simpa using hself
          rw [← this, String.toList_ofList, Text.trim_trim]
        rw [htrimmed] at h htruth hliteral
        exact ⟨htrimmed, h, htruth, hliteral⟩
      · intro hplain
        rw [hplain.trimmed, String.ofList_toList]

/-- **The values that evaluation leaves alone** are the settled ones. -/
theorem evaluate_eq_self_iff (e : Evaluator) (w : Value) :
    e.evaluate w = .ok w ↔ e.IsSettled w := by
  cases w with
  | text s =>
    by_cases h : Reference.IsReference (Text.trim s.toList)
    · exact e.evaluateText_eq_self_of_reference h
    · exact e.evaluateText_eq_self_of_not_reference h
  | _ => exact iff_of_true rfl trivial

/-! ## Evaluating twice -/

/-- What is neither a reference nor a literal has a settled value. -/
theorem isSettled_of_not_reference (e : Evaluator) {s : String} {w : Value}
    (hreference : ¬ Reference.IsReference (Text.trim s.toList))
    (hliteral : Reference.literal? (Text.trim s.toList) = none)
    (h : e.evaluate (.text s) = .ok w) : e.IsSettled w := by
  change e.evaluateText s = .ok w at h
  rw [e.evaluateText_of_not_reference hreference, hliteral] at h
  split at h
  · cases h
    trivial
  · rename_i htrue
    split at h
    · cases h
      trivial
    · rename_i hfalse
      cases h
      refine .inl ?_
      rw [String.toList_ofList]
      refine ⟨Text.trim_trim s.toList, hreference, ?_, hliteral⟩
      rintro (h | h)
      · exact htrue h
      · exact hfalse h

/-- Expressions are compared by their values. -/
theorem compare_of_evaluate (e : Evaluator) {a b a' b' : Value} (ha : e.evaluate a = .ok a')
    (hb : e.evaluate b = .ok b') (operator : String) : e.compare operator a b =
      Operator.read operator >>= fun op => op.compareValues a' b' := by
  unfold compare
  rw [ha, hb]
  rfl

/-- **Evaluating twice.**  The value of an expression is its own value exactly if it is settled.  It
is so unless the expression is a reference or a literal; and where it is, comparing values comes to
the same as comparing the expressions. -/
theorem evaluate_evaluate (e : Evaluator) {v w : Value} (h : e.evaluate v = .ok w) :
    (e.evaluate w = .ok w ↔ e.IsSettled w) ∧
    ((∀ s, v = .text s → ¬ Reference.IsReference (Text.trim s.toList) ∧
      Reference.literal? (Text.trim s.toList) = none) → e.evaluate w = .ok w) ∧
    ∀ (operator : String) (v' w' : Value), e.evaluate v' = .ok w' → e.IsSettled w → e.IsSettled w' →
      e.compare operator w w' = e.compare operator v v' := by
  refine ⟨e.evaluate_eq_self_iff w, ?_, ?_⟩
  · intro hform
    rw [e.evaluate_eq_self_iff w]
    cases v with
    | text s => exact e.isSettled_of_not_reference (hform s rfl).1 (hform s rfl).2 h
    | _ =>
      cases h
      trivial
  · intro operator v' w' h' hw hw'
    rw [← e.evaluate_eq_self_iff] at hw hw'
    rw [e.compare_of_evaluate hw hw', e.compare_of_evaluate h h']

/-- The text that a variable holds is settled if it is plain. -/
theorem evaluate_evaluate_plain_variable :
    let e : Evaluator := ⟨Table.empty, Table.empty.insert "x" (.text "turkey")⟩
    e.evaluate (.text ":x") = .ok (.text "turkey") ∧ e.IsSettled (.text "turkey") ∧
      e.evaluate (.text "turkey") = .ok (.text "turkey") := by
  intro e
  have hvalue : e.evaluate (.text ":x") = .ok (.text "turkey") := by decide +kernel
  have hsettled : e.IsSettled (.text "turkey") := by
    refine .inl ⟨by decide +kernel, ?_, ?_, by decide +kernel⟩
    · unfold Reference.IsReference
      decide +kernel
    · unfold IsTruthWord
      decide +kernel
  exact ⟨hvalue, hsettled, (e.evaluate_evaluate hvalue).1.2 hsettled⟩

/-- A literal that holds the text of a reference stands for that text, which stands for what the
variable holds. -/
theorem not_evaluate_evaluate_of_quoted_reference :
    ¬ ∀ (e : Evaluator) (v w : Value), e.evaluate v = .ok w → e.evaluate w = .ok w := by
  intro h
  have hagain := h ⟨Table.empty, Table.empty⟩ (.text "':x'") (.text ":x") (by decide +kernel)
  revert hagain
  decide +kernel

end Evaluator

end StepScript
