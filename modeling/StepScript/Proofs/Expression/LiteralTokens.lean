/-
# Literals of a tag as expressions

A literal is read three times: the machine cuts it out of a tag, the check of arguments looks at its
quotes and lines, and the evaluator undoes its escapes.  Every literal the machine cuts out has a
value, and the check takes the ones that stand on one line.
-/
import StepScript.Proofs.Expression.Literal
import StepScript.Proofs.Token

namespace StepScript

namespace Literal

/-- What starts with a quote is no number. -/
theorem isNumber_of_quote (rest : List Char) : Reference.isNumber ('\'' :: rest) = false := by
  have hdecimal : Text.isDecimal '\'' = false := by decide
  show Reference.isUnsigned ('\'' :: rest) = false
  rw [Reference.isUnsigned, List.head?_cons, Option.any_some, hdecimal, Bool.false_and]

/-- What starts with a quote differs from a word by more than the case of its letters. -/
theorem sameLetters_of_quote {c : Char} (hc : Text.foldChar c ≠ '\'') (rest word : List Char) :
    Text.sameLetters ('\'' :: rest) (c :: word) = false := by
  have hfold : Text.foldChar '\'' = '\'' := by decide
  refine beq_eq_false_iff_ne.2 fun h => ?_
  rw [List.map_cons, List.map_cons, hfold] at h
  exact hc (List.cons.inj h).1.symm

/-- The check takes a literal for an expression if its body is on one line. -/
theorem isExpression_quoted {a : String} {body : List Char} (hbody : LiteralBody body)
    (ha : a.toList = '\'' :: (body ++ ['\''])) :
    Reference.isExpression a = true ↔ '\n' ∉ body := by
  unfold Reference.isExpression
  rw [IsToken.trim (.inr ⟨body, hbody, ha⟩), ha]
  have hsession : Reference.session? ('\'' :: (body ++ ['\''])) = none := rfl
  have hbraced : Reference.braced? ('\'' :: (body ++ ['\''])) = none := rfl
  have hline : body.all (· != '\n') = true ↔ '\n' ∉ body := by
    rw [List.all_eq_true]
    exact ⟨fun h hc => bne_iff_ne.1 (h _ hc) rfl, fun h c hc => bne_iff_ne.2 fun he => h (he ▸ hc)⟩
  dsimp only
  rw [isNumber_of_quote, hsession, hbraced, sameLetters_of_quote (by decide),
    sameLetters_of_quote (by decide), literal?_quoted, ← hline]
  simp

/-- A literal is on one line if its body is. -/
theorem lineBreak_mem_quoted {a : String} {body : List Char}
    (ha : a.toList = '\'' :: (body ++ ['\''])) : '\n' ∈ a.toList ↔ '\n' ∈ body := by
  rw [ha]
  simp

end Literal

/-- A token in the place of an expression: the check takes it if it stands on one line, and in any
case it has the same value for every evaluator. -/
structure LiteralArgument (token : String) : Prop where
  expression : Reference.isExpression token = true ↔ '\n' ∉ token.toList
  argument : ArgumentKind.expression.accepts token = true ↔ '\n' ∉ token.toList
  /-- In a condition of an iteration, if the rest of the condition is accepted. -/
  condition : ∀ mode field operator rest,
    Command.acceptsConditions (mode :: field :: operator :: token :: rest) = true ↔
      Command.acceptsConditions (mode :: field :: operator :: "''" :: rest) = true ∧
        '\n' ∉ token.toList
  /-- Its value is what stands between its quotes, without the backslashes of the escapes. -/
  value : ∃ body content, token.toList = '\'' :: (body ++ ['\'']) ∧
    Evaluator.unescape? body = some content ∧
      ∀ e : Evaluator, e.evaluate (.text token) = .ok (.text (String.ofList content))

/-- A token that starts with a quote is a literal. -/
theorem IsToken.isLiteralToken {token : List Char} (h : IsToken token)
    (hquote : token.head? = some '\'') : IsLiteralToken token := by
  refine h.resolve_left fun hword => ?_
  obtain ⟨rest, rfl⟩ := List.head?_eq_some_iff.1 hquote
  exact absurd hword.1 (by decide)

theorem IsLiteralToken.literalArgument {token : String} (h : IsLiteralToken token.toList) :
    LiteralArgument token := by
  obtain ⟨body, hbody, htext⟩ := h
  obtain ⟨content, hcontent⟩ := exists_unescape hbody
  have hexpression : Reference.isExpression token = true ↔ '\n' ∉ token.toList := by
    rw [Literal.isExpression_quoted hbody htext, Literal.lineBreak_mem_quoted htext]
  have hempty : Reference.isExpression "''" = true :=
    (Literal.isExpression_quoted .nil (by decide +kernel)).2 (List.not_mem_nil)
  refine ⟨hexpression, ?_, fun mode field operator rest => ?_, body, content, htext, hcontent,
    fun e => Literal.evaluate_quoted e hbody htext hcontent⟩
  · show Reference.isExpression (Text.trimmed token) = true ↔ _
    rw [IsToken.trimmed (.inr ⟨body, hbody, htext⟩), hexpression]
  · rw [Command.acceptsConditions, Command.acceptsConditions]
    simp only [Bool.and_eq_true, hexpression, hempty, and_true]
    exact and_right_comm

/-- **Every literal of a tag is an expression, if it stands on one line.**  The check takes it
wherever an expression is asked for, and it has a value, the same for every evaluator. -/
theorem literal_tokens_are_expressions {tag : String} {tokens : List String} {token : String}
    (htokens : tokenize tag = .ok tokens) (htoken : token ∈ tokens)
    (hquote : token.toList.head? = some '\'') : LiteralArgument token := by
  obtain ⟨list, hlist, rfl⟩ := Outcome.map_eq_ok.1 htokens
  obtain ⟨chars, hchars, rfl⟩ := List.mem_map.1 htoken
  refine IsLiteralToken.literalArgument ?_
  rw [String.toList_ofList] at hquote ⊢
  exact (isToken_of_tokenizeChars hlist chars hchars).isLiteralToken hquote

/-- A literal with escaped quotes and backslashes, and with what could be taken for a reference. -/
theorem literal_tokens_are_expressions_escapes :
    tokenize "assign x 'it\\'s {a} :b \\\\'" = .ok ["assign", "x", "'it\\'s {a} :b \\\\'"] ∧
      LiteralArgument "'it\\'s {a} :b \\\\'" := by
  have htokens : tokenize "assign x 'it\\'s {a} :b \\\\'" =
      .ok ["assign", "x", "'it\\'s {a} :b \\\\'"] := by decide +kernel
  exact ⟨htokens, literal_tokens_are_expressions htokens (by simp) (by decide +kernel)⟩

/-- A literal over two lines is a token, and no expression for the check. -/
theorem not_literal_tokens_are_expressions_of_lineBreak :
    ¬ ∀ (tag : String) (tokens : List String) (token : String), tokenize tag = .ok tokens →
      token ∈ tokens → token.toList.head? = some '\'' → Reference.isExpression token = true := by
  intro h
  have htokens : tokenize "assign x 'a\nb'" = .ok ["assign", "x", "'a\nb'"] := by decide +kernel
  have haccepted := h _ _ "'a\nb'" htokens (by simp) (by decide +kernel)
  exact absurd haccepted (by decide +kernel)

end StepScript
