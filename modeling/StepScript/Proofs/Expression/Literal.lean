/-
# Writing a text as a literal

Between quotes, and with a backslash in front of each of its own quotes and backslashes, every text
is a literal.  In a line of tokens the literal is one token, exactly as it was written, and its
value is the text, whatever that looks like itself.
-/
import StepScript.Proofs.Expression.Reevaluation

namespace StepScript

namespace Literal

/-- A text with a backslash in front of each quote and each backslash. -/
def escape (s : List Char) : List Char :=
  s.flatMap fun c => if c = '\\' ∨ c = '\'' then ['\\', c] else [c]

/-- A text as a literal. -/
def write (s : String) : String :=
  String.ofList ('\'' :: (escape s.toList ++ ['\'']))

theorem toList_write (s : String) : (write s).toList = '\'' :: (escape s.toList ++ ['\'']) :=
  String.toList_ofList

/-! ## Escaping -/

@[simp]
theorem escape_nil : escape [] = [] := rfl

theorem escape_marked {c : Char} (h : c = '\\' ∨ c = '\'') (rest : List Char) :
    escape (c :: rest) = '\\' :: c :: escape rest := by
  rw [escape, List.flatMap_cons, if_pos h]
  rfl

theorem escape_plain {c : Char} (h : ¬ (c = '\\' ∨ c = '\'')) (rest : List Char) :
    escape (c :: rest) = c :: escape rest := by
  rw [escape, List.flatMap_cons, if_neg h]
  rfl

/-- An escaped text can stand between quotes. -/
theorem literalBody_escape (s : List Char) : LiteralBody (escape s) := by
  induction s with
  | nil => exact .nil
  | cons c rest ih =>
    by_cases h : c = '\\' ∨ c = '\''
    · rw [escape_marked h]
      exact .escaped ih
    · rw [escape_plain h]
      exact .plain (fun hc => h (.inl hc)) (fun hc => h (.inr hc)) ih

/-- Unescaping undoes escaping. -/
theorem unescape_escape (s : List Char) : Evaluator.unescape? (escape s) = some s := by
  induction s with
  | nil => rfl
  | cons c rest ih =>
    by_cases h : c = '\\' ∨ c = '\''
    · rw [escape_marked h, Evaluator.unescape?, ih]
      rfl
    · have hc : c ≠ '\\' := fun hc => h (.inl hc)
      rw [escape_plain h, Evaluator.unescape?_cons_of_ne hc, ih]
      rfl

/-! ## The literal as a token and as an expression -/

theorem isToken_write (s : String) : IsToken (write s).toList := by
  rw [toList_write]
  exact .inr ⟨escape s.toList, literalBody_escape s.toList, rfl⟩

/-- What stands between the quotes is the body. -/
theorem literal?_quoted (body : List Char) :
    Reference.literal? ('\'' :: (body ++ ['\''])) = some body := by
  rw [Reference.literal?, List.getLast?_append_cons, List.dropLast_concat]
  rfl

/-- What starts with a quote is no reference. -/
theorem not_isReference_of_quote (rest : List Char) : ¬ Reference.IsReference ('\'' :: rest) := by
  have hfold : Text.foldChar ':' ≠ Text.foldChar '\'' := by decide
  have henvironment : Reference.environment? ('\'' :: rest) = none := by
    rw [Reference.environment?, Reference.environmentMark, Reference.afterFolded?, if_neg hfold]
    rfl
  rw [Reference.IsReference, henvironment]
  rintro (h | h | h) <;> cases h

/-- What starts with a quote is no word for a truth value. -/
theorem asciiLower_of_quote_ne {c : Char} (hc : c ≠ '\'') (rest word : List Char) :
    Text.asciiLower ('\'' :: rest) ≠ c :: word := by
  intro h
  have hhead : '\''.toLower = c := (List.cons.inj h).1
  exact hc (hhead.symm.trans (by decide))

/-- The value of a literal is its body without the backslashes of the escapes. -/
theorem evaluate_quoted (e : Evaluator) {a : String} {body content : List Char}
    (hbody : LiteralBody body) (ha : a.toList = '\'' :: (body ++ ['\'']))
    (hcontent : Evaluator.unescape? body = some content) :
    e.evaluate (.text a) = .ok (.text (String.ofList content)) := by
  have htrim : Text.trim a.toList = '\'' :: (body ++ ['\'']) := by
    rw [IsToken.trim (.inr ⟨body, hbody, ha⟩), ha]
  have hreference : ¬ Reference.IsReference (Text.trim a.toList) := by
    rw [htrim]
    exact not_isReference_of_quote _
  show e.evaluateText a = _
  rw [e.evaluateText_of_not_reference hreference, htrim,
    if_neg (asciiLower_of_quote_ne (by decide) _ _),
    if_neg (asciiLower_of_quote_ne (by decide) _ _), literal?_quoted]
  dsimp only
  rw [hcontent]

/-- The value of a literal is the text it was written for. -/
theorem evaluate_write (e : Evaluator) (s : String) :
    e.evaluate (.text (write s)) = .ok (.text s) := by
  rw [evaluate_quoted e (literalBody_escape s.toList) (toList_write s) (unescape_escape s.toList),
    String.ofList_toList]

/-- **Every text can be written as a literal and read back.**  Behind other tokens in a line, the
literal is read as one token as it stands, and for every evaluator its value is the text. -/
theorem write_reads_back (s : String) :
    (∀ tokens : List String, (∀ token ∈ tokens, IsToken token.toList) →
      tokenize (" ".intercalate (tokens ++ [write s])) = .ok (tokens ++ [write s])) ∧
    ∀ e : Evaluator, e.evaluate (.text (write s)) = .ok (.text s) := by
  refine ⟨fun tokens htokens => ?_, fun e => evaluate_write e s⟩
  have hall : ∀ token ∈ tokens ++ [write s], IsToken token.toList := by
    intro token htoken
    rcases List.mem_append.1 htoken with htoken | htoken
    · exact htokens token htoken
    · rw [List.mem_singleton.1 htoken]
      exact isToken_write s
  rw [tokenize, tokenizeChars_intercalate hall]
  have hsame : ((tokens ++ [write s]).map String.toList).map String.ofList =
      tokens ++ [write s] := by
    rw [List.map_map]
    exact List.map_id'' (fun token => String.ofList_toList) _
  exact congrArg Except.ok hsame

/-- A text with everything in it that a line of tokens or an expression could take for something
else, behind a word and a literal. -/
theorem write_reads_back_marks :
    write "'{x}' \\ :env_y " = "'\\'{x}\\' \\\\ :env_y '" ∧
    (∀ token ∈ ["assign", "'a b'"], IsToken token.toList) ∧
    tokenize "assign 'a b' '\\'{x}\\' \\\\ :env_y '" =
      .ok ["assign", "'a b'", "'\\'{x}\\' \\\\ :env_y '"] := by
  have hwrite : write "'{x}' \\ :env_y " = "'\\'{x}\\' \\\\ :env_y '" := by decide +kernel
  have htokens : ∀ token ∈ ["assign", "'a b'"], IsToken token.toList := by
    intro token htoken
    rcases List.mem_cons.1 htoken with rfl | htoken
    · exact .inl (by decide +kernel)
    · rw [List.mem_singleton.1 htoken]
      exact isToken_write "a b"
  have hread := (write_reads_back "'{x}' \\ :env_y ").1 ["assign", "'a b'"] htokens
  rw [hwrite] at hread
  exact ⟨hwrite, htokens, hread⟩

end Literal

end StepScript
