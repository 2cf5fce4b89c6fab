/-
# The shape of tokens

Every token of a tag is a word or a string literal, and so is every argument of the statements of a
file.  Words and literals with single spaces between them are read back as they are.
-/
import StepScript.Proofs.Token.Segmentation
import StepScript.Statement

namespace StepScript

instance : (token : List Char) → Decidable (IsWordToken token)
  | [] => isFalse id
  | c :: rest =>
    decidable_of_iff ((classify c).startsWord ∧ rest.all fun d => (classify d).continuesWord)
      (by rw [List.all_eq_true, IsWordToken])

theorem Piece.WellFormed.isToken {p : Piece} {token : List Char} (hp : p.WellFormed)
    (htoken : p.token? = some token) : IsToken token := by
  cases p with
  | blank c => cases htoken
  | literal body =>
    cases htoken
    exact .inr ⟨body, hp, rfl⟩
  | word first rest =>
    cases htoken
    exact .inl ⟨startsWord_classify.2 hp.1, fun c hc => continuesWord_classify.2 (hp.2 c hc)⟩

/-- **Every token of a tag is a word or a literal.** -/
theorem isToken_of_tokenizeChars {tag : List Char} {list : List (List Char)}
    (h : tokenizeChars tag = .ok list) : ∀ token ∈ list, IsToken token := by
  obtain ⟨pieces, hpieces, rfl⟩ := tokenizeChars_eq_ok.1 h
  intro token htoken
  obtain ⟨p, hp, hsome⟩ := List.mem_filterMap.1 htoken
  exact (hpieces.wellFormed p hp).isToken hsome

/-! ## Lines of tokens -/

/-- A token is a piece of a tag. -/
theorem IsToken.exists_piece {token : List Char} (h : IsToken token) :
    ∃ p : Piece, p.WellFormed ∧ p.text = token ∧ p.token? = some token := by
  rcases h with hword | ⟨body, hbody, rfl⟩
  · cases token with
    | nil => exact hword.elim
    | cons first rest =>
      have hrest : ∀ c ∈ rest, _ := fun c hc => continuesWord_classify.1 (hword.2 c hc)
      exact ⟨.word first rest, ⟨startsWord_classify.1 hword.1, hrest⟩, rfl, rfl⟩
  · exact ⟨.literal body, hbody, rfl, rfl⟩

/-- Tokens with single spaces between them are cut into pieces. -/
theorem exists_segments_intercalate {tokens : List (List Char)}
    (h : ∀ token ∈ tokens, IsToken token) :
    ∃ pieces, Segments pieces ([' '].intercalate tokens) ∧ tokensOf pieces = tokens := by
  have hspace : (Piece.blank ' ').WellFormed := by
    show Text.isBlank ' ' = true
    decide
  induction tokens with
  | nil => exact ⟨[], segments_nil, rfl⟩
  | cons token tokens ih =>
    obtain ⟨p, hp, rfl, htoken⟩ := (h token List.mem_cons_self).exists_piece
    cases tokens with
    | nil =>
      refine ⟨[p], segments_cons.2 ⟨hp, nofun, [], ?_, segments_nil⟩, ?_⟩
      · simp
      · rw [tokensOf, List.filterMap_cons_some htoken, List.filterMap_nil]
    | cons next tokens =>
      obtain ⟨pieces, hpieces, htokens⟩ := ih fun t ht => h t (List.mem_cons_of_mem _ ht)
      have hblank : Segments (.blank ' ' :: pieces) (' ' :: [' '].intercalate (next :: tokens)) :=
        segments_cons.2 ⟨hspace, nofun, _, rfl, hpieces⟩
      refine ⟨p :: .blank ' ' :: pieces, ?_, ?_⟩
      · rw [List.intercalate_cons_cons, List.append_assoc]
        refine segments_cons.2 ⟨hp, fun _ q hq => ?_, _, rfl, hblank⟩
        cases hq
        rfl
      · rw [tokensOf, List.filterMap_cons_some htoken]
        exact congrArg (p.text :: ·) htokens

/-- A line of tokens has these tokens. -/
theorem tokenizeChars_intercalate {tokens : List String}
    (h : ∀ token ∈ tokens, IsToken token.toList) :
    tokenizeChars (" ".intercalate tokens).toList = .ok (tokens.map String.toList) := by
  have hchars : ∀ token ∈ tokens.map String.toList, IsToken token := by
    intro token htoken
    obtain ⟨text, htext, rfl⟩ := List.mem_map.1 htoken
    exact h text htext
  obtain ⟨pieces, hpieces, htokens⟩ := exists_segments_intercalate hchars
  have hline : (" ".intercalate tokens).toList = [' '].intercalate (tokens.map String.toList) :=
    String.toList_intercalate
  rw [hline, hpieces.tokenizeChars_eq, htokens]

/-! ## Statements -/

namespace Statement

theorem isToken_of_readTag {text : List Char} {command : String} {arguments : List String}
    (h : readTag text = .ok (command, arguments)) : ∀ a ∈ arguments, IsToken a.toList := by
  unfold readTag at h
  dsimp only at h
  split at h
  · cases h
  · obtain ⟨list, hlist, h⟩ := Outcome.bind_eq_ok.1 h
    split at h
    · cases h
    · rename_i head rest
      cases h
      intro a ha
      obtain ⟨token, htoken, rfl⟩ := List.mem_map.1 ha
      rw [String.toList_ofList]
      exact isToken_of_tokenizeChars hlist token (List.mem_cons_of_mem _ htoken)

/-- **The arguments of the statements of a file are tokens.** -/
theorem isToken_of_readAll {contents : String} {statements : List Statement}
    (h : readAll contents = .ok statements) :
    ∀ s ∈ statements, ∀ a ∈ s.arguments, IsToken a.toList := by
  intro s hs
  obtain ⟨all, hall, h⟩ := Outcome.bind_eq_ok.1 h
  split at h
  · cases h
  · cases h
    obtain ⟨⟨number, result⟩, hmem, hresult⟩ := Outcome.exists_of_mem_mapM hall hs
    obtain ⟨⟨part, _⟩, _, hpart⟩ := List.mem_map.1 hmem
    obtain ⟨rfl, rfl⟩ := Prod.mk.inj hpart
    obtain ⟨⟨command, arguments⟩, htag, hread⟩ := Outcome.bind_eq_ok.1 hresult
    cases hread
    exact isToken_of_readTag htag

end Statement

end StepScript
