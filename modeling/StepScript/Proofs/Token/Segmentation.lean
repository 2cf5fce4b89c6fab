/-
# The grammar of a tag

A tag is made of three kinds of pieces: white-space characters, string literals and words, where a
word is followed by white space or by nothing.  A text can be cut into such pieces in one way at
most.  The machine accepts exactly the texts that can be cut, and its tokens are the literals and
words as they stand: `tokenize_eq_segments`.  Any other text is refused where no continuation could
save it, or at its end if it ends inside a literal.
-/
import Mathlib.Data.List.Chain
import Mathlib.Data.List.TakeWhile
import StepScript.Proofs.Outcome
import StepScript.Proofs.Token.Machine

namespace StepScript

/-! ## Pieces -/

/-- A piece of a tag: a white-space character, a literal given by what stands between its quotes, or
a word given by its first character and the others. -/
inductive Piece where
  | blank (c : Char)
  | literal (body : List Char)
  | word (first : Char) (rest : List Char)
  deriving DecidableEq, Repr

namespace Piece

/-- The piece as it stands in a tag. -/
def text : Piece → List Char
  | .blank c => [c]
  | .literal body => '\'' :: (body ++ ['\''])
  | .word first rest => first :: rest

/-- The token that a piece is; white space is none. -/
def token? : Piece → Option (List Char)
  | .blank _ => none
  | p => some p.text

def isBlank : Piece → Bool
  | .blank _ => true
  | _ => false

def isWord : Piece → Bool
  | .word _ _ => true
  | _ => false

/-- The piece is made of the characters that its kind may have. -/
def WellFormed : Piece → Prop
  | .blank c => Text.isBlank c = true
  | .literal body => LiteralBody body
  | .word first rest =>
    (Text.isBlank first = false ∧ first ≠ '\'' ∧ first ≠ '\\' ∧ first ≠ '}') ∧
      ∀ c ∈ rest, Text.isBlank c = false ∧ c ≠ '\'' ∧ c ≠ '\\' ∧ c ≠ '{'

end Piece

/-- The tokens among pieces, in order. -/
def tokensOf (pieces : List Piece) : List (List Char) :=
  pieces.filterMap Piece.token?

/-- A tag is cut into pieces. -/
structure Segments (pieces : List Piece) (tag : List Char) : Prop where
  wellFormed : ∀ p ∈ pieces, p.WellFormed
  /-- A word is followed by white space or by nothing. -/
  wordsApart : pieces.IsChain fun p q => p.isWord = true → q.isBlank = true
  text : pieces.flatMap Piece.text = tag

/-- A tag that can be cut into pieces. -/
def IsTag (tag : List Char) : Prop :=
  ∃ pieces, Segments pieces tag

/-- A text that can be continued to a tag. -/
def IsViable (text : List Char) : Prop :=
  ∃ more, IsTag (text ++ more)

/-- Whether the last piece is a word. -/
def endsInWord (pieces : List Piece) : Bool :=
  pieces.getLast?.any Piece.isWord

/-- A text that ends inside a literal: behind pieces the last of which is no word it has a quote,
and then what can stand in a literal or a backslash behind that. -/
def EndsInLiteral (text : List Char) : Prop :=
  ∃ pieces before body, Segments pieces before ∧ endsInWord pieces = false ∧ LiteralBody body ∧
    (text = before ++ '\'' :: body ∨ text = before ++ '\'' :: (body ++ ['\\']))

/-! ## Pieces behind each other -/

theorem segments_nil : Segments [] [] :=
  ⟨fun _ h => absurd h List.not_mem_nil, .nil, rfl⟩

theorem segments_cons {p : Piece} {pieces : List Piece} {tag : List Char} :
    Segments (p :: pieces) tag ↔ p.WellFormed ∧
      (p.isWord = true → ∀ q ∈ pieces.head?, q.isBlank = true) ∧
      ∃ rest, tag = p.text ++ rest ∧ Segments pieces rest := by
  constructor
  · rintro ⟨hwell, hchain, rfl⟩
    rw [List.isChain_cons] at hchain
    refine ⟨hwell p List.mem_cons_self, fun hword q hq => hchain.1 q hq hword, _, rfl, ?_⟩
    exact ⟨fun q hq => hwell q (List.mem_cons_of_mem p hq), hchain.2, rfl⟩
  · rintro ⟨hp, hword, rest, rfl, hrest⟩
    refine ⟨?_, ?_, ?_⟩
    · intro q hq
      rcases List.mem_cons.1 hq with rfl | hq
      · exact hp
      · exact hrest.wellFormed q hq
    · exact List.isChain_cons.2 ⟨fun q hq h => hword h q hq, hrest.wordsApart⟩
    · rw [List.flatMap_cons, hrest.text]

theorem endsInWord_concat (pieces : List Piece) (p : Piece) :
    endsInWord (pieces ++ [p]) = p.isWord := by
  rw [endsInWord, List.getLast?_concat]
  rfl

/-- A piece can stand behind others unless they end in a word and it is no white space. -/
theorem segments_concat {pieces : List Piece} {p : Piece} {tag : List Char} :
    Segments (pieces ++ [p]) tag ↔ p.WellFormed ∧
      (endsInWord pieces = true → p.isBlank = true) ∧
      ∃ before, tag = before ++ p.text ∧ Segments pieces before := by
  have hlast : (∀ q ∈ pieces.getLast?, ∀ r ∈ [p].head?, q.isWord = true → r.isBlank = true) ↔
      (endsInWord pieces = true → p.isBlank = true) := by
    unfold endsInWord
    cases pieces.getLast? <;> simp
  constructor
  · rintro ⟨hwell, hchain, rfl⟩
    obtain ⟨hbefore, _, hbetween⟩ := List.isChain_append.1 hchain
    refine ⟨hwell p (by simp), hlast.1 hbetween, pieces.flatMap Piece.text, ?_, ?_⟩
    · rw [List.flatMap_append, List.flatMap_singleton]
    · exact ⟨fun q hq => hwell q (List.mem_append_left _ hq), hbefore, rfl⟩
  · rintro ⟨hp, hbetween, before, rfl, hbefore⟩
    refine ⟨?_, ?_, ?_⟩
    · intro q hq
      rcases List.mem_append.1 hq with hq | hq
      · exact hbefore.wellFormed q hq
      · rw [List.mem_singleton.1 hq]
        exact hp
    · exact List.isChain_append.2 ⟨hbefore.wordsApart, .singleton p, hlast.2 hbetween⟩
    · rw [List.flatMap_append, List.flatMap_singleton, hbefore.text]

/-- A piece that is no white space stands behind others that do not end in a word. -/
theorem Segments.concat {pieces : List Piece} {tag : List Char} {p : Piece}
    (h : Segments pieces tag) (hlast : endsInWord pieces = false) (hp : p.WellFormed) :
    Segments (pieces ++ [p]) (tag ++ p.text) :=
  segments_concat.2 ⟨hp, fun hword => absurd (hlast.symm.trans hword) (by simp), tag, rfl, h⟩

theorem tokensOf_concat (pieces : List Piece) (p : Piece) :
    tokensOf (pieces ++ [p]) = tokensOf pieces ++ p.token?.toList := by
  unfold tokensOf
  rw [List.filterMap_append]
  cases p <;> rfl

/-- The tokens behind each other are the tag without the white space between them. -/
theorem flatten_tokensOf (pieces : List Piece) :
    (tokensOf pieces).flatten = (pieces.filter fun p => !p.isBlank).flatMap Piece.text := by
  induction pieces with
  | nil => rfl
  | cons p pieces ih =>
    cases p with
    | blank c => exact ih
    | literal body => exact congrArg (('\'' :: (body ++ ['\''])) ++ ·) ih
    | word first rest => exact congrArg ((first :: rest) ++ ·) ih

/-- A literal at the end of a text can be closed. -/
theorem EndsInLiteral.isViable {text : List Char} (h : EndsInLiteral text) : IsViable text := by
  obtain ⟨pieces, before, body, hpieces, hlast, hbody, rfl | rfl⟩ := h
  · have hliteral : (Piece.literal body).WellFormed := hbody
    refine ⟨['\''], pieces ++ [.literal body], ?_⟩
    rw [List.append_assoc]
    exact hpieces.concat hlast hliteral
  · -- a quote for the backslash, and one that closes the literal
    have hliteral : (Piece.literal (body ++ ['\\', '\''])).WellFormed :=
      hbody.append (.escaped .nil)
    have htext : '\'' :: (body ++ ['\\']) ++ ['\'', '\''] =
        (Piece.literal (body ++ ['\\', '\''])).text := by
      simp [Piece.text]
    refine ⟨['\'', '\''], pieces ++ [.literal (body ++ ['\\', '\''])], ?_⟩
    rw [List.append_assoc, htext]
    exact hpieces.concat hlast hliteral

/-! ## One way to cut -/

theorem Piece.text_ne_nil (p : Piece) : p.text ≠ [] := by
  cases p <;> exact List.cons_ne_nil _ _

/-- A literal ends with the first quote that no backslash belongs to. -/
theorem LiteralBody.eq_of_append {body body' rest rest' : List Char} (h : LiteralBody body)
    (h' : LiteralBody body') (heq : body ++ '\'' :: rest = body' ++ '\'' :: rest') :
    body = body' := by
  induction h generalizing body' with
  | nil =>
    cases h' with
    | nil => rfl
    | plain _ hquote _ => exact absurd (List.cons.inj heq).1.symm hquote
    | escaped _ => exact absurd (List.cons.inj heq).1 (by decide)
  | plain hescape hquote _ ih =>
    cases h' with
    | nil => exact absurd (List.cons.inj heq).1 hquote
    | plain _ _ h' =>
      obtain ⟨rfl, hrest⟩ := List.cons.inj heq
      rw [ih h' hrest]
    | escaped _ => exact absurd (List.cons.inj heq).1 hescape
  | escaped _ ih =>
    cases h' with
    | nil => exact absurd (List.cons.inj heq).1 (by decide)
    | plain hescape _ _ => exact absurd (List.cons.inj heq).1.symm hescape
    | escaped h' =>
      obtain ⟨rfl, hrest⟩ := List.cons.inj (List.cons.inj heq).2
      rw [ih h' hrest]

/-- White space starts a text if it is not empty. -/
def StartsBlank (text : List Char) : Prop :=
  ∀ c ∈ text.head?, Text.isBlank c = true

/-- A run of other characters ends at the first white space. -/
theorem eq_of_append_startsBlank {run run' rest rest' : List Char}
    (hrun : ∀ c ∈ run, Text.isBlank c = false) (hrun' : ∀ c ∈ run', Text.isBlank c = false)
    (hrest : StartsBlank rest) (hrest' : StartsBlank rest') (heq : run ++ rest = run' ++ rest') :
    run = run' := by
  have htake : ∀ {run rest : List Char}, (∀ c ∈ run, Text.isBlank c = false) → StartsBlank rest →
      (run ++ rest).takeWhile (fun c => !Text.isBlank c) = run := by
    intro run rest hrun hrest
    rw [List.takeWhile_append_of_pos (fun c hc => by simp [hrun c hc])]
    cases rest with
    | nil => rw [List.takeWhile_nil, List.append_nil]
    | cons c rest => rw [List.takeWhile_cons, hrest c rfl, if_neg (by simp), List.append_nil]
  rw [← htake hrun hrest, heq, htake hrun' hrest']

/-- A text shows the piece that it starts with. -/
theorem Piece.eq_of_append {p p' : Piece} {rest rest' : List Char} (hp : p.WellFormed)
    (hp' : p'.WellFormed) (hrest : p.isWord = true → StartsBlank rest)
    (hrest' : p'.isWord = true → StartsBlank rest') (heq : p.text ++ rest = p'.text ++ rest') :
    p = p' := by
  have hquote : Text.isBlank '\'' = false := by decide
  -- pieces of different kinds differ in their first characters
  cases p with
  | blank c =>
    cases p' with
    | blank c' => rw [(List.cons.inj heq).1]
    | literal body =>
      have hc : c = '\'' := (List.cons.inj heq).1
      rw [WellFormed, hc, hquote] at hp
      cases hp
    | word first others =>
      have hc : c = first := (List.cons.inj heq).1
      rw [WellFormed, hc, hp'.1.1] at hp
      cases hp
  | literal body =>
    cases p' with
    | blank c' =>
      have hc : '\'' = c' := (List.cons.inj heq).1
      rw [WellFormed, ← hc, hquote] at hp'
      cases hp'
    | literal body' =>
      have hbodies : body ++ ['\''] ++ rest = body' ++ ['\''] ++ rest' := (List.cons.inj heq).2
      rw [List.append_assoc, List.append_assoc] at hbodies
      rw [LiteralBody.eq_of_append hp hp' hbodies]
    | word first others => exact absurd (List.cons.inj heq).1.symm hp'.1.2.1
  | word first others =>
    cases p' with
    | blank c' =>
      have hc : first = c' := (List.cons.inj heq).1
      rw [WellFormed, ← hc, hp.1.1] at hp'
      cases hp'
    | literal body' => exact absurd (List.cons.inj heq).1 hp.1.2.1
    | word first' others' =>
      obtain ⟨rfl, hothers⟩ := List.cons.inj heq
      rw [eq_of_append_startsBlank (fun c hc => (hp.2 c hc).1) (fun c hc => (hp'.2 c hc).1)
        (hrest rfl) (hrest' rfl) hothers]

/-- A tag behind a word starts with white space. -/
theorem Segments.startsBlank {pieces : List Piece} {tag : List Char} (h : Segments pieces tag)
    (hhead : ∀ q ∈ pieces.head?, q.isBlank = true) : StartsBlank tag := by
  cases pieces with
  | nil =>
    rw [← h.text]
    intro c hc
    cases hc
  | cons q pieces =>
    obtain ⟨hq, _, rest, rfl, _⟩ := segments_cons.1 h
    cases q with
    | blank c =>
      rintro _ ⟨⟩
      exact hq
    | literal body => exact absurd (hhead _ rfl) (by simp [Piece.isBlank])
    | word first others => exact absurd (hhead _ rfl) (by simp [Piece.isBlank])

/-- **A tag can be cut into pieces in one way only.** -/
theorem Segments.unique {pieces pieces' : List Piece} {tag : List Char} (h : Segments pieces tag)
    (h' : Segments pieces' tag) : pieces = pieces' := by
  induction pieces generalizing pieces' tag with
  | nil =>
    cases pieces' with
    | nil => rfl
    | cons p' pieces' =>
      obtain ⟨_, _, rest, hrest, _⟩ := segments_cons.1 h'
      rw [← h.text] at hrest
      exact absurd (List.append_eq_nil_iff.1 hrest.symm).1 p'.text_ne_nil
  | cons p pieces ih =>
    obtain ⟨hp, hnext, rest, rfl, hpieces⟩ := segments_cons.1 h
    cases pieces' with
    | nil => exact absurd (List.append_eq_nil_iff.1 h'.text.symm).1 p.text_ne_nil
    | cons p' pieces' =>
      obtain ⟨hp', hnext', rest', heq, hpieces'⟩ := segments_cons.1 h'
      have hsame : p = p' := Piece.eq_of_append hp hp'
        (fun hword => hpieces.startsBlank (hnext hword))
        (fun hword => hpieces'.startsBlank (hnext' hword)) heq
      subst hsame
      rw [List.append_cancel_left_eq] at heq
      subst heq
      rw [ih hpieces hpieces']

/-! ## The machine reads pieces -/

namespace Tokenizer

theorem read_cons {t next : Tokenizer} {c : Char} (h : t.step c = some next) (position : Nat)
    (rest : List Char) : t.read position (c :: rest) = next.read (position + 1) rest := by
  rw [read, h]

/-- The machine reads a text from where it came to with the text before. -/
theorem read_append {t next : Tokenizer} {position : Nat} {xs : List Char}
    (h : t.read position xs = .ok next) (ys : List Char) :
    t.read position (xs ++ ys) = next.read (position + xs.length) ys := by
  induction xs generalizing t position with
  | nil =>
    cases h
    rfl
  | cons c xs ih =>
    cases hstep : t.step c with
    | none =>
      rw [read, hstep] at h
      cases h
    | some middle =>
      rw [read_cons hstep] at h
      rw [List.cons_append, read_cons hstep, ih h, List.length_cons, Nat.add_assoc, Nat.add_comm 1]

/-- Inside a literal, the machine reads what can stand there. -/
theorem read_literalBody {body : List Char} (h : LiteralBody body) (position : Nat)
    (complete : List (List Char)) (current : List Char) :
    (⟨.inLiteral, complete, current⟩ : Tokenizer).read position body =
      .ok ⟨.inLiteral, complete, current ++ body⟩ := by
  induction h generalizing position current with
  | nil => rw [List.append_nil]; rfl
  | plain hescape hquote _ ih =>
    rw [read_cons (step_of_moves (.continueLiteral (fun h => hescape (classify_eq_escape.1 h))
      fun h => hquote (classify_eq_quote.1 h))), ih, List.append_assoc]
    rfl
  | escaped _ ih =>
    rw [read_cons (step_of_moves (.startEscape (classify_eq_escape.2 rfl))),
      read_cons (step_of_moves .endEscape), ih]
    simp

/-- Inside a word, the machine reads the characters with which a word can go on. -/
theorem read_word {rest : List Char} (h : ∀ c ∈ rest, (classify c).continuesWord) (position : Nat)
    (complete : List (List Char)) (current : List Char) :
    (⟨.inWord, complete, current⟩ : Tokenizer).read position rest =
      .ok ⟨.inWord, complete, current ++ rest⟩ := by
  induction rest generalizing position current with
  | nil => rw [List.append_nil]; rfl
  | cons c rest ih =>
    rw [read_cons (step_of_moves (.continueWord (h c List.mem_cons_self))),
      ih fun d hd => h d (List.mem_cons_of_mem c hd), List.append_assoc]
    rfl

/-- Characters at hand are the last token. -/
theorem tokens_of_ne_nil {mode : TokenMode} {complete : List (List Char)} {current : List Char}
    (h : current ≠ []) : tokens ⟨mode, complete, current⟩ = complete ++ [current] := by
  unfold tokens
  rw [if_neg (by simpa using h)]

/-- The machine opens a literal outside of tokens. -/
theorem read_openLiteral {t : Tokenizer} (hmode : t.mode = .outside) {body : List Char}
    (hbody : LiteralBody body) (position : Nat) :
    t.read position ('\'' :: body) = .ok ⟨.inLiteral, t.tokens, '\'' :: body⟩ := by
  obtain ⟨mode, complete, current⟩ := t
  cases hmode
  rw [read_cons (step_of_moves (.startLiteral (classify_eq_quote.2 rfl))), read_literalBody hbody]
  rfl

/-- The machine reads a piece where one can start. -/
theorem exists_read_piece {t : Tokenizer} {p : Piece} (hp : p.WellFormed)
    (hmode : t.mode = .outside ∨ t.mode = .inWord ∧ p.isBlank = true) (position : Nat) :
    ∃ next, t.read position p.text = .ok next ∧
      next.mode = (if p.isWord then .inWord else .outside) ∧
      next.tokens = t.tokens ++ p.token?.toList := by
  cases p with
  | blank c =>
    have hblank : classify c = .blank := classify_eq_blank.2 hp
    obtain ⟨mode, complete, current⟩ := t
    rcases hmode with rfl | ⟨rfl, _⟩
    · exact ⟨_, read_cons (step_of_moves (.skip hblank)) position [], rfl,
        (List.append_nil _).symm⟩
    · exact ⟨_, read_cons (step_of_moves (.endWord hblank)) position [], rfl,
        (List.append_nil _).symm⟩
  | literal body =>
    have hmode : t.mode = .outside := hmode.resolve_right fun h => nomatch h.2
    refine ⟨⟨.outside, t.tokens, '\'' :: (body ++ ['\''])⟩, ?_, rfl, ?_⟩
    · show t.read position (('\'' :: body) ++ ['\'']) = _
      rw [read_append (read_openLiteral hmode hp position),
        read_cons (step_of_moves (.endLiteral (classify_eq_quote.2 rfl)))]
      rfl
    · exact tokens_of_ne_nil (List.cons_ne_nil _ _)
  | word first rest =>
    have hmode : t.mode = .outside := hmode.resolve_right fun h => nomatch h.2
    obtain ⟨mode, complete, current⟩ := t
    cases hmode
    refine ⟨⟨.inWord, tokens ⟨.outside, complete, current⟩, first :: rest⟩, ?_, rfl, ?_⟩
    · show (⟨.outside, complete, current⟩ : Tokenizer).read position (first :: rest) = _
      rw [read_cons (step_of_moves (.startWord (startsWord_classify.2 hp.1))),
        read_word fun c hc => continuesWord_classify.2 (hp.2 c hc)]
      rfl
    · exact tokens_of_ne_nil (List.cons_ne_nil _ _)

/-- The machine reads a tag piece by piece. -/
theorem exists_read_segments {pieces : List Piece} {tag : List Char} (h : Segments pieces tag) :
    ∃ t, start.read 0 tag = .ok t ∧ t.mode = (if endsInWord pieces then .inWord else .outside) ∧
      t.tokens = tokensOf pieces := by
  induction pieces using List.reverseRecOn generalizing tag with
  | nil =>
    rw [← h.text]
    exact ⟨start, rfl, rfl, rfl⟩
  | append_singleton pieces p ih =>
    obtain ⟨hp, hblank, before, rfl, hbefore⟩ := segments_concat.1 h
    obtain ⟨t, hread, hmode, htokens⟩ := ih hbefore
    have hstart : t.mode = .outside ∨ t.mode = .inWord ∧ p.isBlank = true := by
      cases hword : endsInWord pieces with
      | false => exact .inl (by rw [hmode, hword, if_neg (by simp)])
      | true => exact .inr ⟨by rw [hmode, hword, if_pos rfl], hblank hword⟩
    obtain ⟨next, hpiece, hmode', htokens'⟩ := exists_read_piece hp hstart (0 + before.length)
    refine ⟨next, ?_, ?_, ?_⟩
    · rw [read_append hread, hpiece]
    · rw [hmode', endsInWord_concat]
    · rw [htokens', htokens, tokensOf_concat]

/-! ## What the machine has read -/

/-- What the machine has read in each mode: pieces, and behind them the part of a word or of a
literal that is at hand. -/
inductive Reads : Tokenizer → List Char → Prop
  | outside {pieces : List Piece} {text : List Char} {complete : List (List Char)}
      {current : List Char} (h : Segments pieces text) (hlast : endsInWord pieces = false)
      (htokens : tokens ⟨.outside, complete, current⟩ = tokensOf pieces) :
      Reads ⟨.outside, complete, current⟩ text
  | inWord {pieces : List Piece} {before : List Char} {first : Char} {rest : List Char}
      (h : Segments pieces before) (hlast : endsInWord pieces = false)
      (hword : (Piece.word first rest).WellFormed) :
      Reads ⟨.inWord, tokensOf pieces, first :: rest⟩ (before ++ first :: rest)
  | inLiteral {pieces : List Piece} {before body : List Char} (h : Segments pieces before)
      (hlast : endsInWord pieces = false) (hbody : LiteralBody body) :
      Reads ⟨.inLiteral, tokensOf pieces, '\'' :: body⟩ (before ++ '\'' :: body)
  | inEscape {pieces : List Piece} {before body : List Char} (h : Segments pieces before)
      (hlast : endsInWord pieces = false) (hbody : LiteralBody body) :
      Reads ⟨.inEscape, tokensOf pieces, '\'' :: (body ++ ['\\'])⟩
        (before ++ '\'' :: (body ++ ['\\']))

theorem reads_start : Reads start [] :=
  .outside segments_nil rfl rfl

/-- One more character. -/
theorem Reads.moves {t next : Tokenizer} {text : List Char} {c : Char} (ht : Reads t text)
    (h : Moves c t next) : Reads next (text ++ [c]) := by
  cases ht with
  | @outside pieces _ complete current hpieces hlast htokens =>
    cases h with
    | skip hc =>
      have hpiece : (Piece.blank c).WellFormed := classify_eq_blank.1 hc
      refine .outside (hpieces.concat hlast hpiece) (endsInWord_concat _ _) ?_
      rw [tokensOf_concat, htokens]
      exact (List.append_nil _).symm
    | startLiteral hc =>
      rw [htokens, classify_eq_quote.1 hc]
      exact .inLiteral hpieces hlast .nil
    | startWord hc =>
      rw [htokens]
      exact .inWord hpieces hlast ⟨startsWord_classify.1 hc, fun _ hd => nomatch hd⟩
  | @inWord pieces before first rest hpieces hlast hword =>
    cases h with
    -- the word becomes a piece with the white space behind it
    | endWord hc =>
      have hblank : Segments (pieces ++ [.word first rest] ++ [.blank c])
          (before ++ first :: rest ++ [c]) := segments_concat.2
        ⟨classify_eq_blank.1 hc, fun _ => rfl, _, rfl, hpieces.concat hlast hword⟩
      refine .outside hblank (endsInWord_concat _ _) ?_
      rw [tokensOf_concat, tokensOf_concat, tokens_of_ne_nil (List.cons_ne_nil _ _)]
      exact (List.append_nil _).symm
    | continueWord hc =>
      rw [List.append_assoc]
      refine .inWord hpieces hlast ⟨hword.1, ?_⟩
      intro d hd
      rcases List.mem_append.1 hd with hd | hd
      · exact hword.2 d hd
      · rw [List.mem_singleton.1 hd]
        exact continuesWord_classify.1 hc
  | @inLiteral pieces before body hpieces hlast hbody =>
    cases h with
    | startEscape hc =>
      rw [List.append_assoc, classify_eq_escape.1 hc]
      exact .inEscape hpieces hlast hbody
    | endLiteral hc =>
      rw [List.append_assoc, classify_eq_quote.1 hc]
      have hliteral : (Piece.literal body).WellFormed := hbody
      refine .outside (hpieces.concat hlast hliteral) (endsInWord_concat _ _) ?_
      rw [tokensOf_concat]
      exact tokens_of_ne_nil (List.cons_ne_nil _ _)
    | continueLiteral hescape hquote =>
      rw [List.append_assoc]
      refine .inLiteral hpieces hlast (hbody.append ?_)
      exact .plain (fun h => hescape (classify_eq_escape.2 h))
        (fun h => hquote (classify_eq_quote.2 h)) .nil
  | @inEscape pieces before body hpieces hlast hbody =>
    cases h with
    -- whatever follows a backslash belongs to the literal
    | endEscape =>
      have hescaped : '\'' :: (body ++ ['\\']) ++ [c] = '\'' :: (body ++ ['\\', c]) := by simp
      rw [List.append_assoc, hescaped]
      exact .inLiteral hpieces hlast (hbody.append (.escaped .nil))

/-- Any number of characters. -/
theorem Reads.read {t next : Tokenizer} {text more : List Char} {position : Nat}
    (ht : Reads t text) (h : t.read position more = .ok next) : Reads next (text ++ more) := by
  induction more generalizing t text position with
  | nil =>
    cases h
    rwa [List.append_nil]
  | cons c more ih =>
    rw [Tokenizer.read] at h
    split at h
    · rename_i middle hstep
      have hmore := ih (ht.moves (moves_of_step hstep)) h
      rwa [List.append_assoc] at hmore
    · cases h

/-- Outside of literals, the machine has read a tag and holds its tokens. -/
theorem Reads.exists_segments {t : Tokenizer} {text : List Char} (h : Reads t text)
    (hmode : ¬ (t.mode = .inLiteral ∨ t.mode = .inEscape)) :
    ∃ pieces, Segments pieces text ∧ t.tokens = tokensOf pieces := by
  cases h with
  | outside h hlast htokens => exact ⟨_, h, htokens⟩
  | inWord h hlast hword =>
    refine ⟨_, h.concat hlast hword, ?_⟩
    rw [tokensOf_concat, tokens_of_ne_nil (List.cons_ne_nil _ _)]
    rfl
  | inLiteral => exact absurd (.inl rfl) hmode
  | inEscape => exact absurd (.inr rfl) hmode

theorem Reads.endsInLiteral {t : Tokenizer} {text : List Char} (h : Reads t text)
    (hmode : t.mode = .inLiteral ∨ t.mode = .inEscape) : EndsInLiteral text := by
  cases h with
  | outside => exact absurd hmode (by simp)
  | inWord => exact absurd hmode (by simp)
  | inLiteral h hlast hbody => exact ⟨_, _, _, h, hlast, hbody, .inl rfl⟩
  | inEscape h hlast hbody => exact ⟨_, _, _, h, hlast, hbody, .inr rfl⟩

/-- Whatever the machine has read can be continued to a tag. -/
theorem Reads.isViable {t : Tokenizer} {text : List Char} (h : Reads t text) : IsViable text := by
  by_cases hmode : t.mode = .inLiteral ∨ t.mode = .inEscape
  · exact (h.endsInLiteral hmode).isViable
  · obtain ⟨pieces, hpieces, _⟩ := h.exists_segments hmode
    exact ⟨[], pieces, by rwa [List.append_nil]⟩

/-- The machine fails at a character that it does not take. -/
theorem exists_of_read_error {t : Tokenizer} {position : Nat} {text : List Char} {e : Error}
    (h : t.read position text = .error e) :
    ∃ before c after next detail, text = before ++ c :: after ∧
      t.read position before = .ok next ∧ next.step c = none ∧
      e = .tokenization (position + before.length) detail := by
  induction text generalizing t position with
  | nil => cases h
  | cons c text ih =>
    rw [read] at h
    split at h
    · rename_i next hstep
      obtain ⟨before, d, after, last, detail, rfl, hread, hd, rfl⟩ := ih h
      refine ⟨c :: before, d, after, last, detail, rfl, ?_, hd, ?_⟩
      · rw [read_cons hstep, hread]
      · rw [List.length_cons, Nat.add_assoc, Nat.add_comm 1]
    · rename_i hstep
      cases h
      exact ⟨[], c, text, t, _, rfl, rfl, hstep, rfl⟩

end Tokenizer

/-! ## Tags and their tokens -/

/-- The tokens of a tag are those of its pieces. -/
theorem Segments.tokenizeChars_eq {pieces : List Piece} {tag : List Char}
    (h : Segments pieces tag) : tokenizeChars tag = .ok (tokensOf pieces) := by
  obtain ⟨t, hread, hmode, htokens⟩ := Tokenizer.exists_read_segments h
  unfold tokenizeChars
  rw [hread]
  show (if _ then _ else _) = _
  rw [hmode, htokens, if_neg]
  split <;> simp

/-- **The texts that are accepted are the tags.** -/
theorem tokenizeChars_eq_ok {tag : List Char} {tokens : List (List Char)} :
    tokenizeChars tag = .ok tokens ↔ ∃ pieces, Segments pieces tag ∧ tokens = tokensOf pieces := by
  constructor
  · intro h
    obtain ⟨t, hread, h⟩ := Outcome.bind_eq_ok.1 h
    split at h
    · cases h
    · rename_i hmode
      cases h
      exact (Tokenizer.reads_start.read hread).exists_segments hmode
  · rintro ⟨pieces, hpieces, rfl⟩
    exact hpieces.tokenizeChars_eq

/-- A position of a text up to which it could be continued to a tag, and not any more with the
character there. -/
def DeadAt (text : List Char) (position : Nat) : Prop :=
  position < text.length ∧ IsViable (text.take position) ∧ ¬ IsViable (text.take (position + 1))

theorem IsViable.take {text : List Char} (h : IsViable text) (n : Nat) :
    IsViable (text.take n) := by
  obtain ⟨more, htag⟩ := h
  refine ⟨text.drop n ++ more, ?_⟩
  rwa [← List.append_assoc, List.take_append_drop]

/-- What was viable up to a later position was so up to an earlier one. -/
theorem isViable_take_of_le {text : List Char} {m n : Nat} (h : IsViable (text.take n))
    (hle : m ≤ n) : IsViable (text.take m) := by
  have := h.take m
  rwa [List.take_take, Nat.min_eq_left hle] at this

/-- A text dies once. -/
theorem DeadAt.unique {text : List Char} {m n : Nat} (hm : DeadAt text m) (hn : DeadAt text n) :
    m = n := by
  rcases Nat.lt_trichotomy m n with hlt | heq | hlt
  · exact absurd (isViable_take_of_le hn.2.1 hlt) hm.2.2
  · exact heq
  · exact absurd (isViable_take_of_le hm.2.1 hlt) hn.2.2

/-- The characters behind one that the machine does not take cannot save the text. -/
theorem not_isViable_of_step {before : List Char} {c : Char} {t : Tokenizer}
    (hread : Tokenizer.start.read 0 before = .ok t) (hstep : t.step c = none) :
    ¬ IsViable (before ++ [c]) := by
  rintro ⟨more, pieces, hpieces⟩
  obtain ⟨t', hread', _⟩ := Tokenizer.exists_read_segments hpieces
  rw [List.append_assoc, Tokenizer.read_append hread, List.singleton_append, Tokenizer.read,
    hstep] at hread'
  cases hread'

/-- A text that is refused dies at the position of the error, or ends inside a literal. -/
theorem exists_of_tokenizeChars_error {text : List Char} {e : Error}
    (h : tokenizeChars text = .error e) :
    ∃ position detail, e = .tokenization position detail ∧
      (DeadAt text position ∨ position = text.length ∧ EndsInLiteral text) := by
  rcases Outcome.bind_eq_error.1 h with hread | ⟨t, hread, h⟩
  · obtain ⟨before, c, after, t, detail, rfl, hbefore, hstep, rfl⟩ :=
      Tokenizer.exists_of_read_error hread
    refine ⟨_, detail, rfl, .inl ⟨by simp, ?_, ?_⟩⟩
    · have hviable := (Tokenizer.reads_start.read hbefore).isViable
      rwa [Nat.zero_add, List.take_left]
    · have htake : (before ++ c :: after).take (0 + before.length + 1) = before ++ [c] := by
        rw [Nat.zero_add, List.take_length_add_append]
        rfl
      rw [htake]
      exact not_isViable_of_step hbefore hstep
  · split at h
    · rename_i hmode
      cases h
      exact ⟨_, _, rfl, .inr ⟨rfl, (Tokenizer.reads_start.read hread).endsInLiteral hmode⟩⟩
    · cases h

/-- A text that ends inside a literal is refused at its end. -/
theorem EndsInLiteral.tokenizeChars_eq {text : List Char} (h : EndsInLiteral text) :
    tokenizeChars text = .error (.tokenization text.length "unterminated string literal") := by
  obtain ⟨pieces, before, body, hpieces, hlast, hbody, htext⟩ := h
  obtain ⟨t, hread, hmode, _⟩ := Tokenizer.exists_read_segments hpieces
  rw [hlast, if_neg (by simp)] at hmode
  have hopen := Tokenizer.read_openLiteral hmode hbody (0 + before.length)
  have hend : ∃ last, Tokenizer.start.read 0 text = .ok last ∧
      (last.mode = .inLiteral ∨ last.mode = .inEscape) := by
    rcases htext with rfl | rfl
    · exact ⟨_, (Tokenizer.read_append hread _).trans hopen, .inl rfl⟩
    · rw [Tokenizer.read_append hread, ← List.cons_append, Tokenizer.read_append hopen,
        Tokenizer.read_cons (Tokenizer.step_of_moves (.startEscape (classify_eq_escape.2 rfl)))]
      exact ⟨_, rfl, .inr rfl⟩
  obtain ⟨last, hlast, hmode⟩ := hend
  unfold tokenizeChars
  rw [hlast]
  exact if_pos hmode

/-- **The position of the error** is where the text dies, or its end if that is inside a literal. -/
theorem tokenizeChars_eq_error {text : List Char} {position : Nat} :
    (∃ detail, tokenizeChars text = .error (.tokenization position detail)) ↔
      DeadAt text position ∨ position = text.length ∧ EndsInLiteral text := by
  constructor
  · rintro ⟨detail, h⟩
    obtain ⟨_, _, heq, hcause⟩ := exists_of_tokenizeChars_error h
    cases heq
    exact hcause
  · rintro (hdead | ⟨rfl, hend⟩)
    · have hviable : ¬ IsViable text := fun hviable => hdead.2.2 (hviable.take _)
      cases h : tokenizeChars text with
      | ok tokens =>
        obtain ⟨pieces, hpieces, _⟩ := tokenizeChars_eq_ok.1 h
        exact absurd ⟨[], pieces, by rwa [List.append_nil]⟩ hviable
      | error e =>
        obtain ⟨position', detail, rfl, hdead' | ⟨_, hend⟩⟩ := exists_of_tokenizeChars_error h
        · exact ⟨detail, by rw [hdead.unique hdead']⟩
        · exact absurd hend.isViable hviable
    · exact ⟨_, hend.tokenizeChars_eq⟩

/-- **Tokenizing is cutting into pieces.**  A text has tokens exactly if it can be cut into pieces,
which it can in one way only, and these are its literals and words as they stand: behind each other
they are the text without the white space between them.  A text without tokens is refused at the
first character with which no continuation of the text is a tag, or at its end if it ends inside a
literal. -/
theorem tokenize_eq_segments (text : String) :
    (∀ tokens, tokenize text = .ok tokens ↔
      ∃ pieces, Segments pieces text.toList ∧ tokens = (tokensOf pieces).map String.ofList) ∧
    (∀ pieces, Segments pieces text.toList →
      (tokensOf pieces).flatten = (pieces.filter fun p => !p.isBlank).flatMap Piece.text ∧
      ∀ pieces', Segments pieces' text.toList → pieces' = pieces) ∧
    (∀ e, tokenize text = .error e → ∃ position detail, e = .tokenization position detail) ∧
    ∀ position, (∃ detail, tokenize text = .error (.tokenization position detail)) ↔
      DeadAt text.toList position ∨
        position = text.length ∧ EndsInLiteral text.toList := by
  refine ⟨?_, ?_, ?_, ?_⟩
  · intro tokens
    unfold tokenize
    rw [Outcome.map_eq_ok]
    constructor
    · rintro ⟨list, hlist, rfl⟩
      obtain ⟨pieces, hpieces, rfl⟩ := tokenizeChars_eq_ok.1 hlist
      exact ⟨pieces, hpieces, rfl⟩
    · rintro ⟨pieces, hpieces, rfl⟩
      exact ⟨_, hpieces.tokenizeChars_eq, rfl⟩
  · intro pieces hpieces
    exact ⟨flatten_tokensOf pieces, fun pieces' hpieces' => hpieces'.unique hpieces⟩
  · intro e h
    obtain ⟨position, detail, rfl, _⟩ := exists_of_tokenizeChars_error (Outcome.map_eq_error.1 h)
    exact ⟨position, detail, rfl⟩
  · intro position
    unfold tokenize
    simp only [Outcome.map_eq_error]
    rw [tokenizeChars_eq_error, String.length_toList]

end StepScript
