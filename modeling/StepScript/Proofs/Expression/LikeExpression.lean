/-
# Patterns as regular expressions

The regular expression that a pattern is short for reads back as one piece for each character of the
pattern, between the marks of the start and of the end.  What it finds, by the meaning of its
pieces, is what the pattern matches.
-/
import StepScript.Proofs.Expression.PatternMatching

namespace StepScript

/-! ## What expressions find -/

namespace Regular

/-- An item stands for a part of a text, between what is before it and what is after it. -/
def Item.StandsFor (acrossLines : Bool) (before taken after : List Char) : Item → Prop
  | .start => before = [] ∧ taken = []
  | .finish => taken = [] ∧ after = []
  | .point => ∃ c, taken = [c] ∧ (acrossLines = true ∨ c ≠ '\n')
  | .char c => taken = [c]

/-- An item with a star stands for what it stands for when it is repeated, or not there at all. -/
inductive Item.Repeats (acrossLines : Bool) (item : Item) :
    List Char → List Char → List Char → Prop
  | none (before after : List Char) : Repeats acrossLines item before [] after
  | more {before first others after : List Char}
      (hfirst : item.StandsFor acrossLines before first (others ++ after))
      (hothers : Repeats acrossLines item (before ++ first) others after) :
      Repeats acrossLines item before (first ++ others) after

/-- A piece stands for a part of a text. -/
def Piece.StandsFor (acrossLines : Bool) (before taken after : List Char) (p : Piece) : Prop :=
  if p.starred then p.item.Repeats acrossLines before taken after
  else p.item.StandsFor acrossLines before taken after

/-- Pieces stand for a part of a text, one behind the other. -/
def StandFor (acrossLines : Bool) : List Piece → List Char → List Char → List Char → Prop
  | [], _, taken, _ => taken = []
  | p :: rest, before, taken, after => ∃ first others, taken = first ++ others ∧
      p.StandsFor acrossLines before first (others ++ after) ∧
      StandFor acrossLines rest (before ++ first) others after

/-- An expression finds something in a text, wherever it is. -/
def Expression.FindsIn (e : Expression) (text : List Char) : Prop :=
  ∃ before taken after, text = before ++ taken ++ after ∧
    StandFor e.acrossLines e.pieces before taken after

/-- A point with a star stands for every text if points stand for line breaks. -/
theorem Item.repeats_point (before taken after : List Char) :
    Item.point.Repeats true before taken after := by
  induction taken generalizing before with
  | nil => exact .none before after
  | cons c taken ih =>
    have hmore : Item.point.Repeats true before ([c] ++ taken) after :=
      .more ⟨c, rfl, .inl rfl⟩ (ih _)
    exact hmore

/-- A character that is escaped where needed reads back as itself. -/
theorem readPieces_escape (p : Char) {rest : List Char} {starred : Bool} {pieces : List Piece}
    (hrest : readPieces rest = some (starred, pieces)) :
    readPieces (escape p ++ rest) = some (false, ⟨.char p, starred⟩ :: pieces) := by
  unfold escape
  split
  · rename_i hmeta
    simp [readPieces, hmeta, hrest]
  · rename_i hplain
    have hne : ∀ c, isMeta c = true → p ≠ c := by
      rintro c hc rfl
      exact hplain hc
    -- it is neither a star nor the start of an escaped character
    have hstar : p ≠ '*' := hne '*' (by decide)
    have hslash : p ≠ '\\' := hne '\\' (by decide)
    have hitem : Item.ofChar? p = some (.char p) := by
      rw [Item.ofChar?, if_neg (hne '^' (by decide)), if_neg (hne '$' (by decide)),
        if_neg (hne '.' (by decide)), if_neg hplain]
    simp [readPieces, hslash, hitem, hrest]

/-- Behind the flag, points stand for line breaks. -/
theorem read?_acrossLines {text : List Char} {pieces : List Piece}
    (h : readPieces text = some (false, pieces)) :
    read? ("(?s)".toList ++ text) = some ⟨true, pieces⟩ := by
  have hflag : "(?s)".toList ++ text = '(' :: '?' :: 's' :: ')' :: text := rfl
  rw [hflag, read?, h]

end Regular

/-! ## The expression of a pattern -/

namespace Like

/-- The piece that a character of a pattern is short for. -/
def pieceOf (p : Char) : Regular.Piece :=
  if p = '%' then ⟨.point, true⟩ else if p = '_' then ⟨.point, false⟩ else ⟨.char p, false⟩

/-- What a character of a pattern is short for reads back as its piece. -/
theorem readPieces_part (p : Char) {rest : List Char} {pieces : List Regular.Piece}
    (hrest : Regular.readPieces rest = some (false, pieces)) :
    Regular.readPieces (part p ++ rest) = some (false, pieceOf p :: pieces) := by
  unfold part pieceOf
  split
  · simp [Regular.readPieces, Regular.Item.ofChar?, hrest]
  · split
    · simp [Regular.readPieces, Regular.Item.ofChar?, hrest]
    · exact Regular.readPieces_escape p hrest

theorem readPieces_parts (pattern : List Char) :
    Regular.readPieces (pattern.flatMap part ++ ['$']) =
      some (false, pattern.map pieceOf ++ [⟨.finish, false⟩]) := by
  induction pattern with
  | nil => rfl
  | cons p pattern ih =>
    rw [List.flatMap_cons, List.append_assoc]
    exact readPieces_part p ih

/-- **The expression of a pattern can be read**, and has a piece for each character of it. -/
theorem read?_expression (pattern : List Char) : Regular.read? (expression pattern) =
    some ⟨true, ⟨.start, false⟩ :: (pattern.map pieceOf ++ [⟨.finish, false⟩])⟩ := by
  refine Regular.read?_acrossLines ?_
  show Regular.readPieces ('^' :: (pattern.flatMap part ++ ['$'])) = _
  simp [Regular.readPieces, Regular.Item.ofChar?, readPieces_parts]

/-! ## What the expression finds -/

/-- A piece stands for what its character takes. -/
theorem standsFor_pieceOf {p : Char} {before taken after : List Char} :
    (pieceOf p).StandsFor true before taken after ↔ Takes p taken := by
  unfold pieceOf Takes Regular.Piece.StandsFor
  by_cases hpercent : p = '%'
  · simp [hpercent, Regular.Item.repeats_point]
  · by_cases hany : p = '_'
    · simp [hany, Regular.Item.StandsFor]
    · simp [hpercent, hany, Regular.Item.StandsFor]

theorem matches_cons {p : Char} {pattern text : List Char} : Matches (p :: pattern) text ↔
    ∃ first others, text = first ++ others ∧ Takes p first ∧ Matches pattern others := by
  constructor
  · rintro ⟨pieces, hpieces, rfl⟩
    obtain ⟨first, others, hfirst, hothers, rfl⟩ := List.forall₂_cons_left_iff.1 hpieces
    exact ⟨first, others.flatten, List.flatten_cons, hfirst, others, hothers, rfl⟩
  · rintro ⟨first, _, rfl, hfirst, others, hothers, rfl⟩
    exact ⟨first :: others, .cons hfirst hothers, List.flatten_cons⟩

/-- The pieces of a pattern and the mark of the end stand for what the pattern matches, at the end
of a text. -/
theorem standFor_pattern {pattern before taken after : List Char} :
    Regular.StandFor true (pattern.map pieceOf ++ [⟨.finish, false⟩]) before taken after ↔
      Matches pattern taken ∧ after = [] := by
  induction pattern generalizing before taken with
  | nil =>
    rw [matches_nil]
    constructor
    · rintro ⟨first, others, rfl, ⟨rfl, hafter⟩, rfl⟩
      exact ⟨rfl, hafter⟩
    · rintro ⟨rfl, rfl⟩
      exact ⟨[], [], rfl, ⟨rfl, rfl⟩, rfl⟩
  | cons p pattern ih =>
    rw [matches_cons]
    constructor
    · rintro ⟨first, others, rfl, hfirst, hothers⟩
      obtain ⟨hmatches, hafter⟩ := ih.1 hothers
      exact ⟨⟨first, others, rfl, standsFor_pieceOf.1 hfirst, hmatches⟩, hafter⟩
    · rintro ⟨⟨first, others, rfl, hfirst, hmatches⟩, hafter⟩
      exact ⟨first, others, rfl, standsFor_pieceOf.2 hfirst, ih.2 ⟨hmatches, hafter⟩⟩

/-- **A pattern matches what its expression finds.**  The expression can be read, and it finds
something in a text exactly if matching the pattern says so. -/
theorem holds_iff_expression (text pattern : List Char) : holds text pattern = true ↔
    ∃ e, Regular.read? (expression pattern) = some e ∧ e.FindsIn text := by
  rw [holds_iff, read?_expression]
  constructor
  · intro hmatches
    refine ⟨_, rfl, [], text, [], (List.append_nil text).symm, ?_⟩
    exact ⟨[], text, rfl, ⟨rfl, rfl⟩, standFor_pattern.2 ⟨hmatches, rfl⟩⟩
  · rintro ⟨_, ⟨⟩, before, taken, after, rfl, first, others, rfl, ⟨rfl, rfl⟩, hothers⟩
    obtain ⟨hmatches, rfl⟩ := standFor_pattern.1 hothers
    simpa using hmatches

/-- What has a meaning in expressions is escaped, and a point is not what `_` is short for. -/
example : String.ofList (expression "a_.%".toList) = "(?s)^a.\\..*$" := by decide

end Like

end StepScript
