/-
# Where a text occurs

`places` lists the positions at which one text occurs in another.  The searches are read off them:
a cut is made at the first place, and the pieces of a text lie between its places.  A text is cut
in one way only into parts that start at given positions, so the places tell the pieces.
-/
import StepScript.Proofs.Text.Search

namespace StepScript.Text

/-! ## Places -/

/-- The positions of a non-empty `pat` in a text whose first character stands at `position`. -/
def placesFrom (pat : List Char) (position : Nat) : List Char → List Nat
  | [] => []
  | c :: cs =>
    if startsWith pat (c :: cs) then position :: placesFrom pat (position + 1) cs
    else placesFrom pat (position + 1) cs

/-- The positions of a non-empty `pat` in a text. -/
def places (pat s : List Char) : List Nat := placesFrom pat 0 s

variable {pat s : List Char} {position : Nat}

theorem placesFrom_eq_nil (hpat : pat ≠ []) : placesFrom pat position s = [] ↔ ¬ pat <:+: s := by
  induction s generalizing position with
  | nil => simp [placesFrom, hpat]
  | cons c cs ih =>
    rw [placesFrom, List.infix_cons_iff, not_or, ← ih, ← startsWith_iff]
    split
    next hstart => simp [hstart]
    next hstart => exact ⟨fun h => ⟨hstart, h⟩, fun h => h.2⟩

/-- No place is in a stretch without the first character of the pattern. -/
theorem placesFrom_append_of_not_mem {c : Char} {xs : List Char} (h : c ∉ xs) (pat ys : List Char)
    (position : Nat) :
    placesFrom (c :: pat) position (xs ++ ys) =
      placesFrom (c :: pat) (position + xs.length) ys := by
  induction xs generalizing position with
  | nil => rfl
  | cons x xs ih =>
    rw [List.mem_cons, not_or] at h
    rw [List.cons_append, placesFrom, startsWith_cons_ne (Ne.symm h.1), if_neg (by simp), ih h.2,
      List.length_cons, Nat.add_assoc, Nat.add_comm 1]

/-- A pattern whose first character is found once in it does not overlap itself. -/
theorem placesFrom_append_self {c : Char} {pat : List Char} (h : c ∉ pat) (rest : List Char)
    (position : Nat) :
    placesFrom (c :: pat) position (c :: pat ++ rest) =
      position :: placesFrom (c :: pat) (position + (c :: pat).length) rest := by
  rw [List.cons_append, placesFrom, ← List.cons_append, startsWith_append, if_pos rfl,
    placesFrom_append_of_not_mem h, List.length_cons, Nat.add_assoc, Nat.add_comm 1]

/-! ## Cuts -/

/-- A text can be cut at a pattern if the pattern stands in it. -/
theorem occurs_iff : occurs pat s = true ↔ pat <:+: s := by
  unfold occurs
  induction s with
  | nil => cases pat <;> simp [cut?, after?]
  | cons c cs ih =>
    rw [cut?, List.infix_cons_iff, ← ih, ← startsWith_iff, startsWith]
    cases after? pat (c :: cs) <;> simp

theorem contains_iff {text pattern : String} :
    contains text pattern = true ↔ pattern.toList <:+: text.toList := occurs_iff

/-- **A text is cut at the first place.** -/
theorem cut?_eq_some (hpat : pat ≠ []) (position : Nat) {before rest : List Char} :
    cut? pat s = some (before, rest) ↔ s = before ++ pat ++ rest ∧
      (placesFrom pat position s).head? = some (position + before.length) := by
  induction s generalizing position before with
  | nil =>
    have hnone : after? pat [] = none := by
      obtain ⟨p, ps, rfl⟩ := List.exists_cons_of_ne_nil hpat
      rfl
    simp [cut?, placesFrom, hnone]
  | cons c cs ih =>
    rw [cut?, placesFrom]
    cases hafter : after? pat (c :: cs) with
    | some behind =>
      have hsplit := after?_eq_some.1 hafter
      have hstart : startsWith pat (c :: cs) = true := by rw [startsWith, hafter]; rfl
      rw [if_pos hstart]
      constructor
      · intro h
        cases h
        exact ⟨hsplit, rfl⟩
      · rintro ⟨htext, hhead⟩
        have hlength : before.length = 0 := by
          have := Option.some.inj hhead
          omega
        obtain rfl := List.eq_nil_of_length_eq_zero hlength
        rw [hsplit, List.nil_append, List.append_cancel_left_eq] at htext
        rw [htext]
    | none =>
      have hstart : ¬ pat <+: c :: cs := by
        rw [← startsWith_iff, startsWith, hafter]
        simp
      rw [if_neg (by rwa [startsWith_iff])]
      cases before with
      | nil =>
        constructor
        · intro h
          obtain ⟨_, _, heq⟩ := Option.map_eq_some_iff.1 h
          cases heq
        · rintro ⟨htext, _⟩
          exact absurd ⟨rest, htext.symm⟩ hstart
      | cons b before =>
        have hlength : position + (b :: before).length = position + 1 + before.length := by
          rw [List.length_cons, Nat.add_assoc, Nat.add_comm 1]
        rw [hlength, List.cons_append, List.cons_append, List.cons.injEq, and_assoc,
          ← ih (position + 1)]
        constructor
        · intro h
          obtain ⟨_, hcut, heq⟩ := Option.map_eq_some_iff.1 h
          cases heq
          exact ⟨rfl, hcut⟩
        · rintro ⟨rfl, hcut⟩
          rw [hcut]
          rfl

/-- What stands before a cut is free of the pattern. -/
theorem not_infix_of_cut? (hpat : pat ≠ []) {before rest : List Char}
    (h : cut? pat s = some (before, rest)) : ¬ pat <:+: before := by
  induction s generalizing before with
  | nil =>
    obtain ⟨_, _, heq⟩ := Option.map_eq_some_iff.1 h
    cases heq
    simpa using hpat
  | cons c cs ih =>
    rw [cut?] at h
    split at h
    next =>
      cases h
      simpa using hpat
    next hafter =>
      obtain ⟨⟨front, _⟩, hcut, heq⟩ := Option.map_eq_some_iff.1 h
      cases heq
      obtain ⟨hsplit, _⟩ := (cut?_eq_some hpat 0).1 hcut
      rw [List.infix_cons_iff, not_or]
      refine ⟨fun hprefix => ?_, ih hcut⟩
      -- the pattern would have been found at the first character already
      have hstart : pat <+: c :: cs := by
        rw [hsplit, List.append_assoc, ← List.cons_append]
        exact hprefix.trans (List.prefix_append _ _)
      rw [← startsWith_iff, startsWith, hafter] at hstart
      cases hstart

/-! ## Parts -/

/-- Where parts start that stand behind each other from `position` on. -/
def starts (position : Nat) : List (List Char) → List Nat
  | [] => []
  | part :: rest => position :: starts (position + part.length) rest

/-- A text is cut in one way only into parts that start at given positions. -/
theorem eq_of_starts {parts parts' : List (List Char)}
    (hstarts : starts position parts = starts position parts')
    (htext : parts.flatten = parts'.flatten) : parts = parts' := by
  induction parts generalizing position parts' with
  | nil =>
    cases parts' with
    | nil => rfl
    | cons part' rest' => cases hstarts
  | cons part rest ih =>
    cases parts' with
    | nil => cases hstarts
    | cons part' rest' =>
      have hrest := (List.cons.inj hstarts).2
      -- the first part ends where the second one starts, or else with the text
      cases rest with
      | nil =>
        cases rest' with
        | nil => simpa using htext
        | cons _ _ => cases hrest
      | cons next rest =>
        cases rest' with
        | nil => cases hrest
        | cons next' rest' =>
          have hlength : part.length = part'.length := by
            have := (List.cons.inj hrest).1
            omega
          obtain ⟨rfl, hflatten⟩ := List.append_inj htext hlength
          rw [ih hrest hflatten]

/-- Two texts before the same places are the same. -/
theorem eq_of_starts_append {front front' : List Char} {parts parts' : List (List Char)}
    (hstarts : starts front.length parts = starts front'.length parts')
    (htext : front ++ parts.flatten = front' ++ parts'.flatten) : parts = parts' := by
  cases parts with
  | nil =>
    cases parts' with
    | nil => rfl
    | cons _ _ => cases hstarts
  | cons part rest =>
    cases parts' with
    | nil => cases hstarts
    | cons part' rest' =>
      have hlength := (List.cons.inj hstarts).1
      obtain ⟨rfl, hflatten⟩ := List.append_inj htext hlength
      exact eq_of_starts hstarts hflatten

/-! ## Pieces -/

/-- The search for pieces leaps over consumed text. -/
theorem piecesFrom_length_append (pat xs ys : List Char) :
    piecesFrom pat xs.length (xs ++ ys) = pieces pat ys := by
  induction xs with
  | nil => rfl
  | cons x xs ih => exact ih

theorem pieces_append_self (c : Char) (pat rest : List Char) :
    pieces (c :: pat) (c :: pat ++ rest) = [] :: pieces (c :: pat) rest := by
  rw [List.cons_append]
  show piecesFrom (c :: pat) 0 (c :: (pat ++ rest)) = _
  rw [piecesFrom, ← List.cons_append, startsWith_append, if_pos rfl, List.length_cons,
    Nat.add_sub_cancel, piecesFrom_length_append]

/-- **The pieces of a text lie between the places of the pattern.**  Behind the first piece, each
piece with the pattern in front of it is a part of the text that starts at a place. -/
theorem exists_pieces {c : Char} {pat : List Char} (h : c ∉ pat) (s : List Char) (position : Nat) :
    ∃ front others, pieces (c :: pat) s = front :: others ∧
      s = front ++ (others.map (c :: pat ++ ·)).flatten ∧
      placesFrom (c :: pat) position s =
        starts (position + front.length) (others.map (c :: pat ++ ·)) := by
  -- a place is followed by the rest of the text behind the whole pattern
  induction hn : s.length using Nat.strong_induction_on generalizing s position with
  | _ n ih =>
    subst hn
    cases s with
    | nil => exact ⟨[], [], rfl, rfl, rfl⟩
    | cons d cs =>
      by_cases hstart : c :: pat <+: d :: cs
      · obtain ⟨rest, hrest⟩ := hstart
        rw [← hrest] at ih ⊢
        have hshorter : rest.length < (c :: pat ++ rest).length := by
          rw [List.length_append, List.length_cons]
          omega
        obtain ⟨front, others, hpieces, htext, hplaces⟩ :=
          ih _ hshorter rest (position + (c :: pat).length) rfl
        refine ⟨[], front :: others, ?_, ?_, ?_⟩
        · rw [pieces_append_self, hpieces]
        · rw [List.map_cons, List.flatten_cons, List.nil_append, List.append_assoc, ← htext]
        · rw [placesFrom_append_self h, hplaces, List.map_cons, starts, List.length_append,
            Nat.add_assoc]
          rfl
      · have hnot : startsWith (c :: pat) (d :: cs) = false :=
          Bool.eq_false_iff.2 fun hs => hstart (startsWith_iff.1 hs)
        obtain ⟨front, others, hpieces, htext, hplaces⟩ :=
          ih _ (Nat.lt_succ_self cs.length) cs (position + 1) rfl
        refine ⟨d :: front, others, ?_, ?_, ?_⟩
        · show piecesFrom (c :: pat) 0 (d :: cs) = _
          rw [piecesFrom, hnot, if_neg (by simp)]
          show (match pieces (c :: pat) cs with | [] => _ | piece :: rest => _) = _
          rw [hpieces]
        · rw [List.cons_append, ← htext]
        · rw [placesFrom, hnot, if_neg (by simp), hplaces, List.length_cons, Nat.add_assoc,
            Nat.add_comm 1]

end StepScript.Text
