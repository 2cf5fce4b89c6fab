/-
# Printing step files

A draft is a statement that is not written yet.  Printed, its tokens stand in the tag with single
spaces between them, and its body follows the tag.  A file of printed drafts reads as these drafts
whenever its tags are opened and closed by the printer alone, and by nothing that a token, a body or
two neighbours happen to spell: `readAll_print`.
-/
import StepScript.Proofs.Statement.Reading

namespace StepScript

namespace Statement

open Text (places starts cut?)

/-! ## Drafts -/

/-- A statement before it is written. -/
structure Draft where
  command : String
  arguments : List String
  body : String
  /-- The command and the arguments are words and literals. -/
  tokens : ∀ token ∈ command :: arguments, IsToken token.toList

namespace Draft

/-- What stands between the marks of the tag. -/
def tag (d : Draft) : String :=
  " ".intercalate (d.command :: d.arguments)

/-- The statement of a draft. -/
def statement (d : Draft) : Statement :=
  ⟨d.command, d.arguments, d.body, "/*-" ++ d.tag ++ "-*/" ++ d.body⟩

end Draft

/-- A file of drafts, behind text that belongs to none of them. -/
def print (preamble : String) (drafts : List Draft) : String :=
  preamble ++ String.join (drafts.map (·.statement.text))

/-- In a file of drafts, tags are opened at the starts of the statements only, and the first closing
in each statement is the one behind its tag. -/
structure MarksApart (preamble : String) (drafts : List Draft) : Prop where
  opened : places tagOpen (print preamble drafts).toList =
    starts preamble.length (drafts.map (·.statement.text.toList))
  closed : ∀ d ∈ drafts,
    (places tagClose d.statement.text.toList).head? = some ("/*-" ++ d.tag).length

instance (preamble : String) (drafts : List Draft) : Decidable (MarksApart preamble drafts) :=
  decidable_of_iff (_ ∧ _) ⟨fun h => ⟨h.1, h.2⟩, fun h => ⟨h.opened, h.closed⟩⟩

theorem Draft.tokenize_tag (d : Draft) :
    tokenizeChars d.tag.toList =
      .ok (d.command.toList :: d.arguments.map String.toList) :=
  tokenizeChars_intercalate d.tokens

/-- The text of a draft is read back. -/
theorem Draft.read_text {d : Draft}
    (hclosed : (places tagClose d.statement.text.toList).head? = some ("/*-" ++ d.tag).length) :
    read d.statement.text.toList = .ok d.statement := by
  have htext : d.statement.text.toList =
      tagOpen ++ (d.tag.toList ++ tagClose ++ d.body.toList) := by
    simp only [statement, String.toList_append, List.append_assoc]
    rfl
  -- the first closing of the whole text is the one behind the tag
  have hbody : cut? tagClose d.statement.text.toList =
      some (tagOpen ++ d.tag.toList, d.body.toList) := by
    refine (Text.cut?_eq_some (by decide) 0).2 ⟨?_, ?_⟩
    · rw [htext]
      simp only [List.append_assoc]
    · rw [places] at hclosed
      rw [hclosed, Nat.zero_add, ← String.length_toList, String.toList_append]
      rfl
  -- so none overlaps the opening, and the search behind the opening finds the same one
  have htag : cut? tagClose (d.tag.toList ++ tagClose ++ d.body.toList) =
      some (d.tag.toList, d.body.toList) := by
    rw [htext, cut?_tagClose] at hbody
    split at hbody
    · cases hbody
    · obtain ⟨⟨before, rest⟩, hcut, heq⟩ := Option.map_eq_some_iff.1 hbody
      obtain ⟨hbefore, hrest⟩ := Prod.mk.inj heq
      rw [hcut, List.append_cancel_left hbefore, hrest]
  rw [htext] at hbody ⊢
  refine read_eq_ok.2 ⟨_, _, _, _, htag, d.tokenize_tag, ?_⟩
  have harguments : (d.arguments.map String.toList).map String.ofList = d.arguments := by
    simp [Function.comp_def]
  rw [hbody, ← htext, harguments]
  simp only [Option.map_some, Option.getD_some, String.ofList_toList]
  rfl

/-- **Reading undoes printing.**  A file of drafts whose marks are apart reads as the statements of
these drafts, each with its own text, and no tag has a fault. -/
theorem readAll_print {preamble : String} {drafts : List Draft} (hne : drafts ≠ [])
    (h : MarksApart preamble drafts) :
    readAll (print preamble drafts) = .ok (drafts.map Draft.statement) ∧
      tagErrors (print preamble drafts) = [] := by
  have hfile : (print preamble drafts).toList =
      preamble.toList ++ (drafts.map (·.statement.text.toList)).flatten := by
    simp only [print, String.toList_append, String.toList_join, List.flatMap_map]
    rfl
  have hparts : parts (print preamble drafts).toList = drafts.map (·.statement.text.toList) :=
    parts_eq_iff.2 ⟨preamble.toList, hfile, by rw [h.opened, String.length_toList]⟩
  have hall : readAll (print preamble drafts) = .ok (drafts.map Draft.statement) := by
    refine readAll_eq_ok.2 ⟨?_, by simpa using hne⟩
    rw [hparts, List.forall₂_map_left_iff, List.forall₂_map_right_iff, List.forall₂_same]
    exact fun d hd => Draft.read_text (h.closed d hd)
  refine ⟨hall, ?_⟩
  cases herrors : tagErrors (print preamble drafts) with
  | nil => rfl
  | cons entry rest =>
    rw [readAll_of_tagErrors herrors] at hall
    cases hall

/-- A draft with a query, which starts with what closes a comment. -/
def countRows : Draft where
  command := "assign_result"
  arguments := ["cnt"]
  body := "*/ select count(*) from a; /*"
  tokens := by
    intro token htoken
    simp only [List.mem_cons, List.not_mem_nil, or_false] at htoken
    rcases htoken with rfl | rfl
    · exact .inl (by decide)
    · exact .inl (by decide)

/-- A draft with a literal in which a quote stands behind a backslash. -/
def stopIfEmpty : Draft where
  command := "exit_step_if"
  arguments := [":cnt", "=", "'a\\' b'"]
  body := ""
  tokens := by
    intro token htoken
    simp only [List.mem_cons, List.not_mem_nil, or_false] at htoken
    rcases htoken with rfl | rfl | rfl | rfl
    · exact .inl (by decide)
    · exact .inl (by decide)
    · exact .inl (by decide)
    · have hb : LiteralBody ['b'] := .plain (by decide) (by decide) .nil
      have hspace : LiteralBody [' ', 'b'] := .plain (by decide) (by decide) hb
      have hbody : LiteralBody ['a', '\\', '\'', ' ', 'b'] :=
        .plain (by decide) (by decide) (.escaped hspace)
      exact .inr ⟨_, hbody, rfl⟩

/-- Marks that almost meet: neither a closed comment behind a tag nor an opened one in front of the
next tag disturbs the reading. -/
theorem readAll_print_almost_marked :
    MarksApart "/* " [countRows, stopIfEmpty] ∧
    readAll (print "/* " [countRows, stopIfEmpty]) =
      .ok [countRows.statement, stopIfEmpty.statement] ∧
    tagErrors (print "/* " [countRows, stopIfEmpty]) = [] := by
  have h : MarksApart "/* " [countRows, stopIfEmpty] := by decide
  exact ⟨h, readAll_print (List.cons_ne_nil _ _) h⟩

end Statement

end StepScript
