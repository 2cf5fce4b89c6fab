/-
# Reading step files

A step file is cut where tags are opened, and each part is read on its own.  The command and the
arguments come from the text between the opening of the tag and the first closing behind it; the
body comes from a search of its own over the whole part.  Where the two meet is the only place at
which they could disagree: in `/*-*/` the closing shares a character with the opening.  No known
command has a name that starts there, so nothing of an accepted file is lost:
`readAll_keeps_contents`.
-/
import StepScript.Proofs.Registry
import StepScript.Proofs.Text.Places

namespace StepScript

/-- A tag that starts with a word has this word, from its first character on, as its first token. -/
theorem head?_of_tokenizeChars {c : Char} {rest command : List Char}
    {arguments : List (List Char)} (hc : (classify c).startsWord = true)
    (h : tokenizeChars (c :: rest) = .ok (command :: arguments)) : command.head? = some c := by
  obtain ⟨pieces, hpieces, htokens⟩ := tokenizeChars_eq_ok.1 h
  have hfirst := startsWord_classify.1 hc
  cases pieces with
  | nil => cases htokens
  | cons p pieces =>
    obtain ⟨hp, _, behind, htext, _⟩ := segments_cons.1 hpieces
    cases p with
    | blank b =>
      have hb : Text.isBlank b = true := hp
      rw [← (List.cons.inj htext).1, hfirst.1] at hb
      cases hb
    | literal body => exact absurd (List.cons.inj htext).1 hfirst.2.1
    | word first others =>
      rw [(List.cons.inj htokens).1, (List.cons.inj htext).1]
      rfl

/-- No command has a name with an asterisk at its start. -/
theorem Command.head?_name_ne (c : Command) : c.name.toList.head? ≠ some '*' := by
  cases c <;> decide

namespace Statement

open Text (places starts cut?)

/-! ## Parts of a file -/

/-- **The parts of a file start where tags are opened**, and they are all of the file from the first
of these places on. -/
theorem parts_eq_iff {contents : List Char} {texts : List (List Char)} :
    parts contents = texts ↔ ∃ front, contents = front ++ texts.flatten ∧
      places tagOpen contents = starts front.length texts := by
  have honce : '/' ∉ ['*', '-'] := by decide
  obtain ⟨front, others, hpieces, htext, hplaces⟩ := Text.exists_pieces honce contents 0
  rw [Nat.zero_add] at hplaces
  have hparts : parts contents = others.map (tagOpen ++ ·) := by
    show ((Text.pieces ('/' :: ['*', '-']) contents).drop 1).map (tagOpen ++ ·) = _
    rw [hpieces]
    rfl
  rw [hparts]
  constructor
  · rintro rfl
    exact ⟨front, htext, hplaces⟩
  · rintro ⟨front', htext', hplaces'⟩
    exact Text.eq_of_starts_append (hplaces.symm.trans hplaces') (htext.symm.trans htext')

theorem parts_eq_nil {contents : List Char} : parts contents = [] ↔ ¬ tagOpen <:+: contents := by
  rw [parts_eq_iff, ← Text.placesFrom_eq_nil (by decide)]
  constructor
  · rintro ⟨_, _, hplaces⟩
    exact hplaces
  · intro hplaces
    exact ⟨contents, (List.append_nil contents).symm, hplaces⟩

theorem exists_of_mem_parts {contents part : List Char} (h : part ∈ parts contents) :
    ∃ inner, part = tagOpen ++ inner := by
  obtain ⟨inner, _, rfl⟩ := List.mem_map.1 h
  exact ⟨inner, rfl⟩

/-! ## One part -/

/-- The tag of a part is looked for behind its opening. -/
theorem after?_trimStart (inner : List Char) :
    (Text.after? tagOpen (Text.trimStart (tagOpen ++ inner))).getD
      (Text.trimStart (tagOpen ++ inner)) = inner := by
  have hslash : Text.isBlank '/' = false := by decide
  have htrim : Text.trimStart (tagOpen ++ inner) = tagOpen ++ inner := by
    show List.dropWhile _ ('/' :: _) = _
    rw [List.dropWhile_cons, hslash]
    rfl
  rw [htrim, Text.after?_eq_some.2 rfl, Option.getD_some]

/-- A part is read if its tag is closed and has tokens. -/
theorem read_eq_ok {inner : List Char} {s : Statement} :
    read (tagOpen ++ inner) = .ok s ↔ ∃ tag rest command arguments,
      cut? tagClose inner = some (tag, rest) ∧
      tokenizeChars tag = .ok (command :: arguments) ∧
      s = ⟨String.ofList command, arguments.map String.ofList,
        String.ofList (((cut? tagClose (tagOpen ++ inner)).map (·.2)).getD []),
        String.ofList (tagOpen ++ inner)⟩ := by
  unfold read readTag
  dsimp only
  rw [after?_trimStart, Outcome.bind_eq_ok]
  constructor
  · rintro ⟨⟨command, arguments⟩, htag, h⟩
    cases h
    split at htag
    · cases htag
    · rename_i tag rest hcut
      obtain ⟨tokens, htokens, htag⟩ := Outcome.bind_eq_ok.1 htag
      cases tokens with
      | nil => cases htag
      | cons command arguments =>
        cases htag
        exact ⟨tag, rest, command, arguments, hcut, htokens, rfl⟩
  · rintro ⟨tag, rest, command, arguments, hcut, htokens, rfl⟩
    refine ⟨(String.ofList command, arguments.map String.ofList), ?_, rfl⟩
    rw [hcut]
    exact Outcome.bind_eq_ok.2 ⟨_, htokens, rfl⟩

/-- A part that is not read has a fault in its tag. -/
theorem read_ne_noStatements {contents part : List Char} (hpart : part ∈ parts contents) :
    read part ≠ .error .noStatements := by
  obtain ⟨inner, rfl⟩ := exists_of_mem_parts hpart
  intro h
  unfold read readTag at h
  dsimp only at h
  rw [after?_trimStart] at h
  rcases Outcome.bind_eq_error.1 h with htag | ⟨_, _, h⟩
  · split at htag
    · cases htag
    · rcases Outcome.bind_eq_error.1 htag with htokens | ⟨tokens, _, htag⟩
      · obtain ⟨_, _, heq, _⟩ := exists_of_tokenizeChars_error htokens
        cases heq
      · split at htag
        · cases htag
        · cases htag
  · cases h

/-- The search for the body finds the closing that ends the tag, or one that shares a character
with the opening. -/
theorem cut?_tagClose (inner : List Char) :
    cut? tagClose (tagOpen ++ inner) =
      match Text.after? ['*', '/'] inner with
      | some rest => some (['/', '*'], rest)
      | none => (cut? tagClose inner).map fun (before, rest) => (tagOpen ++ before, rest) := by
  have hslash : Text.after? tagClose ('/' :: '*' :: '-' :: inner) = none := rfl
  have hstar : Text.after? tagClose ('*' :: '-' :: inner) = none := rfl
  have hdash : Text.after? tagClose ('-' :: inner) = Text.after? ['*', '/'] inner := rfl
  show cut? tagClose ('/' :: '*' :: '-' :: inner) = _
  rw [cut?, hslash, cut?, hstar, cut?, hdash]
  cases Text.after? ['*', '/'] inner with
  | some rest => rfl
  | none => cases cut? tagClose inner <;> rfl

/-- The two searches agree on a tag that does not start with the rest of a closing. -/
theorem cut?_tagClose_of_not_prefix {inner tag rest : List Char}
    (hcut : cut? tagClose inner = some (tag, rest)) (h : ¬ ['*', '/'] <+: tag) :
    cut? tagClose (tagOpen ++ inner) = some (tagOpen ++ tag, rest) := by
  obtain ⟨rfl, _⟩ := (Text.cut?_eq_some (by decide) 0).1 hcut
  have hnone : Text.after? ['*', '/'] (tag ++ tagClose ++ rest) = none := by
    cases tag with
    | nil => rfl
    | cons c tag =>
      cases tag with
      -- the rest of a closing does not go on with a closing
      | nil => by_cases hc : '*' = c <;> simp [Text.after?, tagClose, hc]
      | cons d tag =>
        rw [Option.eq_none_iff_forall_ne_some]
        intro behind hbehind
        obtain ⟨rfl, hrest⟩ := List.cons.inj (Text.after?_eq_some.1 hbehind)
        obtain ⟨rfl, _⟩ := List.cons.inj hrest
        exact h ⟨tag, rfl⟩
  rw [cut?_tagClose, hnone, hcut]
  rfl

/-- A statement is its tag and its body. -/
def IsTagged (s : Statement) : Prop :=
  ∃ tag : String, s.text.toList = tagOpen ++ tag.toList ++ tagClose ++ s.body.toList ∧
    ¬ tagClose <:+: tag.toList ∧ tokenize tag = .ok (s.command :: s.arguments)

/-- **Nothing of an accepted statement is lost.** -/
theorem isTagged_of_read {inner : List Char} {s : Statement}
    (h : read (tagOpen ++ inner) = .ok s) (haccepts : Registry.withBuiltins.acceptsAll [s] = true) :
    s.IsTagged := by
  obtain ⟨tag, rest, command, arguments, hcut, htokens, rfl⟩ := read_eq_ok.1 h
  obtain ⟨hinner, _⟩ := (Text.cut?_eq_some (by decide) 0).1 hcut
  have hname : ∃ c : Command, c.name = String.ofList command := by
    have hstatement := List.all_eq_true.1 haccepts _ List.mem_cons_self
    unfold Registry.acceptsStatement at hstatement
    split at hstatement
    · rename_i c hc
      exact ⟨c, Registry.command_withBuiltins.1 hc⟩
    · cases hstatement
  -- an asterisk would start the first token, and so the name of a command
  have htag : ¬ ['*', '/'] <+: tag := by
    rintro ⟨others, rfl⟩
    obtain ⟨c, hc⟩ := hname
    have hhead := head?_of_tokenizeChars (by decide) htokens
    refine c.head?_name_ne ?_
    rw [hc, String.toList_ofList, hhead]
  refine ⟨String.ofList tag, ?_, ?_, ?_⟩
  · simp only [String.toList_ofList, cut?_tagClose_of_not_prefix hcut htag, Option.map_some,
      Option.getD_some]
    rw [hinner]
    simp only [List.append_assoc]
  · rw [String.toList_ofList]
    exact Text.not_infix_of_cut? (by decide) hcut
  · unfold tokenize
    rw [String.toList_ofList, htokens]
    rfl

/-! ## A whole file -/

theorem map_snd_readEach (contents : String) :
    (readEach contents).map (·.2) = (parts contents.toList).map read := by
  unfold readEach
  rw [List.map_map]
  show (List.zipIdx _ 1).map (read ∘ Prod.fst) = _
  rw [← List.map_map, List.zipIdx_map_fst]

/-- A file is read part by part. -/
theorem readAll_eq_ok {contents : String} {statements : List Statement} :
    readAll contents = .ok statements ↔
      List.Forall₂ (fun part s => read part = .ok s) (parts contents.toList) statements ∧
        statements ≠ [] := by
  have hread : (readEach contents).mapM (·.2) = .ok statements ↔
      List.Forall₂ (fun part s => read part = .ok s) (parts contents.toList) statements := by
    have hforall := List.forall₂_map_left_iff (R := fun r s => r = Except.ok s) (f := Prod.snd)
      (l := readEach contents) (u := statements)
    rw [Outcome.mapM_eq_ok, ← hforall, map_snd_readEach, List.forall₂_map_left_iff]
  unfold readAll
  rw [Outcome.bind_eq_ok, ← hread]
  constructor
  · rintro ⟨all, hall, h⟩
    cases all with
    | nil => cases h
    | cons s rest =>
      cases h
      exact ⟨hall, List.cons_ne_nil s rest⟩
  · rintro ⟨hall, hne⟩
    obtain ⟨s, rest, rfl⟩ := List.exists_cons_of_ne_nil hne
    exact ⟨_, hall, rfl⟩

/-- A fault in a tag is why a part is not read. -/
theorem exists_of_mem_tagErrors {contents : String} {entry : Nat × Error}
    (h : entry ∈ tagErrors contents) :
    ∃ part ∈ parts contents.toList, read part = .error entry.2 := by
  obtain ⟨⟨number, e | s⟩, hmem, heq⟩ := List.mem_filterMap.1 h
  · cases heq
    have hread : Except.error e ∈ (parts contents.toList).map read := by
      rw [← map_snd_readEach]
      exact List.mem_map_of_mem hmem
    exact List.mem_map.1 hread
  · cases heq

/-- The error of a file is the first one of its tags. -/
theorem readAll_of_tagErrors {contents : String} {number : Nat} {e : Error}
    {rest : List (Nat × Error)} (h : tagErrors contents = (number, e) :: rest) :
    readAll contents = .error e := by
  unfold tagErrors at h
  unfold readAll
  refine Outcome.bind_eq_error.2 (.inl ?_)
  generalize readEach contents = list at h
  induction list with
  | nil => cases h
  | cons entry list ih =>
    obtain ⟨n, e' | s⟩ := entry
    · obtain ⟨heq, _⟩ := List.cons.inj h
      cases heq
      rfl
    · rw [List.mapM_cons, Outcome.bind_eq_error]
      exact .inr ⟨s, rfl, Outcome.bind_eq_error.2 (.inl (ih h))⟩

/-- A file without faults in its tags is read if it has a tag. -/
theorem exists_readAll_of_no_tagErrors {contents : String} (h : tagErrors contents = [])
    (hopen : tagOpen <:+: contents.toList) : ∃ statements, readAll contents = .ok statements := by
  have heach : ∀ entry ∈ readEach contents, ∃ s, entry.2 = .ok s := by
    rintro ⟨number, e | s⟩ hentry
    · exact absurd (List.filterMap_eq_nil_iff.1 h _ hentry) (by simp)
    · exact ⟨s, rfl⟩
  have hpart : ∀ part ∈ parts contents.toList, ∃ s, read part = .ok s := by
    intro part hpart
    have hmem : read part ∈ (readEach contents).map (·.2) := by
      rw [map_snd_readEach]
      exact List.mem_map_of_mem hpart
    obtain ⟨entry, hentry, heq⟩ := List.mem_map.1 hmem
    rw [← heq]
    exact heach entry hentry
  obtain ⟨statements, hall⟩ := Outcome.exists_mapM_eq_ok hpart
  have hforall := Outcome.mapM_eq_ok.1 hall
  refine ⟨statements, readAll_eq_ok.2 ⟨hforall, ?_⟩⟩
  rintro rfl
  rw [List.forall₂_nil_right_iff] at hforall
  exact parts_eq_nil.1 hforall hopen

/-- The texts of the statements of a file are its parts. -/
theorem map_text_of_forall₂ {parts : List (List Char)} {statements : List Statement}
    (h : List.Forall₂ (fun part s => read part = .ok s) parts statements) :
    statements.map (·.text.toList) = parts := by
  induction h with
  | nil => rfl
  | @cons part s parts statements hread _ ih =>
    obtain ⟨_, _, hs⟩ := Outcome.bind_eq_ok.1 hread
    cases hs
    rw [List.map_cons, ih, String.toList_ofList]

/-- **Reading a file loses nothing.**  A file is read if and only if it has a tag and no fault in
its tags; without a tag it has no statements, and otherwise its error is that of the first tag with
a fault.  The statements of a file that is read start where tags are opened, and behind each other
they are the file from the first of these places on.  An accepted statement is its tag, which no
closing is in, and its body, and the tokens of its tag are the command and the arguments. -/
theorem readAll_keeps_contents (contents : String) :
    ((∃ statements, readAll contents = .ok statements) ↔
      tagErrors contents = [] ∧ tagOpen <:+: contents.toList) ∧
    (readAll contents = .error .noStatements ↔ ¬ tagOpen <:+: contents.toList) ∧
    (∀ number e rest, tagErrors contents = (number, e) :: rest → readAll contents = .error e) ∧
    ∀ statements, readAll contents = .ok statements →
      (∃ front, contents.toList = front ++ (statements.map (·.text.toList)).flatten ∧
        places tagOpen contents.toList =
          starts front.length (statements.map (·.text.toList))) ∧
      ∀ s ∈ statements, Registry.withBuiltins.acceptsAll [s] = true → s.IsTagged := by
  have hopen : ∀ statements, readAll contents = .ok statements → tagOpen <:+: contents.toList := by
    intro statements h
    obtain ⟨hforall, hne⟩ := readAll_eq_ok.1 h
    by_contra hnone
    rw [parts_eq_nil.2 hnone, List.forall₂_nil_left_iff] at hforall
    exact hne hforall
  refine ⟨⟨?_, ?_⟩, ⟨?_, ?_⟩, fun number e rest => readAll_of_tagErrors, ?_⟩
  · rintro ⟨statements, h⟩
    refine ⟨?_, hopen statements h⟩
    cases herrors : tagErrors contents with
    | nil => rfl
    | cons entry rest =>
      rw [readAll_of_tagErrors herrors] at h
      cases h
  · rintro ⟨herrors, hmark⟩
    exact exists_readAll_of_no_tagErrors herrors hmark
  · intro h hmark
    cases herrors : tagErrors contents with
    | nil =>
      obtain ⟨_, hall⟩ := exists_readAll_of_no_tagErrors herrors hmark
      rw [hall] at h
      cases h
    | cons entry rest =>
      rw [readAll_of_tagErrors herrors] at h
      have hentry : entry ∈ tagErrors contents := herrors ▸ List.mem_cons_self
      obtain ⟨part, hpart, hread⟩ := exists_of_mem_tagErrors hentry
      rw [Except.error.inj h] at hread
      exact read_ne_noStatements hpart hread
  · intro hnone
    unfold readAll readEach
    rw [parts_eq_nil.2 hnone]
    rfl
  · intro statements h
    obtain ⟨hforall, _⟩ := readAll_eq_ok.1 h
    refine ⟨parts_eq_iff.1 (map_text_of_forall₂ hforall).symm, fun s hs haccepts => ?_⟩
    obtain ⟨part, hpart, hread⟩ := Outcome.exists_of_mem_mapM (Outcome.mapM_eq_ok.2 hforall) hs
    obtain ⟨inner, rfl⟩ := exists_of_mem_parts hpart
    exact isTagged_of_read hread haccepts

end Statement

end StepScript
