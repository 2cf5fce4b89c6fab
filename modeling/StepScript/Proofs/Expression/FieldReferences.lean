/-
# References to fields

While a body is filled in, a reference to a field of a reserved name stays for the command that
knows the record.  A text is cut at these references (`Cut`), and each pass works on the pieces and
leaves what is between them: `Spares` says so for one name, and carries over from a pass to any
number of passes.  The passes over the session variables look at the reserved names, and those over
references in braces cannot meet a field reference.  The passes over the environment do not look,
so a captured variable must not share the spelling of a field reference (`Reference.FoldedClear`).
-/
import StepScript.Command.Run
import StepScript.Proofs.Expression.EnvironmentReferences

namespace StepScript

/-! ## Occurrences up to letter case -/

namespace Reference

/-- No occurrence of a pattern, up to letter case, starts in a text, whatever follows the text. -/
def FoldedClear (pat s : List Char) : Prop :=
  ∀ t ∈ s.tails, t ≠ [] → ¬ IsFoldedPrefix pat t ∧ ¬ IsFoldedPrefix t pat

instance (pat s : List Char) : Decidable (FoldedClear pat s) :=
  inferInstanceAs (Decidable (∀ t ∈ s.tails, _))

theorem FoldedClear.tail {pat s : List Char} {c : Char} (h : FoldedClear pat (c :: s)) :
    FoldedClear pat s := by
  intro t ht
  exact h t ((List.mem_tails _ _).2 (((List.mem_tails _ _).1 ht).trans (List.suffix_cons c s)))

theorem isFoldedPrefix_cons {p c : Char} {ps cs : List Char} :
    IsFoldedPrefix (p :: ps) (c :: cs) ↔
      Text.foldChar p = Text.foldChar c ∧ IsFoldedPrefix ps cs := by
  unfold IsFoldedPrefix
  rw [afterFolded?]
  by_cases h : Text.foldChar p = Text.foldChar c
  · rw [if_pos h]
    exact ⟨fun hs => ⟨h, hs⟩, fun hs => hs.2⟩
  · rw [if_neg h]
    exact ⟨fun hs => absurd hs (by simp), fun hs => absurd hs.1 h⟩

theorem isFoldedPrefix_nil (s : List Char) : IsFoldedPrefix [] s := rfl

theorem not_isFoldedPrefix_nil (p : Char) (ps : List Char) : ¬ IsFoldedPrefix (p :: ps) [] := by
  simp [IsFoldedPrefix, afterFolded?]

/-- Of two starts of a text, one starts the other. -/
theorem isFoldedPrefix_or_of_append {s pat rest : List Char} (h : IsFoldedPrefix s (pat ++ rest)) :
    IsFoldedPrefix s pat ∨ IsFoldedPrefix pat s := by
  induction pat generalizing s with
  | nil => exact .inr (isFoldedPrefix_nil s)
  | cons p pat ih =>
    cases s with
    | nil => exact .inl (isFoldedPrefix_nil _)
    | cons c s =>
      rw [List.cons_append, isFoldedPrefix_cons] at h
      obtain ⟨hfold, hrest⟩ := h
      rw [isFoldedPrefix_cons, isFoldedPrefix_cons]
      exact (ih hrest).imp (fun hs => ⟨hfold, hs⟩) (fun hs => ⟨hfold.symm, hs⟩)

/-- A text in which no occurrence of a pattern starts is found in front of the pattern or not at
all. -/
theorem isFoldedPrefix_append_of_clear {pat s : List Char} (h : FoldedClear pat s)
    (t rest : List Char) : IsFoldedPrefix s (t ++ (pat ++ rest)) ↔ IsFoldedPrefix s t := by
  induction t generalizing s with
  | nil =>
    cases s with
    | nil => exact Iff.rfl
    | cons c s =>
      have hclear := h (c :: s) ((List.mem_tails _ _).2 List.suffix_rfl) (List.cons_ne_nil c s)
      constructor
      · intro hbegins
        rw [List.nil_append] at hbegins
        rcases isFoldedPrefix_or_of_append hbegins with hs | hpat
        · exact absurd hs hclear.2
        · exact absurd hpat hclear.1
      · intro hbegins
        exact absurd hbegins (not_isFoldedPrefix_nil c s)
  | cons d t ih =>
    cases s with
    | nil => exact Iff.rfl
    | cons c s => rw [List.cons_append, isFoldedPrefix_cons, isFoldedPrefix_cons, ih h.tail]

end Reference

namespace Evaluator

open Reference (FoldedClear IsFoldedPrefix environmentMark)

/-! ## Cutting a text at its field references -/

theorem colon_not_mem_append_point {name : String} (h : ':' ∉ name.toList) :
    ':' ∉ name.toList ++ ['.'] := by
  simpa using h

/-- The reserved names whose fields a text refers to, in the order of the references. -/
def fieldReferences (reserved : List String) : List Char → List String
  | [] => []
  | c :: rest =>
    (reserved.find? fun name => Text.startsWith (fieldMark name) (c :: rest)).toList ++
      fieldReferences reserved rest

/-- A text in pieces: what is in front of the first field reference, and what is behind the mark of
each one. -/
structure Cut (reserved : List String) where
  front : List Char
  marked : List ({name // name ∈ reserved} × List Char)

namespace Cut

variable {reserved : List String}

/-- The pieces put together, with the marks between them. -/
def text (cut : Cut reserved) : List Char :=
  cut.front ++ cut.marked.flatMap fun m => fieldMark m.1 ++ m.2

/-- The names at the marks. -/
def names (cut : Cut reserved) : List String :=
  cut.marked.map fun m => m.1

/-- A change to every piece; the marks stay. -/
def map (f : List Char → List Char) (cut : Cut reserved) : Cut reserved :=
  ⟨f cut.front, cut.marked.map fun m => (m.1, f m.2)⟩

/-- What has no colon ends before the first mark. -/
theorem prefix_front {pat : List Char} (hpat : ':' ∉ pat) {cut : Cut reserved}
    (h : pat <+: cut.text) : pat <+: cut.front := by
  obtain ⟨front, marked⟩ := cut
  cases marked with
  | nil => rwa [text, List.flatMap_nil, List.append_nil] at h
  | cons m marked =>
    rw [text, List.flatMap_cons, List.append_assoc, fieldMark_append, ← Text.startsWith_iff,
      Text.startsWith_append_cons hpat, Text.startsWith_iff] at h
    exact h

theorem colon_mem_text (cut : Cut reserved) (h : cut.names ≠ []) : ':' ∈ cut.text := by
  obtain ⟨front, marked⟩ := cut
  cases marked with
  | nil => exact absurd rfl h
  | cons m marked => simp [text, fieldMark]

/-- Every text can be cut at all its references to fields of names without colons. -/
theorem exists_of_text (hcolon : ∀ name ∈ reserved, ':' ∉ name.toList) (s : List Char) :
    ∃ cut : Cut reserved, cut.text = s ∧ cut.names = fieldReferences reserved s := by
  induction s with
  | nil => exact ⟨⟨[], []⟩, rfl, rfl⟩
  | cons c s ih =>
    obtain ⟨⟨front, marked⟩, htext, hnames⟩ := ih
    rw [fieldReferences]
    cases hfound : reserved.find? fun name => Text.startsWith (fieldMark name) (c :: s) with
    | none => exact ⟨⟨c :: front, marked⟩, congrArg (c :: ·) htext, hnames⟩
    | some name =>
      have hmem := List.mem_of_find?_eq_some hfound
      have hstart : Text.startsWith (fieldMark name) (c :: s) = true := by
        simpa using List.find?_some hfound
      obtain ⟨rfl, hbegins⟩ := List.cons_prefix_cons.1 (Text.startsWith_iff.1 hstart)
      have hpoint := colon_not_mem_append_point (hcolon name hmem)
      -- the rest of the mark stands in the first piece of what follows the colon
      rw [← htext] at hbegins
      obtain ⟨piece, hpiece⟩ := prefix_front hpoint hbegins
      refine ⟨⟨[], (⟨name, hmem⟩, piece) :: marked⟩, ?_, congrArg (name :: ·) hnames⟩
      rw [← htext, text, text, ← hpiece]
      simp [fieldMark]

end Cut

/-! ## Passes that spare a mark -/

/-- A pass leaves the mark of a field reference as it is, and works on both sides of it alone. -/
def Spares (name : String) (f : List Char → List Char) : Prop :=
  ∀ front rest, f (front ++ (fieldMark name ++ rest)) = f front ++ (fieldMark name ++ f rest)

theorem Spares.comp {name : String} {f g : List Char → List Char} (hf : Spares name f)
    (hg : Spares name g) : Spares name fun s => g (f s) := by
  intro front rest
  show g (f _) = g (f front) ++ (fieldMark name ++ g (f rest))
  rw [hf, hg]

/-- Passes one after the other spare what each of them spares. -/
theorem Spares.foldl {β : Type} {name : String} {f : β → List Char → List Char} {bindings : List β}
    (h : ∀ b ∈ bindings, Spares name (f b)) :
    Spares name fun s => bindings.foldl (fun s b => f b s) s := by
  induction bindings with
  | nil => exact fun _ _ => rfl
  | cons b bindings ih =>
    exact (h b List.mem_cons_self).comp (ih fun b' hb' => h b' (List.mem_cons_of_mem b hb'))

/-- A pass that spares every reserved name works on the pieces of a text one by one. -/
theorem Spares.text {reserved : List String} {f : List Char → List Char}
    (h : ∀ name ∈ reserved, Spares name f) (cut : Cut reserved) :
    f cut.text = (cut.map f).text := by
  obtain ⟨front, marked⟩ := cut
  induction marked generalizing front with
  | nil => simp [Cut.text, Cut.map]
  | cons m marked ih =>
    obtain ⟨⟨name, hname⟩, piece⟩ := m
    have hpiece := ih piece
    simp only [Cut.text, Cut.map, List.map_cons, List.flatMap_cons, List.append_assoc]
      at hpiece ⊢
    rw [h name hname, hpiece]

/-! ## Each kind of pass -/

variable {reserved : List String} {name : String}

/-- A pass spares a mark if the mark keeps the edits in front of it apart from what follows, and the
pass copies the mark. -/
theorem spares_replaceWith {edit : List Char → Option (Nat × List Char)}
    (hsame : ∀ t rest, t ≠ [] → edit (t ++ (fieldMark name ++ rest)) = edit t)
    (hfits : ∀ t n out, edit t = some (n, out) → n ≤ t.length)
    (hcopy : ∀ rest, Text.replaceWith edit (fieldMark name ++ rest) =
      fieldMark name ++ Text.replaceWith edit rest) : Spares name (Text.replaceWith edit) := by
  intro front rest
  rw [Text.replaceWith_append (fun t => hsame t rest) hfits, hcopy]

/-- A pass that replaces one text consumes what is there. -/
theorem le_length_of_edit {pat t out out' : List Char} {n : Nat}
    (h : (if Text.startsWith pat t then some (pat.length, out) else none) = some (n, out')) :
    n ≤ t.length := by
  split at h
  · rename_i hstart
    cases h
    exact (Text.startsWith_iff.1 hstart).length_le
  · cases h

/-- A pass over the environment spares a mark that does not start in a reference to its variable. -/
theorem spares_fillEnvironment (hname : ':' ∉ name.toList) {key : String}
    (hclear : FoldedClear (fieldMark name) (environmentMark ++ key.toList)) (value : String) :
    Spares name (fillEnvironment key value) := by
  have hbegins := Reference.isFoldedPrefix_append_of_clear hclear
  have hnone : ∀ {s}, ¬ IsFoldedPrefix (environmentMark ++ key.toList) s →
      (Reference.afterFolded? (environmentMark ++ key.toList) s).map
        (fun _ => ((environmentMark ++ key.toList).length, value.toList)) = none := by
    intro s hs
    rw [Option.not_isSome_iff_eq_none.1 hs]
    rfl
  refine spares_replaceWith (fun t rest _ => ?_) (fun t n out h => ?_) fun rest => ?_
  · by_cases h : IsFoldedPrefix (environmentMark ++ key.toList) t
    · obtain ⟨behind, hbehind⟩ := Option.isSome_iff_exists.1 h
      obtain ⟨behind', hbehind'⟩ := Option.isSome_iff_exists.1 ((hbegins t rest).2 h)
      rw [hbehind, hbehind']
      rfl
    · rw [hnone h, hnone fun h' => h ((hbegins t rest).1 h')]
  · obtain ⟨behind, hbehind, heq⟩ := Option.map_eq_some_iff.1 h
    cases heq
    exact (Reference.afterFolded?_eq_some hbehind).1
  -- the mark itself is no reference to the variable, and none starts behind its colon
  · have hmark : ¬ IsFoldedPrefix (environmentMark ++ key.toList) (fieldMark name ++ rest) :=
      fun h => Reference.not_isFoldedPrefix_nil _ _ ((hbegins [] rest).1 h)
    have hpoint := colon_not_mem_append_point hname
    rw [fieldMark_append] at hmark
    rw [fieldMark_append, Text.replaceWith_cons_of_none (hnone hmark),
      Text.replaceWith_append_of_none, fieldMark_append]
    intro x hx more
    refine hnone fun h => ?_
    have hfold := (Reference.isFoldedPrefix_cons.1 h).1
    have hx' : x = ':' := Text.foldChar_eq_colon hfold.symm
    exact hpoint (hx' ▸ hx)

/-- Field references in front of a colon are seen without what follows it. -/
theorem isFieldReference_append_colon (hcolon : ∀ r ∈ reserved, ':' ∉ r.toList)
    (s rest : List Char) :
    isFieldReference reserved (s ++ ':' :: rest) = isFieldReference reserved s := by
  unfold isFieldReference
  rw [Bool.eq_iff_iff, List.any_eq_true, List.any_eq_true]
  refine exists_congr fun r => and_congr_right fun hr => ?_
  rw [Text.startsWith_append_cons (colon_not_mem_append_point (hcolon r hr))]

/-- A pass over the session spares the marks of the reserved names. -/
theorem spares_fillSession (hcolon : ∀ r ∈ reserved, ':' ∉ r.toList) (hmem : name ∈ reserved)
    {key : String} (hkey : ':' ∉ key.toList) (value : String) :
    Spares name (fillSession reserved key value) := by
  refine spares_replaceWith (fun t rest ht => ?_) (fun t n out h => ?_) fun rest => ?_
  · obtain ⟨c, t, rfl⟩ := List.exists_cons_of_ne_nil ht
    rw [fieldMark_append, List.cons_append]
    by_cases hc : c = ':'
    · subst hc
      rw [Text.startsWith_cons_self, Text.startsWith_cons_self, Text.startsWith_append_cons hkey,
        List.drop_one, List.drop_one, List.tail_cons, List.tail_cons,
        isFieldReference_append_colon hcolon]
    · rw [Text.startsWith_cons_ne hc, Text.startsWith_cons_ne hc]
      rfl
  · exact le_length_of_edit h
  · have hfield : isFieldReference reserved (name.toList ++ ['.'] ++ rest) = true :=
      List.any_eq_true.2 ⟨name, hmem, Text.startsWith_append _ _⟩
    have hpoint := colon_not_mem_append_point (hcolon name hmem)
    exact (fillSession_field hkey hfield).trans
      (congrArg (':' :: ·) (fillSession_append hpoint rest))

/-- A pass over the references in braces spares the mark of a name without braces. -/
theorem spares_fillBraced (hname : '{' ∉ name.toList) {key : String} (hkey : ':' ∉ key.toList)
    (value : String) : Spares name (fillBraced key value) := by
  have hpat : ':' ∉ '{' :: key.toList ++ ['}'] := by simpa using hkey
  refine spares_replaceWith (fun t rest _ => ?_) (fun t n out h => ?_) fun rest => ?_
  · rw [fieldMark_append, Text.startsWith_append_cons hpat]
  · exact le_length_of_edit h
  · have hmark : '{' ∉ fieldMark name := by simpa [fieldMark] using hname
    exact Text.replace_append_of_clear (Text.clear_of_not_mem hmark _) _ rest

/-! ## All passes -/

/-- A name of a recordset has only white space and characters of names. -/
theorem not_mem_of_isRecordsetName {c : Char} (hblank : Text.isBlank c = false)
    (hword : Text.isWord c = false) (h : Reference.isRecordsetName name = true) :
    c ∉ name.toList := by
  intro hmem
  rcases Text.isBlank_or_mem_trim hmem with hc | hc
  · rw [hblank] at hc
    cases hc
  · rw [words_of_isName h c hc] at hword
    cases hword

theorem spares_fillChars {e : Evaluator} (hnamed : e.WellNamed)
    (hreserved : ∀ r ∈ reserved, Reference.isRecordsetName r = true)
    (hclear : ∀ v ∈ e.environment.entries,
      FoldedClear (fieldMark name) (environmentMark ++ v.1.toList))
    (hmem : name ∈ reserved) : Spares name (e.fillChars reserved) := by
  have hcolon : ∀ r ∈ reserved, ':' ∉ r.toList := fun r hr =>
    not_mem_of_isRecordsetName (by decide) (by decide) (hreserved r hr)
  have hbrace : '{' ∉ name.toList :=
    not_mem_of_isRecordsetName (by decide) (by decide) (hreserved name hmem)
  have hkeys : ∀ v ∈ e.session.entries.reverse, ':' ∉ v.1.toList := fun v hv =>
    colon_not_mem_of_words (words_of_isVariableName (hnamed v (List.mem_reverse.1 hv)))
  have henvironment : ∀ v ∈ e.environment.entries.reverse, Spares name (fillEnvironment v.1 v.2) :=
    fun v hv => spares_fillEnvironment (hcolon name hmem) (hclear v (List.mem_reverse.1 hv)) v.2
  have hsession : ∀ v ∈ e.session.entries.reverse,
      Spares name (fillSession reserved v.1 v.2.display) := fun v hv =>
    spares_fillSession hcolon hmem (hkeys v hv) v.2.display
  have hbraced : ∀ v ∈ e.session.entries.reverse, Spares name (fillBraced v.1 v.2.display) :=
    fun v hv => spares_fillBraced hbrace (hkeys v hv) v.2.display
  exact ((Spares.foldl henvironment).comp (Spares.foldl hsession)).comp (Spares.foldl hbraced)

/-- **Field references survive.**  A body is cut at all its references to fields of reserved names,
and filling it in fills in the pieces: the marks stay between them, in the same order, whatever the
values of the variables are.  A captured variable must not be spelled such that a field reference
starts in a reference to it, as in `:env_rows` for the recordset `env_rows`. -/
theorem fill_keeps_field_references (e : Evaluator) (hnamed : e.WellNamed)
    (recordsets : RecordsetStore)
    (hstored : ∀ r ∈ recordsets.names, Reference.isRecordsetName r = true)
    (reserved : List String) (hreserved : ∀ r ∈ reserved, r ∈ reservedNames recordsets)
    (hclear : ∀ r ∈ reserved, ∀ v ∈ e.environment.entries,
      FoldedClear (fieldMark r) (environmentMark ++ v.1.toList)) (sql : String) :
    ∃ cut : Cut reserved, cut.text = sql.toList ∧
      cut.names = fieldReferences reserved sql.toList ∧
      (e.fill reserved sql).toList = (cut.map (e.fillChars reserved)).text := by
  have hnames : ∀ r ∈ reserved, Reference.isRecordsetName r = true := by
    intro r hr
    rcases List.mem_append.1 (hreserved r hr) with hstore | hfailed
    · exact hstored r hstore
    · rw [List.mem_singleton.1 hfailed]
      decide
  have hcolon : ∀ r ∈ reserved, ':' ∉ r.toList := fun r hr =>
    not_mem_of_isRecordsetName (by decide) (by decide) (hnames r hr)
  obtain ⟨cut, htext, hcut⟩ := Cut.exists_of_text hcolon sql.toList
  refine ⟨cut, htext, hcut, ?_⟩
  rw [fill, String.toList_ofList, ← htext]
  exact Spares.text (fun r hr => spares_fillChars hnamed hnames (hclear r hr) hr) cut

/-- Variables with the name of a recordset, or with the start of it, beside field references. -/
theorem fill_keeps_field_references_shared_names :
    let e : Evaluator := ⟨Table.ofList [("rs", "X"), ("row", "Y")],
      Table.ofList [("row", .integer 7), ("rows", .text ":rows.a")]⟩
    let recordsets : RecordsetStore := Table.ofList [("rows", [])]
    let sql := "a :rows.id :row :rows {row}:env_ROWS :err_record.id"
    (∃ cut : Cut (reservedNames recordsets), cut.text = sql.toList ∧
      cut.names = ["rows", "err_record"] ∧
      (e.fill (reservedNames recordsets) sql).toList =
        (cut.map (e.fillChars (reservedNames recordsets))).text) ∧
      e.fill (reservedNames recordsets) sql = "a :rows.id 7 :rows.a 7YS :err_record.id" := by
  intro e recordsets sql
  have hnames : fieldReferences (reservedNames recordsets) sql.toList = ["rows", "err_record"] := by
    decide
  have h := fill_keeps_field_references e (by decide) recordsets (by decide)
    (reservedNames recordsets) (fun _ hr => hr) (by decide) sql
  rw [hnames] at h
  exact ⟨h, by decide⟩

/-- A captured variable takes the field references of a recordset that is named like it. -/
theorem not_fill_keeps_field_references_of_captured :
    ¬ ∀ (e : Evaluator) (recordsets : RecordsetStore), e.WellNamed →
      (∀ r ∈ recordsets.names, Reference.isRecordsetName r = true) → ∀ sql : String,
      ∃ cut : Cut (reservedNames recordsets),
        cut.names = fieldReferences (reservedNames recordsets) sql.toList ∧
        (e.fill (reservedNames recordsets) sql).toList = cut.text := by
  intro h
  let e : Evaluator := ⟨Table.ofList [("rs", "X")], Table.empty⟩
  let recordsets : RecordsetStore := Table.ofList [("env_rs", [])]
  obtain ⟨cut, hnames, htext⟩ := h e recordsets (by decide) (by decide) ":env_rs.id"
  have hreferences :
      fieldReferences (reservedNames recordsets) ":env_rs.id".toList = ["env_rs"] := by decide
  have hfill : (e.fill (reservedNames recordsets) ":env_rs.id").toList = ['X', '.', 'i', 'd'] := by
    decide
  have hcolon := cut.colon_mem_text (by rw [hnames, hreferences]; simp)
  rw [← htext, hfill] at hcolon
  exact absurd hcolon (by decide)

end Evaluator

end StepScript
