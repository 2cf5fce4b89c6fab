/-
# References to environment variables

A reference to an environment variable has the value of the variable as an expression.  In a body
it is filled in by one pass for each captured variable, names in descending order, and a pass does
not tell the case of letters apart.  So the reference goes to the greatest name that it starts with
up to letter case, and what this pass writes is read by the passes for the smaller names.  That is
the value of the variable itself unless a greater name gets in the way, or the value holds the mark
of a reference.
-/
import StepScript.Proofs.Expression.Filling
import StepScript.Proofs.Expression.Reevaluation
import StepScript.Proofs.Outcome

namespace StepScript

/-! ## Prefixes up to letter case -/

namespace Reference

/-- A text starts with a name up to letter case. -/
def IsFoldedPrefix (name text : List Char) : Prop :=
  (afterFolded? name text).isSome = true

instance (name text : List Char) : Decidable (IsFoldedPrefix name text) :=
  inferInstanceAs (Decidable (_ = true))

/-- Behind an equal start, the rest of the pattern decides. -/
theorem afterFolded?_append (mark name text : List Char) :
    afterFolded? (mark ++ name) (mark ++ text) = afterFolded? name text := by
  induction mark with
  | nil => rfl
  | cons c mark ih => rw [List.cons_append, List.cons_append, afterFolded?, if_pos rfl, ih]

theorem isFoldedPrefix_refl (name : List Char) : IsFoldedPrefix name name := by
  have h := afterFolded?_append name [] []
  rw [List.append_nil] at h
  rw [IsFoldedPrefix, h]
  rfl

/-- What follows a name is the text without as many characters. -/
theorem afterFolded?_eq_some {name text rest : List Char} (h : afterFolded? name text = some rest) :
    name.length ≤ text.length ∧ rest = text.drop name.length := by
  induction name generalizing text with
  | nil =>
    cases h
    exact ⟨Nat.zero_le _, rfl⟩
  | cons n name ih =>
    cases text with
    | nil => cases h
    | cons c text =>
      rw [afterFolded?] at h
      split at h
      · obtain ⟨hle, hrest⟩ := ih h
        exact ⟨Nat.succ_le_succ hle, hrest⟩
      · cases h

/-- Where the mark of a reference is not found, no name behind the mark is. -/
theorem afterFolded?_mark_append {text : List Char}
    (h : afterFolded? environmentMark text = none) (name : List Char) :
    afterFolded? (environmentMark ++ name) text = none := by
  generalize environmentMark = mark at h
  induction mark generalizing text with
  | nil => cases h
  | cons m mark ih =>
    cases text with
    | nil => rfl
    | cons c text =>
      rw [afterFolded?] at h
      rw [List.cons_append, afterFolded?]
      split at h
      next hfold => rw [if_pos hfold, ih h]
      next hfold => rw [if_neg hfold]

/-- The mark of a reference starts with a colon in any letter case. -/
theorem occursFolded_mark_of_not_mem {text : List Char} (h : ':' ∉ text) :
    Environment.occursFolded environmentMark text = false := by
  induction text with
  | nil => rfl
  | cons c text ih =>
    rw [List.mem_cons, not_or] at h
    have hfold : Text.foldChar ':' ≠ Text.foldChar c := fun heq =>
      h.1 (Text.foldChar_eq_colon heq.symm).symm
    have hnone : afterFolded? environmentMark (c :: text) = none := if_neg hfold
    rw [Environment.occursFolded, hnone, ih h.2]
    rfl

end Reference

namespace Evaluator

open Reference (IsFoldedPrefix environmentMark)

/-! ## One pass -/

/-- A pass changes nothing in a text without the mark of a reference. -/
theorem fillEnvironment_of_unmarked (name value : String) {text : List Char}
    (h : Environment.occursFolded environmentMark text = false) :
    fillEnvironment name value text = text := by
  induction text with
  | nil => rfl
  | cons c text ih =>
    rw [Environment.occursFolded, Bool.or_eq_false_iff] at h
    have hmark : Reference.afterFolded? environmentMark (c :: text) = none :=
      Option.not_isSome_iff_eq_none.1 (by rw [h.1]; exact Bool.false_ne_true)
    have hnone := Reference.afterFolded?_mark_append hmark name.toList
    show Text.replaceWith _ (c :: text) = _
    rw [Text.replaceWith_cons_of_none (by rw [hnone]; rfl)]
    exact congrArg (c :: ·) (ih h.2)

/-- A pass takes a reference that starts with its name. -/
theorem fillEnvironment_of_isFoldedPrefix {name : String} {text : List Char} (htext : ':' ∉ text)
    (h : IsFoldedPrefix name.toList text) (value : String) :
    fillEnvironment name value (environmentMark ++ text) =
      value.toList ++ text.drop name.toList.length := by
  obtain ⟨rest, hrest⟩ := Option.isSome_iff_exists.1 h
  obtain ⟨hle, _⟩ := Reference.afterFolded?_eq_some hrest
  have hsplit : environmentMark ++ text = ':' :: (['e', 'n', 'v', '_'] ++
      text.take name.toList.length) ++ text.drop name.toList.length := by
    rw [List.cons_append, List.append_assoc, List.take_append_drop]
    rfl
  have hlength : (environmentMark ++ name.toList).length =
      (['e', 'n', 'v', '_'] ++ text.take name.toList.length).length + 1 := by
    simp only [List.length_append, List.length_take, Nat.min_eq_left hle, environmentMark,
      List.length_cons, List.length_nil]
    omega
  have hedit : (Reference.afterFolded? (environmentMark ++ name.toList)
        (environmentMark ++ text)).map
        (fun _ => ((environmentMark ++ name.toList).length, value.toList)) =
      some ((['e', 'n', 'v', '_'] ++ text.take name.toList.length).length + 1, value.toList) := by
    rw [Reference.afterFolded?_append, hrest, hlength]
    rfl
  have hdrop : ':' ∉ text.drop name.toList.length := fun hcolon =>
    htext (List.mem_of_mem_drop hcolon)
  have hcopy := fillEnvironment_of_unmarked name value
    (Reference.occursFolded_mark_of_not_mem hdrop)
  unfold fillEnvironment at hcopy ⊢
  rw [hsplit] at hedit ⊢
  rw [Text.replaceWith_of_some hedit, hcopy]

/-- A pass leaves a reference alone that does not start with its name. -/
theorem fillEnvironment_of_not_isFoldedPrefix {name : String} {text : List Char}
    (htext : ':' ∉ text) (h : ¬ IsFoldedPrefix name.toList text) (value : String) :
    fillEnvironment name value (environmentMark ++ text) = environmentMark ++ text := by
  have hnone : Reference.afterFolded? (environmentMark ++ name.toList) (environmentMark ++ text) =
      none := by
    rw [Reference.afterFolded?_append]
    exact Option.not_isSome_iff_eq_none.1 h
  have hrest : ':' ∉ ['e', 'n', 'v', '_'] ++ text := by simpa using htext
  have hcopy := fillEnvironment_of_unmarked name value
    (Reference.occursFolded_mark_of_not_mem hrest)
  have hsplit : environmentMark ++ text = ':' :: (['e', 'n', 'v', '_'] ++ text) := rfl
  unfold fillEnvironment at hcopy ⊢
  rw [hsplit] at hnone ⊢
  rw [Text.replaceWith_cons_of_none (by rw [hnone]; rfl), hcopy]

/-! ## All passes -/

/-- The passes for captured variables, one after the other. -/
def fillCaptured (captured : List (String × String)) (sql : List Char) : List Char :=
  captured.foldl (fun sql v => fillEnvironment v.1 v.2 sql) sql

theorem fillCaptured_append (first second : List (String × String)) (sql : List Char) :
    fillCaptured (first ++ second) sql = fillCaptured second (fillCaptured first sql) :=
  List.foldl_append

theorem fillCaptured_of_unmarked (captured : List (String × String)) {text : List Char}
    (h : Environment.occursFolded environmentMark text = false) :
    fillCaptured captured text = text := by
  induction captured with
  | nil => rfl
  | cons v captured ih =>
    show fillCaptured captured (fillEnvironment v.1 v.2 text) = text
    rw [fillEnvironment_of_unmarked v.1 v.2 h, ih]

/-- Passes whose names a reference does not start with leave it alone. -/
theorem fillCaptured_of_not_isFoldedPrefix {captured : List (String × String)} {text : List Char}
    (htext : ':' ∉ text) (h : ∀ v ∈ captured, ¬ IsFoldedPrefix v.1.toList text) :
    fillCaptured captured (environmentMark ++ text) = environmentMark ++ text := by
  induction captured with
  | nil => rfl
  | cons v captured ih =>
    show fillCaptured captured (fillEnvironment v.1 v.2 _) = _
    rw [fillEnvironment_of_not_isFoldedPrefix htext (h v List.mem_cons_self),
      ih fun w hw => h w (List.mem_cons_of_mem v hw)]

/-- Without session variables, a body is filled in by the passes for the environment, names in
descending order. -/
theorem fill_of_no_session {e : Evaluator} (h : e.session = Table.empty) (reserved : List String)
    (sql : String) :
    e.fill reserved sql =
      String.ofList (fillCaptured e.environment.entries.reverse sql.toList) := by
  unfold fill fillChars
  rw [h]
  rfl

/-- A new evaluator has no session variables. -/
theorem session_new {options : CaptureOptions} {environment : Table String} {e : Evaluator}
    (h : Evaluator.new options environment = .ok e) : e.session = Table.empty := by
  obtain ⟨captured, _, rfl⟩ := Outcome.map_eq_ok.1 h
  rfl

/-- A reference goes to the greatest name it starts with, and the passes for the smaller names
read what is written. -/
theorem fillCaptured_reference {below above : List (String × String)} {w : String × String}
    {text : List Char} (htext : ':' ∉ text) (hw : IsFoldedPrefix w.1.toList text)
    (habove : ∀ v ∈ above, ¬ IsFoldedPrefix v.1.toList text) :
    fillCaptured (below ++ w :: above).reverse (environmentMark ++ text) =
      fillCaptured below.reverse (w.2.toList ++ text.drop w.1.toList.length) := by
  have horder : (below ++ w :: above).reverse = above.reverse ++ ([w] ++ below.reverse) := by simp
  rw [horder, fillCaptured_append, fillCaptured_append,
    fillCaptured_of_not_isFoldedPrefix htext fun v hv => habove v (List.mem_reverse.1 hv)]
  show fillCaptured below.reverse (fillEnvironment w.1 w.2 _) = _
  rw [fillEnvironment_of_isFoldedPrefix htext hw]

/-- If any, there is a greatest name that a text starts with. -/
theorem exists_greatest_isFoldedPrefix {captured : List (String × String)} {text : List Char}
    (h : ∃ v ∈ captured, IsFoldedPrefix v.1.toList text) :
    ∃ below w above, captured = below ++ w :: above ∧ IsFoldedPrefix w.1.toList text ∧
      ∀ v ∈ above, ¬ IsFoldedPrefix v.1.toList text := by
  obtain ⟨v, hv, hprefix⟩ := h
  have hsome : (captured.reverse.find? fun v => decide (IsFoldedPrefix v.1.toList text)).isSome :=
    List.find?_isSome.2 ⟨v, List.mem_reverse.2 hv, decide_eq_true hprefix⟩
  obtain ⟨w, hfound⟩ := Option.isSome_iff_exists.1 hsome
  obtain ⟨hw, above, below, hsplit, habove⟩ := List.find?_eq_some_iff_append.1 hfound
  refine ⟨below.reverse, w, above.reverse, ?_, of_decide_eq_true hw, fun v hv => ?_⟩
  · rw [← List.reverse_reverse captured, hsplit]
    simp
  · simpa using habove v (List.mem_reverse.1 hv)

/-! ## Single expressions -/

/-- As an expression, a reference to a captured variable is its value. -/
theorem evaluate_environment_reference {e : Evaluator} {name value : String}
    (hmem : (name, value) ∈ e.environment.entries) (hname : Text.isName name.toList = true) :
    e.evaluate (.text (":env_" ++ name)) = .ok (.text value) := by
  have hwords := words_of_isName hname
  have htoList : (":env_" ++ name).toList = environmentMark ++ name.toList := String.toList_append
  have htrim : Text.trim (environmentMark ++ name.toList) = environmentMark ++ name.toList := by
    refine Text.trim_of_ends ?_ ?_
    · intro c hc
      cases hc
      decide
    · intro c hc
      have hne : name.toList ≠ [] := by
        intro hnil
        rw [hnil] at hname
        cases hname
      rw [List.getLast?_append_of_ne_nil _ hne] at hc
      exact Text.isBlank_of_isWord (hwords c (List.mem_of_getLast? hc))
  have hreference : Reference.environment? (environmentMark ++ name.toList) = some name.toList := by
    have hafter := Reference.afterFolded?_append environmentMark [] name.toList
    rw [List.append_nil] at hafter
    rw [Reference.environment?, hafter]
    exact Option.filter_some_pos hname
  have hreferent : e.referent? (environmentMark ++ name.toList) = some (.text value) := by
    rw [referent?, hreference]
    show (Environment.lookup e.environment (String.ofList name.toList)).map _ = _
    rw [String.ofList_toList, Environment.lookup, Table.get?_eq_some.2 hmem]
    rfl
  have hform : Reference.IsReference (Text.trim (":env_" ++ name).toList) := by
    rw [htoList, htrim]
    exact .inl (by rw [hreference]; rfl)
  calc e.evaluate (.text (":env_" ++ name))
      = .ok ((e.referent? (Text.trim (":env_" ++ name).toList)).getD .null) :=
        evaluateText_of_reference e hform
    _ = .ok (.text value) := by rw [htoList, htrim, hreferent]; rfl

/-! ## Both -/

/-- **References to the environment, alone and in a body.**  As an expression, a reference to a
captured variable is its value.  In a body it goes to the greatest captured name that it starts with
up to letter case, the passes for smaller names reading what is written; it becomes the value of the
variable if no greater name starts it and the value has no mark of a reference. -/
theorem fill_environment_reference {options : CaptureOptions} {environment : Table String}
    {e : Evaluator} (hnew : Evaluator.new options environment = .ok e) {name value : String}
    (hmem : (name, value) ∈ e.environment.entries) (hname : Text.isName name.toList = true) :
    e.evaluate (.text (":env_" ++ name)) = .ok (.text value) ∧
      (∃ below w above, e.environment.entries = below ++ w :: above ∧
        IsFoldedPrefix w.1.toList name.toList ∧
        (∀ v ∈ above, ¬ IsFoldedPrefix v.1.toList name.toList) ∧
        e.fill [] (":env_" ++ name) = String.ofList (fillCaptured below.reverse
          (w.2.toList ++ name.toList.drop w.1.toList.length))) ∧
      ((∀ v ∈ e.environment.entries, name < v.1 → ¬ IsFoldedPrefix v.1.toList name.toList) →
        Environment.occursFolded environmentMark value.toList = false →
        e.fill [] (":env_" ++ name) = value) := by
  have hcolon := colon_not_mem_of_words (words_of_isName hname)
  have htoList : (":env_" ++ name).toList = environmentMark ++ name.toList := String.toList_append
  obtain ⟨below, w, above, hsplit, hw, habove⟩ := exists_greatest_isFoldedPrefix
    ⟨(name, value), hmem, Reference.isFoldedPrefix_refl name.toList⟩
  have hfill : e.fill [] (":env_" ++ name) = String.ofList (fillCaptured below.reverse
      (w.2.toList ++ name.toList.drop w.1.toList.length)) := by
    rw [fill_of_no_session (session_new hnew), htoList, hsplit,
      fillCaptured_reference hcolon hw habove]
  refine ⟨evaluate_environment_reference hmem hname,
    ⟨below, w, above, hsplit, hw, habove, hfill⟩, fun hgreatest hunmarked => ?_⟩
  -- the greatest name is the name itself: it is not above, and not greater
  have hself : w = (name, value) := by
    have hascending := e.environment.ascending
    rw [hsplit] at hmem hascending
    rcases List.mem_append.1 hmem with hbelow | hrest
    · have hlt := (List.pairwise_append.1 hascending).2.2 _ hbelow w List.mem_cons_self
      refine absurd hw (hgreatest w ?_ hlt)
      rw [hsplit]
      exact List.mem_append_right below List.mem_cons_self
    · rcases List.mem_cons.1 hrest with heq | hmem
      · exact heq.symm
      · exact absurd (Reference.isFoldedPrefix_refl _) (habove _ hmem)
  rw [hfill, hself, List.drop_length, List.append_nil, fillCaptured_of_unmarked _ hunmarked,
    String.ofList_toList]

/-- A name that another one starts with, written alike. -/
theorem fill_environment_reference_nested_names :
    let environment := Table.ofList [("HOME", "/root"), ("HOMEDIR", "/home")]
    ∃ e, Evaluator.new Environment.defaultOptions environment = .ok e ∧
      e.evaluate (.text ":env_HOMEDIR") = .ok (.text "/home") ∧
      e.fill [] ":env_HOMEDIR" = "/home" := by
  intro environment
  have hnew : Evaluator.new Environment.defaultOptions environment =
      .ok ⟨environment, Table.empty⟩ :=
    rfl
  have hmem : ("HOMEDIR", "/home") ∈ environment.entries := by decide
  obtain ⟨hvalue, _, hfill⟩ := fill_environment_reference hnew hmem (by decide)
  exact ⟨_, hnew, hvalue, hfill (by decide) (by decide)⟩

/-- Up to letter case, a name can start another one that is smaller: it takes the references to it
in a body, though not as expressions. -/
theorem not_fill_eq_of_mixed_case :
    ¬ ∀ (options : CaptureOptions) (environment : Table String) (e : Evaluator),
      Evaluator.new options environment = .ok e →
      (∀ v ∈ environment.entries, Text.isName v.1.toList = true) →
      ∀ v ∈ e.environment.entries, e.evaluate (.text (":env_" ++ v.1)) = .ok (.text v.2) ∧
        e.fill [] (":env_" ++ v.1) = v.2 := by
  intro h
  let environment := Table.ofList [("ab", "1"), ("ABC", "2")]
  have hfill := (h Environment.defaultOptions environment ⟨environment, Table.empty⟩ rfl (by decide)
    ("ABC", "2") (by decide)).2
  have hmixed : (⟨environment, Table.empty⟩ : Evaluator).fill [] ":env_ABC" = "1C" := by decide
  exact absurd (hmixed.symm.trans hfill) (by decide)

end Evaluator

end StepScript
