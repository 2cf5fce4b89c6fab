/-
# Inserted values

A body that is nothing but a reference to a variable becomes the value of the variable.  The value
is part of the text for the passes that are still to come, however: those for the variables with
smaller names and, behind a colon, those for references in braces.  It stays as it is if none of
them finds a reference in it.
-/
import StepScript.Proofs.Expression.Argument
import StepScript.Proofs.Expression.Filling

namespace StepScript

/-! ## References to session variables -/

namespace Reference

/-- A mark without case variants beyond ASCII starts what its letters start up to ASCII case. -/
theorem startsWith_of_afterFolded? {pat s rest : List Char}
    (hpat : ∀ p ∈ pat, ∀ c, Text.foldChar p = Text.foldChar c → c.toLower = p)
    (h : afterFolded? pat s = some rest) : Text.startsWith pat (Text.asciiLower s) = true := by
  induction pat generalizing s with
  | nil => exact Text.startsWith_append [] _
  | cons p ps ih =>
    cases s with
    | nil => cases h
    | cons c cs =>
      rw [afterFolded?] at h
      split at h
      next hfold =>
        have hc : c.toLower = p := hpat p List.mem_cons_self c hfold
        have hcs := ih (fun q hq => hpat q (List.mem_cons_of_mem p hq)) h
        show Text.startsWith (p :: ps) (c.toLower :: Text.asciiLower cs) = true
        rw [hc, Text.startsWith_cons_self]
        exact hcs
      next => cases h

/-- A reference to a variable with a name that a session variable may have is no reference to the
environment. -/
theorem environment?_of_isVariableName {name : String} (h : isVariableName name = true) :
    environment? (':' :: name.toList) = none := by
  have hmark : ∀ p ∈ ['e', 'n', 'v', '_'], ∀ c, Text.foldChar p = Text.foldChar c →
      c.toLower = p := by
    intro p hp c hfold
    simp only [List.mem_cons, List.not_mem_nil, or_false] at hp
    rcases hp with rfl | rfl | rfl | rfl <;>
      exact Text.toLower_of_foldChar (by decide) (by decide +kernel) (by decide +kernel)
        (hfold.symm.trans (by decide))
  unfold environment? environmentMark
  rw [afterFolded?, if_pos rfl]
  cases hafter : afterFolded? ['e', 'n', 'v', '_'] name.toList with
  | none => rfl
  | some rest =>
    have hstart := startsWith_of_afterFolded? hmark hafter
    simp [isVariableName, hstart] at h

end Reference

/-! ## A name and those below and above it -/

/-- The entries of a table around one of them. -/
theorem Table.exists_above {α : Type} {t : Table α} {name : String} {value : α}
    (h : t.get? name = some value) :
    ∃ above, t.entries = t.entries.filter (·.1 < name) ++ (name, value) :: above ∧
      ∀ v ∈ above, name < v.1 := by
  obtain ⟨below, above, hentries⟩ := List.append_of_mem (get?_eq_some.1 h)
  have hascending := t.ascending
  rw [hentries, List.pairwise_append, List.pairwise_cons] at hascending
  obtain ⟨_, ⟨habove, _⟩, hbelow⟩ := hascending
  refine ⟨above, ?_, habove⟩
  have hkept : below.filter (fun v => decide (v.1 < name)) = below :=
    List.filter_eq_self.2 fun v hv => decide_eq_true (hbelow v hv _ List.mem_cons_self)
  have hdropped : ((name, value) :: above).filter (fun v => decide (v.1 < name)) = [] := by
    refine List.filter_eq_nil_iff.2 fun v hv => ?_
    rcases List.mem_cons.1 hv with rfl | hv
    · simp
    · have hnot : ¬ v.1 < name := fun hlt => String.lt_irrefl _ (String.lt_trans hlt (habove v hv))
      simpa using hnot
  rw [hentries, List.filter_append, hkept, hdropped, List.append_nil]

namespace Evaluator

/-! ## Passes -/

/-- Passes over a body, one for each variable, the greatest name first. -/
def passes (fillName : String → String → List Char → List Char) (bindings : List (String × Value))
    (sql : List Char) : List Char :=
  bindings.reverse.foldl (fun sql v => fillName v.1 v.2.display sql) sql

/-- The passes for references with a colon. -/
abbrev colonPasses : List (String × Value) → List Char → List Char :=
  passes (fillSession [])

/-- The passes for references in braces. -/
abbrev bracePasses : List (String × Value) → List Char → List Char :=
  passes fillBraced

section

variable {fillName : String → String → List Char → List Char}
  {bindings below above : List (String × Value)} {v : String × Value} {sql out : List Char}

theorem passes_append_cons :
    passes fillName (below ++ v :: above) sql =
      passes fillName below (fillName v.1 v.2.display (passes fillName above sql)) := by
  simp [passes, List.foldl_append]

/-- Passes each of which changes nothing change nothing. -/
theorem passes_eq_self (h : ∀ v ∈ bindings, fillName v.1 v.2.display sql = sql) :
    passes fillName bindings sql = sql := by
  refine List.foldlRecOn (motive := (· = sql)) bindings.reverse _ rfl ?_
  rintro _ rfl v hv
  exact h v (List.mem_reverse.1 hv)

/-- Where only the pass for one name and those for smaller names can find anything, these are all
the passes. -/
theorem passes_of_get? {t : Table Value} {name : String} {value : Value}
    (hvalue : t.get? name = some value)
    (habove : ∀ v ∈ t.entries, name < v.1 → fillName v.1 v.2.display sql = sql)
    (hself : fillName name value.display sql = out) :
    passes fillName t.entries sql = passes fillName (t.entries.filter (·.1 < name)) out := by
  obtain ⟨above, hentries, hlt⟩ := Table.exists_above hvalue
  have hmem : ∀ v ∈ above, v ∈ t.entries := fun v hv => by
    rw [hentries]
    exact List.mem_append_right _ (List.mem_cons_of_mem _ hv)
  have hfirst : passes fillName above sql = sql :=
    passes_eq_self fun v hv => habove v (hmem v hv) (hlt v hv)
  calc passes fillName t.entries sql
      = passes fillName (t.entries.filter (·.1 < name) ++ (name, value) :: above) sql := by
        rw [← hentries]
    _ = passes fillName (t.entries.filter (·.1 < name))
          (fillName name value.display (passes fillName above sql)) := passes_append_cons
    _ = passes fillName (t.entries.filter (·.1 < name)) out := by rw [hfirst, hself]

theorem fillSession_of_not_infix {reserved : List String} {name value : String}
    (h : ¬ ':' :: name.toList <:+: sql) : fillSession reserved name value sql = sql := by
  refine Text.replaceWith_of_suffixes fun t ht _ => if_neg fun hstart => h ?_
  exact List.infix_iff_prefix_suffix.2 ⟨t, Text.startsWith_iff.1 hstart, ht⟩

theorem fillBraced_of_not_infix {name value : String}
    (h : ¬ '{' :: name.toList ++ ['}'] <:+: sql) : fillBraced name value sql = sql :=
  Text.replace_of_not_infix h _

end

/-! ## A reference alone -/

section

variable {name other : String}

/-- The pass for a greater name finds no reference to it in the reference to a name. -/
theorem not_infix_colon (hname : ∀ c ∈ name.toList, Text.isWord c = true) (hlt : name < other) :
    ¬ ':' :: other.toList <:+: ':' :: name.toList := by
  intro h
  rcases List.infix_cons_iff.1 h with h | h
  · have hprefix : other.toList <+: name.toList := (List.cons_prefix_cons.1 h).2
    exact List.IsPrefix.le hprefix (String.lt_iff.1 hlt)
  · exact colon_not_mem_of_words hname (h.subset List.mem_cons_self)

/-- The pass for another name finds no reference to it in the reference in braces to a name. -/
theorem not_infix_braced (hname : ∀ c ∈ name.toList, Text.isWord c = true) (hne : other ≠ name) :
    ¬ '{' :: other.toList ++ ['}'] <:+: '{' :: name.toList ++ ['}'] := by
  have hbrace : ∀ c ∈ name.toList, c ≠ '{' ∧ c ≠ '}' := by
    intro c hc
    have hword := hname c hc
    constructor <;>
      · rintro rfl
        exact absurd hword (by decide)
  intro h
  rw [List.cons_append, List.cons_append] at h
  rcases List.infix_cons_iff.1 h with h | h
  · rcases List.prefix_concat_iff.1 (List.cons_prefix_cons.1 h).2 with heq | hwithin
    · exact hne (String.toList_inj.1 (List.append_cancel_right heq))
    · exact (hbrace '}' (hwithin.subset (by simp))).2 rfl
  · rcases List.mem_append.1 (h.subset List.mem_cons_self) with hmem | hmem
    · exact (hbrace '{' hmem).1 rfl
    · exact absurd hmem (by decide)

end

section

variable {e : Evaluator} {name : String} {value : Value}

/-- Without an environment, a body goes through the passes for session variables. -/
theorem fillChars_of_no_environment (henvironment : e.environment = Table.empty) (sql : List Char) :
    e.fillChars [] sql = bracePasses e.session.entries (colonPasses e.session.entries sql) := by
  unfold fillChars
  rw [henvironment]
  rfl

theorem evaluate_session_reference (hname : Reference.isVariableName name = true)
    (hvalue : e.session.get? name = some value) :
    e.evaluate (.text (":" ++ name)) = .ok value := by
  have hisname : Text.isName name.toList = true := Reference.isName_of_isVariableName hname
  have htext : (":" ++ name).toList = ':' :: name.toList := by simp
  have htrim : Text.trim (':' :: name.toList) = ':' :: name.toList := by
    have hblank : ∀ c ∈ ':' :: name.toList, Text.isBlank c = false := by
      intro c hc
      rcases List.mem_cons.1 hc with rfl | hc
      · decide
      · exact Text.isBlank_of_isWord (words_of_isName hisname c hc)
    exact Text.trim_of_ends (fun c hc => hblank c (List.mem_of_mem_head? hc))
      fun c hc => hblank c (List.mem_of_mem_getLast? hc)
  have hsession : Reference.session? (':' :: name.toList) = some name.toList := by
    rw [Reference.session?, if_pos hisname]
  show e.evaluateText (":" ++ name) = .ok value
  unfold evaluateText
  simp only [htext, htrim, Reference.environment?_of_isVariableName hname, hsession,
    Option.orElse_eq_orElse, Option.orElse_some, String.ofList_toList, hvalue, Option.getD_some]

/-- What becomes of a reference with a colon: the value, as the smaller names and the braces leave
it. -/
theorem fillChars_colon (henvironment : e.environment = Table.empty) (hnamed : e.WellNamed)
    (hvalue : e.session.get? name = some value) :
    e.fillChars [] (':' :: name.toList) =
      bracePasses e.session.entries
        (colonPasses (e.session.entries.filter (·.1 < name)) value.display.toList) := by
  have hname := words_of_isVariableName (hnamed (name, value) (Table.get?_eq_some.1 hvalue))
  have hself : fillSession [] name value.display (':' :: name.toList) = value.display.toList := by
    have h : fillSession [] name value.display (':' :: (name.toList ++ [])) =
        value.display.toList ++ [] := fillSession_reference rfl
    rwa [List.append_nil, List.append_nil] at h
  rw [fillChars_of_no_environment henvironment]
  refine congrArg _ (passes_of_get? hvalue (fun v _ hlt => ?_) hself)
  exact fillSession_of_not_infix (not_infix_colon hname hlt)

/-- What becomes of a reference in braces: the value, as the braces with smaller names leave it. -/
theorem fillChars_braced (henvironment : e.environment = Table.empty) (hnamed : e.WellNamed)
    (hvalue : e.session.get? name = some value) :
    e.fillChars [] ('{' :: name.toList ++ ['}']) =
      bracePasses (e.session.entries.filter (·.1 < name)) value.display.toList := by
  have hname := words_of_isVariableName (hnamed (name, value) (Table.get?_eq_some.1 hvalue))
  have hcolon : ':' ∉ '{' :: name.toList ++ ['}'] := by
    simpa using colon_not_mem_of_words hname
  have hcolons : colonPasses e.session.entries ('{' :: name.toList ++ ['}']) =
      '{' :: name.toList ++ ['}'] :=
    passes_eq_self fun v _ =>
      fillSession_of_not_infix fun h => hcolon (h.subset List.mem_cons_self)
  have hself : fillBraced name value.display ('{' :: name.toList ++ ['}']) =
      value.display.toList := by
    have h : fillBraced name value.display ('{' :: (name.toList ++ ['}']) ++ []) =
        value.display.toList ++ [] := Text.replace_append_self '{' _ _ []
    rwa [List.append_nil, List.append_nil] at h
  rw [fillChars_of_no_environment henvironment, hcolons]
  refine passes_of_get? hvalue (fun v _ hlt => ?_) hself
  refine fillBraced_of_not_infix (not_infix_braced hname fun heq => ?_)
  exact String.lt_irrefl _ (heq ▸ hlt)

/-- The passes behind the one for a name find no reference in a text: none with a colon to a
variable with a smaller name, and none in braces. -/
def Untouched (e : Evaluator) (name : String) (text : List Char) : Prop :=
  ∀ v ∈ e.session.entries, (v.1 < name → ¬ ':' :: v.1.toList <:+: text) ∧
    ¬ '{' :: v.1.toList ++ ['}'] <:+: text

instance (e : Evaluator) (name : String) (text : List Char) : Decidable (e.Untouched name text) :=
  inferInstanceAs (Decidable (∀ v ∈ e.session.entries, _))

theorem Untouched.colonPasses_eq {text : List Char} (h : e.Untouched name text) :
    colonPasses (e.session.entries.filter (·.1 < name)) text = text := by
  refine passes_eq_self fun v hv => fillSession_of_not_infix ?_
  obtain ⟨hmem, hlt⟩ := List.mem_filter.1 hv
  exact (h v hmem).1 (of_decide_eq_true hlt)

theorem Untouched.bracePasses_eq {text : List Char} (h : e.Untouched name text)
    {bindings : List (String × Value)} (hbindings : bindings ⊆ e.session.entries) :
    bracePasses bindings text = text :=
  passes_eq_self fun v hv => fillBraced_of_not_infix (h v (hbindings hv)).2

/-- **A reference becomes the value of its variable.**  Evaluated, it is the value; as a body, it is
the text of the value as the passes that are still to come leave it: with a colon, those for smaller
names and all those for braces, and in braces, those for braces with smaller names.  If these find
no reference in the text of the value, both forms give it verbatim. -/
theorem fill_inserts_value (henvironment : e.environment = Table.empty) (hnamed : e.WellNamed)
    (hvalue : e.session.get? name = some value) :
    e.evaluate (.text (":" ++ name)) = .ok value ∧
    e.fill [] (":" ++ name) = String.ofList (bracePasses e.session.entries
      (colonPasses (e.session.entries.filter (·.1 < name)) value.display.toList)) ∧
    e.fill [] ("\x7b" ++ name ++ "\x7d") = String.ofList (bracePasses
      (e.session.entries.filter (·.1 < name)) value.display.toList) ∧
    (e.Untouched name value.display.toList →
      e.fill [] (":" ++ name) = value.display ∧
      e.fill [] ("\x7b" ++ name ++ "\x7d") = value.display) := by
  have hcolon : e.fill [] (":" ++ name) = String.ofList (bracePasses e.session.entries
      (colonPasses (e.session.entries.filter (·.1 < name)) value.display.toList)) := by
    have htext : (":" ++ name).toList = ':' :: name.toList := by simp
    rw [fill, htext, fillChars_colon henvironment hnamed hvalue]
  have hbraced : e.fill [] ("\x7b" ++ name ++ "\x7d") = String.ofList (bracePasses
      (e.session.entries.filter (·.1 < name)) value.display.toList) := by
    have htext : ("\x7b" ++ name ++ "\x7d").toList = '{' :: name.toList ++ ['}'] := by simp
    rw [fill, htext, fillChars_braced henvironment hnamed hvalue]
  have hname : Reference.isVariableName name = true :=
    hnamed (name, value) (Table.get?_eq_some.1 hvalue)
  refine ⟨evaluate_session_reference hname hvalue, hcolon, hbraced, fun huntouched => ⟨?_, ?_⟩⟩
  · rw [hcolon, huntouched.colonPasses_eq, huntouched.bracePasses_eq (List.Subset.refl _),
      String.ofList_toList]
  · rw [hbraced, huntouched.bracePasses_eq (List.filter_subset_self _), String.ofList_toList]

end

/-- A value that refers to a variable with a greater name is inserted verbatim. -/
theorem fill_inserts_value_greater_name :
    let e : Evaluator :=
      ⟨Table.empty, (Table.empty.insert "a" (.text ":b")).insert "b" (.text "x")⟩
    e.evaluate (.text (":" ++ "a")) = .ok (.text ":b") ∧
      e.fill [] (":" ++ "a") = (Value.text ":b").display ∧
      e.fill [] ("\x7b" ++ "a" ++ "\x7d") = (Value.text ":b").display := by
  intro e
  have hnamed : e.WellNamed := by decide +kernel
  have hvalue : e.session.get? "a" = some (.text ":b") := by decide +kernel
  have huntouched : e.Untouched "a" (Value.text ":b").display.toList := by decide +kernel
  obtain ⟨hevaluate, _, _, hverbatim⟩ := fill_inserts_value rfl hnamed hvalue
  exact ⟨hevaluate, hverbatim huntouched⟩

/-- The same value with the names exchanged: a reference to a variable with a smaller name is filled
in once more. -/
theorem not_fill_inserts_value_of_smaller_name :
    let e : Evaluator :=
      ⟨Table.empty, (Table.empty.insert "a" (.text "x")).insert "b" (.text ":a")⟩
    e.WellNamed ∧ e.evaluate (.text ":b") = .ok (.text ":a") ∧ e.fill [] ":b" = "x" ∧
      e.fill [] "\x7bb\x7d" = ":a" := by
  decide +kernel

end Evaluator

end StepScript
