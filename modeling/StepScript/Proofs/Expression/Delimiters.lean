/-
# Environment values stay inside literals

Quotes and semicolons have no case variants, so a reference to an environment variable takes none of
them out of a body unless the name of the variable has one, and a value that was checked brings
none.  Every pass for the environment therefore keeps the quotes and semicolons of the text it goes
over, and so do all passes together, whatever they find in the values written by earlier ones.
-/
import StepScript.Proofs.Expression.InjectionCheck

namespace StepScript

/-- A character that ends a literal or a statement. -/
def isDelimiter (c : Char) : Bool :=
  c == '\'' || c == ';'

/-- The quotes and semicolons of a text, in their order. -/
def delimiters (s : String) : List Char :=
  s.toList.filter isDelimiter

theorem isDelimiter_iff {c : Char} : isDelimiter c = true ↔ c = '\'' ∨ c = ';' := by
  simp [isDelimiter]

/-- A text has no delimiters exactly if it has neither a quote nor a semicolon. -/
theorem filter_isDelimiter_eq_nil {s : List Char} :
    s.filter isDelimiter = [] ↔ '\'' ∉ s ∧ ';' ∉ s := by
  rw [List.filter_eq_nil_iff]
  constructor
  · intro h
    exact ⟨fun hs => h _ hs (by decide), fun hs => h _ hs (by decide)⟩
  · rintro ⟨hquote, hsemicolon⟩ c hc hdelimiter
    rcases isDelimiter_iff.1 hdelimiter with rfl | rfl
    · exact hquote hc
    · exact hsemicolon hc

/-- A text with the same letters as one without delimiters has none either. -/
theorem filter_isDelimiter_of_sameLetters {s t : List Char} (h : Text.sameLetters s t = true)
    (ht : t.filter isDelimiter = []) : s.filter isDelimiter = [] := by
  obtain ⟨hquote, hsemicolon⟩ := filter_isDelimiter_eq_nil.1 ht
  refine filter_isDelimiter_eq_nil.2 ⟨?_, ?_⟩
  · exact Text.not_mem_of_sameLetters h (by decide +kernel) (by decide) hquote
  · exact Text.not_mem_of_sameLetters h (by decide +kernel) (by decide) hsemicolon

namespace Evaluator

open Environment (Dangerous OnOneLine)
open Reference (environmentMark)

/-- The pass for a variable whose name and value have no delimiters keeps those of the text. -/
theorem filter_fillEnvironment {name value : String} (hname : name.toList.filter isDelimiter = [])
    (hvalue : value.toList.filter isDelimiter = []) (sql : List Char) :
    (fillEnvironment name value sql).filter isDelimiter = sql.filter isDelimiter := by
  have hmark : (environmentMark ++ name.toList).filter isDelimiter = [] := by
    rw [List.filter_append, hname]
    decide
  refine Text.filter_replaceWith (fun t n out hedit => ?_) sql
  obtain ⟨rest, hafter, hfound⟩ := Option.map_eq_some_iff.1 hedit
  cases hfound
  -- what is taken out has the letters of the mark, in one case or another
  obtain ⟨found, rfl, hsame⟩ := Reference.afterFolded?_eq_some_iff.1 hafter
  have hmap : found.map Text.foldChar = (environmentMark ++ name.toList).map Text.foldChar := by
    simpa [Text.sameLetters] using hsame
  have hlength : found.length = (environmentMark ++ name.toList).length := by
    simpa only [List.length_map] using congrArg List.length hmap
  have htake : (found ++ rest).take (environmentMark ++ name.toList).length = found := by
    rw [← hlength, List.take_left]
  refine ⟨?_, ?_⟩
  · rw [List.length_append]
    show 1 ≤ 5 + name.toList.length
    omega
  · rw [htake, hvalue, filter_isDelimiter_of_sameLetters hsame hmark]

/-- All passes for variables without delimiters keep those of the text. -/
theorem filter_fillCaptured {captured : List (String × String)}
    (h : ∀ v ∈ captured, v.1.toList.filter isDelimiter = [] ∧ v.2.toList.filter isDelimiter = [])
    (sql : List Char) :
    (fillCaptured captured sql).filter isDelimiter = sql.filter isDelimiter := by
  induction captured generalizing sql with
  | nil => rfl
  | cons v captured ih =>
    obtain ⟨hname, hvalue⟩ := h v List.mem_cons_self
    calc (fillCaptured captured (fillEnvironment v.1 v.2 sql)).filter isDelimiter
        = (fillEnvironment v.1 v.2 sql).filter isDelimiter :=
          ih (fun w hw => h w (List.mem_cons_of_mem v hw)) _
      _ = sql.filter isDelimiter := filter_fillEnvironment hname hvalue sql

/-- **Environment values do not break out of literals.**  If the captured values passed the check
and no captured name has a quote or a semicolon, then a body has the same quotes and semicolons, in
the same order, before and after its references are filled in, whatever references it has and
however they come together in the passes. -/
theorem fill_keeps_delimiters {options : CaptureOptions} {environment : Table String}
    {e : Evaluator} (hchecked : options.unchecked = false)
    (hnames : ∀ v ∈ environment.entries, options.Admits v.1 → '\'' ∉ v.1.toList ∧ ';' ∉ v.1.toList)
    (hnew : Evaluator.new options environment = .ok e) (sql : String) :
    delimiters (e.fill [] sql) = delimiters sql := by
  have hcaptured : ∀ v ∈ e.environment.entries,
      v.1.toList.filter isDelimiter = [] ∧ v.2.toList.filter isDelimiter = [] := by
    intro v hv
    obtain ⟨hmem, hadmits⟩ := (mem_environment_iff hchecked hnew).1 hv
    have hsafe := (exists_new_iff hchecked).1 ⟨e, hnew⟩ v hmem hadmits
    refine ⟨filter_isDelimiter_eq_nil.2 (hnames v hmem hadmits), ?_⟩
    exact filter_isDelimiter_eq_nil.2 ⟨fun h => hsafe (.inl h), fun h => hsafe (.inr (.inl h))⟩
  unfold delimiters
  rw [fill_of_no_session (session_new hnew), String.toList_ofList]
  exact filter_fillCaptured (fun v hv => hcaptured v (List.mem_reverse.1 hv)) sql.toList

/-- A reference that only the value of another one completes. -/
theorem fill_keeps_delimiters_completed_reference :
    let environment := Table.ofList [("A", "or 1=1"), ("B", ":ENV_")]
    ∃ e, Evaluator.new Environment.defaultOptions environment = .ok e ∧
      e.fill [] "select ':env_bA';" = "select 'or 1=1';" ∧
      delimiters (e.fill [] "select ':env_bA';") = ['\'', '\'', ';'] := by
  intro environment
  let e : Evaluator := ⟨environment, Table.empty⟩
  have hnew : Evaluator.new Environment.defaultOptions environment = .ok e := by decide +kernel
  have hnames : ∀ v ∈ environment.entries, Environment.defaultOptions.Admits v.1 →
      '\'' ∉ v.1.toList ∧ ';' ∉ v.1.toList := by
    have hall : ∀ v ∈ environment.entries, '\'' ∉ v.1.toList ∧ ';' ∉ v.1.toList := by
      decide +kernel
    exact fun v hv _ => hall v hv
  refine ⟨e, hnew, by decide +kernel, ?_⟩
  rw [fill_keeps_delimiters rfl hnames hnew]
  decide

end Evaluator

end StepScript
