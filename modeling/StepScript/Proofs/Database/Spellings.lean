/-
# Spellings of a URL

A connector is looked up by the scheme of a URL, which may have white space and the mark of a Java
driver in front of it and is read without regard to letter case.  DuckDB finds its file in the same
URL, but knows one spelling of its scheme only.  With any other one, the whole URL is taken for the
name of a file.
-/
import StepScript.Duckdb.Instance
import StepScript.Proofs.Text.Character
import StepScript.Proofs.Text.Places

namespace StepScript

/-! ## Schemes -/

theorem withoutDriverMark_isSuffix (url : List Char) : withoutDriverMark url <:+ url := by
  unfold withoutDriverMark
  cases hafter : Text.after? "jdbc:".toList url with
  | none => exact List.suffix_refl url
  | some rest => exact ⟨"jdbc:".toList, (Text.after?_eq_some.1 hafter).symm⟩

/-- A mark starts with its own letter. -/
theorem withoutDriverMark_of_head {url : List Char} (h : url.head? ≠ some 'j') :
    withoutDriverMark url = url := by
  have hmark : "jdbc:".toList = ['j', 'd', 'b', 'c', ':'] := by decide
  unfold withoutDriverMark
  cases hafter : Text.after? "jdbc:".toList url with
  | none => rfl
  | some rest =>
    rw [Text.after?_eq_some.1 hafter, hmark] at h
    exact absurd rfl h

namespace Target

/-- The scheme of a URL is the lower-case form of what stands in front of its first colon. -/
theorem scheme_eq_ok {t : Target} {s : String} : t.scheme = .ok s ↔
    ∃ word rest, Text.cut? [':'] (withoutDriverMark (Text.trim t.url.toList)) = some (word, rest) ∧
      word ≠ [] ∧ s = Text.lower (String.ofList word) := by
  unfold scheme
  constructor
  · intro h
    split at h
    · rename_i c cs rest hcut
      exact ⟨c :: cs, rest, hcut, List.cons_ne_nil c cs, (Except.ok.inj h).symm⟩
    · cases h
  · rintro ⟨word, rest, hcut, hword, rfl⟩
    obtain ⟨c, cs, rfl⟩ := List.exists_cons_of_ne_nil hword
    rw [hcut]

/-- A scheme is a stretch of the URL in lower case. -/
theorem exists_of_scheme {t : Target} {s : String} (h : t.scheme = .ok s) :
    ∃ part, part <:+: t.url.toList ∧ s = Text.lower (String.ofList part) := by
  obtain ⟨word, rest, hcut, _, hs⟩ := scheme_eq_ok.1 h
  obtain ⟨htext, _⟩ := (Text.cut?_eq_some (by simp) 0).1 hcut
  have hpart : word <:+: withoutDriverMark (Text.trim t.url.toList) := by
    rw [htext, List.append_assoc]
    exact (List.prefix_append word _).isInfix
  refine ⟨word, ?_, hs⟩
  exact hpart.trans ((withoutDriverMark_isSuffix _).isInfix.trans (Text.trim_isInfix _))

/-- What stands behind the scheme of a URL and its colon. -/
def behindScheme? (t : Target) : Option (List Char) :=
  (Text.cut? [':'] (withoutDriverMark (Text.trim t.url.toList))).map Prod.snd

/-- The end of a URL is what stands behind its scheme, with the colon. -/
theorem exists_trim_of_behindScheme? {t : Target} {rest : List Char}
    (h : t.behindScheme? = some rest) : ∃ front, Text.trim t.url.toList = front ++ ':' :: rest := by
  obtain ⟨⟨word, _⟩, hcut, rfl⟩ := Option.map_eq_some_iff.1 h
  obtain ⟨htext, _⟩ := (Text.cut?_eq_some (by simp) 0).1 hcut
  obtain ⟨driver, hdriver⟩ := withoutDriverMark_isSuffix (Text.trim t.url.toList)
  refine ⟨driver ++ word, ?_⟩
  rw [← hdriver, htext, List.append_assoc, List.append_assoc]
  rfl

end Target

/-! ## The file of a URL -/

namespace Duckdb

/-- The scheme of DuckDB and its colon. -/
def schemeMark : List Char := ['d', 'u', 'c', 'k', 'd', 'b', ':']

/-- The URL with the scheme of DuckDB in front of a text. -/
def plainUrl (rest : List Char) : String :=
  String.ofList (schemeMark ++ rest)

/-- A URL that has, but for white space, the scheme of DuckDB in front, and in small letters. -/
def IsPlain (url : String) : Prop :=
  schemeMark <+: Text.trim url.toList

instance : DecidablePred IsPlain := fun url =>
  inferInstanceAs (Decidable (schemeMark <+: Text.trim url.toList))

/-- A text without a scheme as the name of a file. -/
def fileName (path : List Char) : String :=
  String.ofList ((Text.after? ['/', '/'] path).getD path)

/-- The file that a text without a scheme names; none for an instance in memory. -/
def named? (path : List Char) : Option String :=
  if fileName path == "" || fileName path == "memory" || fileName path == ":memory:" then none
  else some (fileName path)

theorem named?_eq_some {path : List Char} {name : String} : named? path = some name ↔
    name = fileName path ∧ name ∉ ["", "memory", ":memory:"] := by
  unfold named?
  by_cases hmemory : (fileName path == "" || fileName path == "memory" ||
      fileName path == ":memory:") = true
  · rw [if_pos hmemory]
    constructor
    · intro h
      cases h
    · rintro ⟨rfl, hname⟩
      exact absurd (by simpa [or_assoc] using hmemory) hname
  · rw [if_neg hmemory, Option.some.injEq]
    constructor
    · rintro rfl
      exact ⟨rfl, by simpa [or_assoc] using hmemory⟩
    · rintro ⟨rfl, _⟩
      rfl

/-- The name of a file is not longer than the text that names it. -/
theorem length_fileName_le (path : List Char) :
    (fileName path).toList.length ≤ path.length := by
  unfold fileName
  rw [String.toList_ofList]
  cases hafter : Text.after? ['/', '/'] path with
  | none => exact le_rfl
  | some rest =>
    rw [Text.after?_eq_some.1 hafter, Option.getD_some, List.length_append]
    exact Nat.le_add_left _ _

theorem fileName_of_head {path : List Char} (h : path.head? ≠ some '/') :
    fileName path = String.ofList path := by
  unfold fileName
  cases hafter : Text.after? ['/', '/'] path with
  | none => rfl
  | some rest =>
    rw [Text.after?_eq_some.1 hafter] at h
    exact absurd rfl h

theorem target?_eq_named? (url : String) : target? url =
    named? ((Text.after? schemeMark (Text.trim url.toList)).getD (Text.trim url.toList)) := by
  have hmark : "duckdb:".toList = schemeMark := by decide
  rw [target?, hmark]
  rfl

theorem target?_of_mark {url : String} {rest : List Char}
    (h : Text.trim url.toList = schemeMark ++ rest) : target? url = named? rest := by
  rw [target?_eq_named?, Text.after?_eq_some.2 h, Option.getD_some]

theorem target?_of_not_isPlain {url : String} (h : ¬ IsPlain url) :
    target? url = named? (Text.trim url.toList) := by
  have hnone : Text.after? schemeMark (Text.trim url.toList) = none := by
    cases hafter : Text.after? schemeMark (Text.trim url.toList) with
    | none => rfl
    | some rest => exact absurd ⟨rest, (Text.after?_eq_some.1 hafter).symm⟩ h
  rw [target?_eq_named?, hnone, Option.getD_none]

/-! ## URLs with the scheme of DuckDB -/

section

variable {t : Target} {rest : List Char}

/-- The text behind the scheme of a URL has no white space at its end. -/
theorem trim_plainUrl (h : t.behindScheme? = some rest) :
    Text.trim (plainUrl rest).toList = schemeMark ++ rest := by
  obtain ⟨front, hurl⟩ := Target.exists_trim_of_behindScheme? h
  unfold plainUrl
  rw [String.toList_ofList]
  refine Text.trim_of_ends ?_ ?_
  · rintro _ ⟨⟩
    decide
  · -- the last character is that of the URL
    intro c hc
    refine Text.isBlank_of_getLast?_trim (s := t.url.toList) ?_
    have hmark : schemeMark ++ rest = ['d', 'u', 'c', 'k', 'd', 'b'] ++ ':' :: rest := rfl
    rw [hmark, List.getLast?_append_of_ne_nil _ (List.cons_ne_nil _ _)] at hc
    rwa [hurl, List.getLast?_append_of_ne_nil _ (List.cons_ne_nil _ _)]

theorem target?_plainUrl (h : t.behindScheme? = some rest) :
    target? (plainUrl rest) = named? rest :=
  target?_of_mark (trim_plainUrl h)

/-- The text behind the mark of the scheme is what stands behind the scheme. -/
theorem trim_of_isPlain (h : t.behindScheme? = some rest) (hplain : IsPlain t.url) :
    Text.trim t.url.toList = schemeMark ++ rest := by
  obtain ⟨behind, hbehind⟩ := hplain
  have hdriver : withoutDriverMark (schemeMark ++ behind) = schemeMark ++ behind :=
    withoutDriverMark_of_head (by simp [schemeMark])
  unfold Target.behindScheme? at h
  rw [← hbehind, hdriver] at h
  have hcut : Text.cut? [':'] (schemeMark ++ behind) =
      some (['d', 'u', 'c', 'k', 'd', 'b'], behind) := rfl
  rw [hcut] at h
  cases h
  exact hbehind.symm

/-- A URL with the scheme of DuckDB starts with a letter. -/
theorem head?_trim_ne (h : t.scheme = .ok "duckdb") {c : Char} (hascii : c.toNat < 0x80)
    (hc : c ≠ 'j') (hlower : c.toLower ≠ 'd') : (Text.trim t.url.toList).head? ≠ some c := by
  intro hhead
  obtain ⟨word, rest, hcut, hword, hs⟩ := Target.scheme_eq_ok.1 h
  obtain ⟨w, ws, rfl⟩ := List.exists_cons_of_ne_nil hword
  have hdriver : withoutDriverMark (Text.trim t.url.toList) = Text.trim t.url.toList :=
    withoutDriverMark_of_head fun hj => hc (Option.some.inj (hhead.symm.trans hj))
  rw [hdriver] at hcut
  obtain ⟨htext, _⟩ := (Text.cut?_eq_some (by simp) 0).1 hcut
  rw [htext] at hhead
  obtain rfl : w = c := Option.some.inj hhead
  have hfirst := Text.head_lowerAfter hascii ws
  have hletters : (Text.lower (String.ofList (w :: ws))).toList = "duckdb".toList :=
    congrArg String.toList hs.symm
  rw [Text.lower, String.toList_ofList, String.toList_ofList] at hletters
  rw [hletters] at hfirst
  exact hlower (Option.some.inj hfirst).symm

/-- Where the scheme is not spelled plainly, the whole URL is the name of the file. -/
theorem target?_eq_trimmed (h : t.scheme = .ok "duckdb") (hplain : ¬ IsPlain t.url) :
    target? t.url = some (Text.trimmed t.url) := by
  obtain ⟨word, rest, hcut, _, _⟩ := Target.scheme_eq_ok.1 h
  obtain ⟨front, hurl⟩ : ∃ front, Text.trim t.url.toList = front ++ ':' :: rest :=
    Target.exists_trim_of_behindScheme? (by rw [Target.behindScheme?, hcut]; rfl)
  have hslash : (Text.trim t.url.toList).head? ≠ some '/' :=
    head?_trim_ne h (by decide) (by decide) (by decide)
  have hcolon : (Text.trim t.url.toList).head? ≠ some ':' :=
    head?_trim_ne h (by decide) (by decide) (by decide)
  have hmem : ':' ∈ Text.trim t.url.toList := by
    rw [hurl]
    exact List.mem_append_right front List.mem_cons_self
  rw [target?_of_not_isPlain hplain, named?_eq_some, fileName_of_head hslash]
  refine ⟨rfl, fun hmemory => ?_⟩
  have hmemory : Text.trim t.url.toList ∈ ["".toList, "memory".toList, ":memory:".toList] := by
    have := List.mem_map_of_mem (f := String.toList) hmemory
    rwa [Text.trimmed, String.toList_ofList] at this
  simp only [List.mem_cons, List.not_mem_nil, or_false] at hmemory
  rcases hmemory with hempty | hword | hquoted
  · rw [hempty] at hmem
    exact absurd hmem (by decide)
  · rw [hword] at hmem
    exact absurd hmem (by decide)
  · rw [hquoted] at hcolon
    exact hcolon (by decide)

/-- What DuckDB makes of a URL with its scheme, and of a text behind the scheme. -/
structure Spelled (url : String) (rest : List Char) : Prop where
  /-- The URL names the file of the plain spelling if it is spelled plainly itself. -/
  same_iff : target? url = target? (plainUrl rest) ↔ IsPlain url
  /-- Otherwise the whole URL is the name of a file. -/
  whole : ¬ IsPlain url → target? url = some (Text.trimmed url)

/-- **The file of a URL with the scheme of DuckDB.**  It is the file of what stands behind the
scheme exactly if the scheme is in small letters and without the mark of a driver. -/
theorem file_of_scheme (h : t.scheme = .ok "duckdb") :
    ∃ rest, t.behindScheme? = some rest ∧ Spelled t.url rest := by
  obtain ⟨word, rest, hcut, _, _⟩ := Target.scheme_eq_ok.1 h
  have hrest : t.behindScheme? = some rest := by
    rw [Target.behindScheme?, hcut]
    rfl
  refine ⟨rest, hrest, ⟨fun hsame => ?_, fun hplain => ?_⟩, target?_eq_trimmed h⟩
  · -- the name of a file that is the whole URL is too long for what stands behind the scheme
    by_contra hplain
    rw [target?_eq_trimmed h hplain, target?_plainUrl hrest] at hsame
    obtain ⟨hname, _⟩ := named?_eq_some.1 hsame.symm
    obtain ⟨front, hurl⟩ := Target.exists_trim_of_behindScheme? hrest
    have hlength := length_fileName_le rest
    rw [← hname, Text.trimmed, String.toList_ofList, hurl, List.length_append,
      List.length_cons] at hlength
    omega
  · rw [target?_of_mark (trim_of_isPlain hrest hplain), target?_plainUrl hrest]

end

/-- A URL with the mark of a driver and capitals, for what would be an instance in memory. -/
theorem file_of_scheme_driver_mark :
    (Target.mk " jdbc:DuckDB:memory " none none).scheme = .ok "duckdb" ∧
      target? " jdbc:DuckDB:memory " = some "jdbc:DuckDB:memory" := by
  have hscheme : (Target.mk " jdbc:DuckDB:memory " none none).scheme = .ok "duckdb" := by
    decide +kernel
  obtain ⟨rest, _, hspelled⟩ := file_of_scheme hscheme
  have hwhole := hspelled.whole (by decide +kernel)
  have htrimmed : Text.trimmed " jdbc:DuckDB:memory " = "jdbc:DuckDB:memory" := by decide +kernel
  exact ⟨hscheme, hwhole.trans (congrArg some htrimmed)⟩

/-- A letter with the lower-case form k that is not the capital K. -/
theorem not_file_of_scheme_of_letterCase :
    ¬ ∀ (t : Target) (rest : List Char), t.scheme = .ok "duckdb" → t.behindScheme? = some rest →
      target? t.url = target? (plainUrl rest) := by
  intro h
  have hmemory := h ⟨"duc\u212adb:memory", none, none⟩ "memory".toList (by decide +kernel)
    (by decide +kernel)
  exact absurd hmemory (by decide +kernel)

end Duckdb

end StepScript
