/-
# Filling in a record at once

The references to the fields of a record are filled in by one replacement for each field, names in
descending order, each over what the one before it wrote.  `fillFieldsOnce` is a single pass that
takes the longest name of a field at each reference.  A reference to a field is one to a variable
whose name has the name of the recordset and a point in front, so what is known of the passes for
variables carries over: the two agree where no reference runs into another one and no value brings
a colon of its own.
-/
import StepScript.Command.Run
import StepScript.Proofs.Expression.Filling

namespace StepScript

open Evaluator (fieldMark longest? fillOnce)

/-! ## One pass -/

/-- The reference to a field that a text starts with: its length and the text of the field.  It is
the field with the longest of the names that stand behind the mark. -/
def fieldAt? (name : String) (fields : List (String × Value)) (text : List Char) :
    Option (Nat × List Char) :=
  (Text.after? (fieldMark name) text).bind fun behind =>
    (longest? fields behind).map fun v =>
      ((fieldMark name).length + v.1.toList.length, v.2.display.toList)

/-- One left-to-right pass, which replaces each reference to a field and copies everything else. -/
def fillFieldsOnce (name : String) (fields : List (String × Value)) (text : List Char) :
    List Char :=
  Text.replaceWith (fieldAt? name fields) text

section

variable {name : String} {fields : List (String × Value)} {behind rest : List Char}

theorem fieldAt?_of_unmarked (h : ¬ fieldMark name <+: rest) :
    fieldAt? name fields rest = none := by
  have hnone : Text.after? (fieldMark name) rest = none := by
    cases hafter : Text.after? (fieldMark name) rest with
    | none => rfl
    | some behind => exact absurd ⟨behind, (Text.after?_eq_some.1 hafter).symm⟩ h
  rw [fieldAt?, hnone, Option.bind_none]

theorem fieldAt?_mark : fieldAt? name fields (fieldMark name ++ behind) =
    (longest? fields behind).map fun v =>
      ((fieldMark name).length + v.1.toList.length, v.2.display.toList) := by
  rw [fieldAt?, Text.after?_eq_some.2 rfl, Option.bind_some]

theorem fillFieldsOnce_of_unmarked {c : Char} (h : ¬ fieldMark name <+: c :: rest) :
    fillFieldsOnce name fields (c :: rest) = c :: fillFieldsOnce name fields rest :=
  Text.replaceWith_cons_of_none (fieldAt?_of_unmarked h)

/-- Where no field is named behind the mark, the pass goes on behind the colon. -/
theorem fillFieldsOnce_unbound (h : longest? fields behind = none) :
    fillFieldsOnce name fields (fieldMark name ++ behind) =
      ':' :: fillFieldsOnce name fields (name.toList ++ ['.'] ++ behind) := by
  have hnone : fieldAt? name fields (fieldMark name ++ behind) = none := by
    rw [fieldAt?_mark, h, Option.map_none]
  exact Text.replaceWith_cons_of_none hnone

/-- A reference is replaced by the text of the field with the longest name. -/
theorem fillFieldsOnce_bound {v : String × Value}
    (h : longest? fields (v.1.toList ++ rest) = some v) :
    fillFieldsOnce name fields (fieldMark name ++ (v.1.toList ++ rest)) =
      v.2.display.toList ++ fillFieldsOnce name fields rest := by
  have hfield : fieldAt? name fields (fieldMark name ++ (v.1.toList ++ rest)) = _ := fieldAt?_mark
  have htext : fieldMark name ++ (v.1.toList ++ rest) =
      ':' :: (name.toList ++ ['.'] ++ v.1.toList) ++ rest := by
    rw [List.cons_append, List.append_assoc]
    rfl
  have hlength : (fieldMark name).length + v.1.toList.length =
      (name.toList ++ ['.'] ++ v.1.toList).length + 1 := by
    simp only [fieldMark, List.length_cons, List.length_append]
    omega
  rw [h, Option.map_some, htext, hlength] at hfield
  rw [htext]
  exact Text.replaceWith_of_some hfield

/-! ## Fields as variables -/

/-- A field as a variable with the name by which it is referred to. -/
def asVariable (name : String) (field : String × Value) : String × Value :=
  (name ++ "." ++ field.1, field.2)

theorem toList_asVariable (name : String) (field : String × Value) :
    (asVariable name field).1.toList = name.toList ++ ['.'] ++ field.1.toList := by
  simp [asVariable]

theorem asVariable_lt {a b : String × Value} (h : a.1 < b.1) :
    (asVariable name a).1 < (asVariable name b).1 := by
  rw [String.lt_iff] at h ⊢
  rw [toList_asVariable, toList_asVariable]
  exact List.append_left_lt h

/-- Fields with different names are variables with different names. -/
theorem asVariable_distinct (hinj : ∀ v ∈ fields, ∀ w ∈ fields, v.1 = w.1 → v = w) :
    ∀ v ∈ fields.map (asVariable name), ∀ w ∈ fields.map (asVariable name),
      v.1 = w.1 → v = w := by
  simp only [List.forall_mem_map]
  intro v hv w hw heq
  have hname := congrArg String.toList heq
  rw [toList_asVariable, toList_asVariable, List.append_cancel_left_eq] at hname
  rw [hinj v hv w hw (String.toList_inj.1 hname)]

/-- Behind the name of the recordset and the point, the name of the field decides. -/
theorem asVariable_prefix_iff {field : String × Value} :
    (asVariable name field).1.toList <+: name.toList ++ ['.'] ++ behind ↔
      field.1.toList <+: behind := by
  rw [toList_asVariable, List.prefix_append_right_inj]

/-- The variable with the longest name stands for the field with the longest name. -/
theorem longest?_asVariable (hinj : ∀ v ∈ fields, ∀ w ∈ fields, v.1 = w.1 → v = w) :
    longest? (fields.map (asVariable name)) (name.toList ++ ['.'] ++ behind) =
      (longest? fields behind).map (asVariable name) := by
  cases hfound : longest? fields behind with
  | none =>
    rw [Option.map_none, Evaluator.longest?_eq_none, List.forall_mem_map]
    intro v hv
    have hnot := Evaluator.longest?_eq_none.1 hfound v hv
    rw [Bool.eq_false_iff, ne_eq, Text.startsWith_iff] at hnot ⊢
    rwa [asVariable_prefix_iff]
  | some v =>
    obtain ⟨hv, hstart, hmax⟩ := Evaluator.mem_of_longest? hfound
    rw [Option.map_some, Evaluator.longest?_eq_some (asVariable_distinct hinj), List.forall_mem_map]
    refine ⟨List.mem_map_of_mem hv, asVariable_prefix_iff.2 hstart, fun w hw hw' => ?_⟩
    have hle := hmax w hw (asVariable_prefix_iff.1 hw')
    simp only [toList_asVariable, List.length_append]
    omega

/-- Where the name of the recordset and the point do not follow, there is no such variable. -/
theorem longest?_asVariable_of_unmarked (h : ¬ name.toList ++ ['.'] <+: rest) :
    longest? (fields.map (asVariable name)) rest = none := by
  rw [Evaluator.longest?_eq_none, List.forall_mem_map]
  intro v _
  rw [Bool.eq_false_iff, ne_eq, Text.startsWith_iff, toList_asVariable]
  intro hstart
  exact h ((List.prefix_append _ _).trans hstart)

/-- **The pass for the fields is the pass for the variables that stand for them.** -/
theorem fillOnce_asVariable (hinj : ∀ v ∈ fields, ∀ w ∈ fields, v.1 = w.1 → v = w)
    (text : List Char) :
    fillOnce [] (fields.map (asVariable name)) text = fillFieldsOnce name fields text := by
  -- the length of the text decreases by a whole reference where one is replaced
  induction hlen : text.length using Nat.strong_induction_on generalizing text with
  | _ n ih =>
  subst hlen
  by_cases hmark : fieldMark name <+: text
  · obtain ⟨behind, rfl⟩ := hmark
    have hlongest : longest? (fields.map (asVariable name)) (name.toList ++ ['.'] ++ behind) = _ :=
      longest?_asVariable hinj
    cases hfound : longest? fields behind with
    | none =>
      rw [hfound, Option.map_none] at hlongest
      have hshorter : (name.toList ++ ['.'] ++ behind).length < (fieldMark name ++ behind).length :=
        Nat.lt_succ_self _
      rw [fillFieldsOnce_unbound hfound, ← ih _ hshorter _ rfl]
      exact Evaluator.fillOnce_unbound rfl hlongest
    | some v =>
      rw [hfound, Option.map_some] at hlongest
      obtain ⟨_, ⟨rest, rfl⟩, _⟩ := Evaluator.mem_of_longest? hfound
      have hshorter : rest.length < (fieldMark name ++ (v.1.toList ++ rest)).length := by
        simp only [fieldMark, List.length_append, List.length_cons]
        omega
      rw [fillFieldsOnce_bound hfound, ← ih _ hshorter _ rfl, Evaluator.fieldMark_append,
        Evaluator.fillOnce_bound rfl hlongest, ← List.append_assoc, ← toList_asVariable,
        List.drop_left]
      rfl
  · cases text with
    | nil =>
      rw [Evaluator.fillOnce_nil]
      rfl
    | cons c rest =>
      rw [fillFieldsOnce_of_unmarked hmark, ← ih rest.length (by simp) rest rfl]
      by_cases hc : c = ':'
      · subst hc
        have hpoint : ¬ name.toList ++ ['.'] <+: rest := fun h =>
          hmark (List.cons_prefix_cons.2 ⟨rfl, h⟩)
        exact Evaluator.fillOnce_unbound rfl (longest?_asVariable_of_unmarked hpoint)
      · exact Evaluator.fillOnce_cons_of_ne hc rest

end

/-! ## All passes -/

/-- The replacements for the fields of a record. -/
theorem toList_fillRecord (name : String) (record : Record) (sql : String) :
    (fillRecord name record sql).toList = record.entries.reverse.foldl
      (fun sql v => Text.replace (fieldMark name ++ v.1.toList) v.2.display.toList sql)
      sql.toList := by
  unfold fillRecord
  generalize record.entries.reverse = fields
  induction fields generalizing sql with
  | nil => rfl
  | cons v fields ih =>
    have hmark : (":" ++ name ++ "." ++ v.1).toList = fieldMark name ++ v.1.toList := by
      simp [fieldMark]
    rw [List.foldl_cons, List.foldl_cons, ih, Text.replaceAll, hmark, String.toList_ofList]

/-- Where no names are reserved, the pass for a variable that stands for a field is the replacement
for the field. -/
theorem fillSession_asVariable (name : String) (v : String × Value) (text : List Char) :
    Evaluator.fillSession [] (asVariable name v).1 (asVariable name v).2.display text =
      Text.replace (fieldMark name ++ v.1.toList) v.2.display.toList text := by
  have hmark : ':' :: (asVariable name v).1.toList = fieldMark name ++ v.1.toList := by
    rw [toList_asVariable]
    rfl
  rw [← hmark]
  rfl

/-- Whether a character can be part of a reference to a field of a record, behind its colon. -/
def isReferenceChar (record : Record) (c : Char) : Bool :=
  Text.isWord c || c == '.' || record.entries.any fun v => v.1.toList.contains c

theorem isReferenceChar_colon {record : Record} (hfields : ∀ v ∈ record.entries, ':' ∉ v.1.toList) :
    isReferenceChar record ':' = false := by
  have hnone : (record.entries.any fun v => v.1.toList.contains ':') = false := by
    rw [List.any_eq_false]
    simpa using hfields
  have hword : (Text.isWord ':' || ':' == '.') = false := by decide
  rw [isReferenceChar, hword, hnone, Bool.false_or]

/-- A reference to a field has such characters only. -/
theorem isReferenceChar_of_mem {name : String} {record : Record} {v : String × Value} {c : Char}
    (hname : ∀ c ∈ name.toList, Text.isWord c = true) (hv : v ∈ record.entries)
    (hc : c ∈ (asVariable name v).1.toList) : isReferenceChar record c = true := by
  rw [toList_asVariable, List.mem_append, List.mem_append, List.mem_singleton] at hc
  unfold isReferenceChar
  rcases hc with (hc | rfl) | hc
  · rw [hname c hc, Bool.true_or, Bool.true_or]
  · rw [beq_self_eq_true, Bool.or_true, Bool.true_or]
  · have hany : (record.entries.any fun v => v.1.toList.contains c) = true :=
      List.any_eq_true.2 ⟨v, hv, List.contains_iff_mem.2 hc⟩
    rw [hany, Bool.or_true]

/-- **Filling in a record field by field is filling it in at once.**  The replacements, names of
fields in descending order, write what a single pass with the longest names writes. -/
theorem fillRecord_eq_fillFieldsOnce {name : String} {record : Record} {statement : String}
    (hname : ∀ c ∈ name.toList, Text.isWord c = true)
    (hfields : ∀ v ∈ record.entries, ':' ∉ v.1.toList)
    (hvalues : ∀ v ∈ record.entries, ':' ∉ v.2.display.toList)
    (hcolons : Evaluator.ColonsBehind (isReferenceChar record) statement.toList) :
    fillRecord name record statement =
      String.ofList (fillFieldsOnce name record.entries statement.toList) := by
  have hkind : isReferenceChar record ':' = false := isReferenceChar_colon hfields
  have hinj : ∀ v ∈ record.entries, ∀ w ∈ record.entries, v.1 = w.1 → v = w := fun v hv w hw =>
    record.eq_of_fst_eq hv hw
  have hdescending : (record.entries.reverse.map (asVariable name)).Pairwise
      fun v w => w.1 < v.1 :=
    List.pairwise_map.2 ((List.pairwise_reverse.2 record.ascending).imp asVariable_lt)
  have hpasses : (record.entries.reverse.map (asVariable name)).foldl
      (fun sql v => Evaluator.fillSession [] v.1 v.2.display sql)
      (fillOnce [] [] statement.toList) =
        fillOnce [] ([] ++ record.entries.reverse.map (asVariable name)) statement.toList := by
    refine Evaluator.foldl_fillSession hkind [] _ hdescending ?_ ?_ (fun _ _ _ => rfl) hcolons
    · rw [List.nil_append, List.forall_mem_map]
      exact fun v hv c hc => isReferenceChar_of_mem hname (List.mem_reverse.1 hv) hc
    · rw [List.nil_append, List.forall_mem_map]
      exact fun v hv => hvalues v (List.mem_reverse.1 hv)
  rw [Evaluator.fillOnce_of_no_bindings, List.nil_append, List.foldl_map, List.map_reverse,
    Evaluator.fillOnce_reverse (asVariable_distinct hinj), fillOnce_asVariable hinj] at hpasses
  rw [← String.toList_inj, String.toList_ofList, toList_fillRecord, ← hpasses]
  simp only [fillSession_asVariable]

/-- Two fields whose names go on where another one ends, one of them with a character that no word
has, a reference whose name goes on behind that of a field, and one to another recordset. -/
theorem fillRecord_eq_fillFieldsOnce_nested_names :
    fillRecord "rs" (Table.ofList [("id", .integer 7), ("id_name", .text "seven"),
        ("id#1", .text "7.1")]) "select ':rs.id_name', (:rs.id, :rs.id#1, :rs.idx, :other.id);" =
      "select 'seven', (7, 7.1, 7x, :other.id);" := by
  let record : Record := Table.ofList [("id", .integer 7), ("id_name", .text "seven"),
    ("id#1", .text "7.1")]
  have hname : ∀ c ∈ "rs".toList, Text.isWord c = true := List.all_eq_true.1 (by decide)
  have hfields : ∀ v ∈ record.entries, ':' ∉ v.1.toList := by decide +kernel
  have hvalues : ∀ v ∈ record.entries, ':' ∉ v.2.display.toList := by decide +kernel
  have hcolons : Evaluator.ColonsBehind (isReferenceChar record)
      "select ':rs.id_name', (:rs.id, :rs.id#1, :rs.idx, :other.id);".toList := by decide +kernel
  have honce : String.ofList (fillFieldsOnce "rs" record.entries
      "select ':rs.id_name', (:rs.id, :rs.id#1, :rs.idx, :other.id);".toList) =
        "select 'seven', (7, 7.1, 7x, :other.id);" := by decide +kernel
  exact (fillRecord_eq_fillFieldsOnce hname hfields hvalues hcolons).trans honce

end StepScript
