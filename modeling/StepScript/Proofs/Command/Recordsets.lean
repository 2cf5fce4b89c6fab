/-
# Recordsets stay uniform

The records of a recordset have the same field names and hold numbers and texts only.  A list of
records that is not so is refused, and a refusal changes nothing, so every recordset that calls and
commands can lead to is uniform.  The rows of a query hold numbers and texts once they are
converted; what can be refused about them is their field names.
-/
import Mathlib.Data.List.Sort
import Mathlib.Logic.Relation
import StepScript.Proofs.Command.Failures
import StepScript.Proofs.Command.Frame
import StepScript.Proofs.Expression.Filling

namespace StepScript

/-! ## The names of a table -/

namespace Table

variable {α β : Type} {t : Table α} {t' : Table β}

/-- Two tables have values under the same names. -/
def SameNames (t : Table α) (t' : Table β) : Prop :=
  ∀ name, t.contains name = t'.contains name

theorem contains_iff {name : String} : t.contains name = true ↔ name ∈ t.names := by
  rw [contains, Option.isSome_iff_exists, names, List.mem_map]
  constructor
  · rintro ⟨value, h⟩
    exact ⟨(name, value), get?_eq_some.1 h, rfl⟩
  · rintro ⟨⟨_, value⟩, h, rfl⟩
    exact ⟨value, get?_eq_some.2 h⟩

/-- The names are listed in one order, so the same names make the same list. -/
theorem names_eq_iff : t.names = t'.names ↔ t.SameNames t' := by
  constructor
  · intro h name
    rw [Bool.eq_iff_iff, contains_iff, contains_iff, h]
  · intro h
    have hascending : ∀ {γ : Type} (u : Table γ), u.names.Pairwise (· < ·) := fun u =>
      List.pairwise_map.2 u.ascending
    refine (hascending t).eq_of_mem_iff (hascending t') fun name => ?_
    rw [← contains_iff, ← contains_iff, h name]

@[simp]
theorem names_map (f : α → β) (t : Table α) : (t.map f).names = t.names := by
  simp [names, map]

theorem get?_map (f : α → β) (t : Table α) (name : String) :
    (t.map f).get? name = (t.get? name).map f := by
  show lookupEntry name (t.entries.map fun e => (e.1, f e.2)) = (lookupEntry name t.entries).map f
  induction t.entries with
  | nil => rfl
  | cons e rest ih =>
    simp only [List.map_cons, lookupEntry]
    split
    · rfl
    · exact ih

end Table

/-! ## What is checked -/

namespace RecordsetStore

/-- All values of a record are numbers or texts. -/
def FieldValues (record : Record) : Prop :=
  ∀ field value, record.get? field = some value → value.isFieldValue = true

/-- All records have the same field names, and all their values are numbers or texts. -/
structure Uniform (records : List Record) : Prop where
  fields : ∀ record ∈ records, ∀ other ∈ records, record.SameNames other
  values : ∀ record ∈ records, FieldValues record

variable {names : List String} {number : Nat} {record : Record} {records : List Record}

theorem checkRecord_ok_iff :
    checkRecord names number record = .ok () ↔ record.names = names ∧ FieldValues record := by
  have hvalues : (record.entries.find? fun e => !e.2.isFieldValue) = none ↔
      FieldValues record := by
    rw [List.find?_eq_none]
    constructor
    · intro h field value hvalue
      simpa using h (field, value) (Table.get?_eq_some.1 hvalue)
    · rintro h ⟨field, value⟩ hmem
      simpa using h field value (Table.get?_eq_some.2 hmem)
  unfold checkRecord
  rw [← hvalues]
  split
  next hnames => exact ⟨nofun, fun h => absurd h.1 hnames⟩
  next hnames =>
    split
    next hfind => exact ⟨nofun, fun h => by rw [h.2] at hfind; cases hfind⟩
    next hfind => exact ⟨fun _ => ⟨of_not_not hnames, hfind⟩, fun _ => rfl⟩

theorem checkFrom_ok_iff : checkFrom names number records = .ok () ↔
    ∀ record ∈ records, record.names = names ∧ FieldValues record := by
  induction records generalizing number with
  | nil => exact ⟨fun _ => nofun, fun _ => rfl⟩
  | cons record rest ih =>
    rw [checkFrom, Outcome.bind_eq_ok, List.forall_mem_cons]
    constructor
    · rintro ⟨_, hrecord, hrest⟩
      exact ⟨checkRecord_ok_iff.1 hrecord, ih.1 hrest⟩
    · rintro ⟨hrecord, hrest⟩
      exact ⟨(), checkRecord_ok_iff.2 hrecord, ih.2 hrest⟩

/-- What passes the check is uniform: to have the names of the first record is to have the same
names. -/
theorem check_ok_iff : check records = .ok () ↔ Uniform records := by
  cases records with
  | nil => exact ⟨fun _ => ⟨nofun, nofun⟩, fun _ => rfl⟩
  | cons first rest =>
    rw [check, checkFrom_ok_iff]
    constructor
    · intro h
      refine ⟨fun record hrecord other hother => ?_, fun record hrecord => (h record hrecord).2⟩
      rw [← Table.names_eq_iff, (h record hrecord).1, (h other hother).1]
    · intro h record hrecord
      exact ⟨Table.names_eq_iff.2 (h.fields record hrecord first List.mem_cons_self),
        h.values record hrecord⟩

/-- A check fails because of a record that differs from the first one in its field names, or because
of a value that is no number and no text. -/
theorem not_uniform_iff : ¬ Uniform records ↔
    ∃ first rest, records = first :: rest ∧ ∃ record ∈ records,
      ¬ record.SameNames first ∨
        ∃ field value, record.get? field = some value ∧ value.isFieldValue = false := by
  constructor
  · intro h
    cases records with
    | nil => exact absurd ⟨nofun, nofun⟩ h
    | cons first rest =>
      refine ⟨first, rest, rfl, ?_⟩
      by_contra hnone
      push Not at hnone
      refine h (check_ok_iff.1 (checkFrom_ok_iff.2 fun record hrecord => ?_))
      obtain ⟨hsame, hvalues⟩ := hnone record hrecord
      refine ⟨Table.names_eq_iff.2 hsame, fun field value hvalue => ?_⟩
      simpa using hvalues field value hvalue
  · rintro ⟨first, rest, rfl, record, hrecord, hbad⟩ h
    rcases hbad with hsame | ⟨field, value, hvalue, hfalse⟩
    · exact hsame (h.fields record hrecord first List.mem_cons_self)
    · rw [h.values record hrecord field value hvalue] at hfalse
      cases hfalse

/-- Every value of a query becomes one that a field may hold. -/
theorem fieldValues_converted (row : Record) : FieldValues (row.map fieldValue) := by
  intro field value hvalue
  rw [Table.get?_map] at hvalue
  obtain ⟨old, _, rfl⟩ := Option.map_eq_some_iff.1 hvalue
  cases old <;> rfl

/-- Converted rows are uniform exactly if they have the same field names. -/
theorem uniform_converted_iff {rows : List Record} :
    Uniform (rows.map (Table.map fieldValue)) ↔
      ∀ row ∈ rows, ∀ other ∈ rows, row.SameNames other := by
  constructor
  · intro h row hrow other hother
    have hsame := h.fields _ (List.mem_map_of_mem hrow) _ (List.mem_map_of_mem hother)
    rwa [← Table.names_eq_iff, Table.names_map, Table.names_map, Table.names_eq_iff] at hsame
  · intro h
    refine ⟨?_, ?_⟩
    · simp only [List.forall_mem_map]
      intro row hrow other hother
      rw [← Table.names_eq_iff, Table.names_map, Table.names_map]
      exact Table.names_eq_iff.2 (h row hrow other hother)
    · simp only [List.forall_mem_map]
      exact fun row _ => fieldValues_converted row

end RecordsetStore

/-! ## Storing -/

open RecordsetStore

/-- How storing a recordset ends: it is there, or it is refused and nothing has changed. -/
inductive Stores (name : String) (records : List Record) (w : Workspace) :
    Except Error Unit → Workspace → Prop
  | stored (h : Uniform records) :
      Stores name records w (.ok ()) { w with recordsets := w.recordsets.insert name records }
  | refused {detail : String} (h : ¬ Uniform records) :
      Stores name records w (.error (.recordset detail)) w

namespace Action

/-- **Storing.** -/
theorem ensures_store (name : String) (records : List Record) (w : Workspace) :
    Ensures (store name records) w fun exchanges r w' =>
      exchanges = [] ∧ Stores name records w r w' := by
  unfold store RecordsetStore.store
  simp only [Ensures.bind_iff, Ensures.get_iff, ensures_ofExcept, Ensures.set_iff]
  cases hcheck : check records with
  | ok _ => exact ⟨rfl, .stored (check_ok_iff.1 hcheck)⟩
  | error e =>
    have hstore : w.recordsets.store name records = .error e := by
      rw [RecordsetStore.store, hcheck]; rfl
    obtain ⟨detail, rfl⟩ := RecordsetStore.store_error hstore
    refine ⟨rfl, .refused fun huniform => ?_⟩
    rw [check_ok_iff.2 huniform] at hcheck
    cases hcheck

/-- The result of storing is the result of a command that ends with it. -/
theorem ensures_store_bind (name : String) (records : List Record) (w : Workspace)
    (signal : Option Signal) :
    Ensures (do store name records; pure signal) w fun exchanges result w' =>
      exchanges = [] ∧ ∃ r, result = r.map (fun _ => signal) ∧ Stores name records w r w' := by
  rw [Ensures.bind_iff]
  refine (ensures_store name records w).mono ?_
  rintro _ r w' ⟨rfl, h⟩
  cases r with
  | ok _ => exact ⟨rfl, .ok (), rfl, h⟩
  | error e => exact ⟨rfl, .error e, rfl, h⟩

end Action

/-! ## The commands that write recordsets -/

namespace Command

variable {around : Surroundings} {arguments : List Value} {w : Workspace}

/-- What the command that stores the rows of a query can do. -/
inductive Queries (around : Surroundings) (arguments : List Value) (w : Workspace) :
    List Exchange → Except Error (Option Signal) → Workspace → Prop
  | unasked {e : Error} (h : ∀ detail, e ≠ .recordset detail) :
      Queries around arguments w [] (.error e) w
  | failed {session : Session} {e : Error} (hsession : around.session = some session) :
      Queries around arguments w [⟨.queryRows session around.statement, .error e⟩] (.error e) w
  | returned {name : String} {session : Session} {rows : List Record} {r : Except Error Unit}
      {w' : Workspace}
      (hname : arguments[0]?.map Value.display = some name)
      (hsession : around.session = some session)
      (h : Stores name (rows.map (Table.map fieldValue)) w r w') :
      Queries around arguments w [⟨.queryRows session around.statement, .ok rows⟩]
        (r.map fun _ => none) w'

theorem ensures_recordset (around : Surroundings) (arguments : List Value) (w : Workspace) :
    Ensures (recordset.perform around arguments) w (Queries around arguments w) := by
  refine ensures_argumentText_bind (fun _ => .unasked nofun) fun name hname => ?_
  refine ensures_need_bind (fun _ => .unasked nofun) fun session hsession => ?_
  rw [Ensures.bind_iff, Action.ensures_queryRows]
  intro answer
  cases answer with
  | error e => exact .failed hsession
  | ok rows =>
    refine (Action.ensures_store_bind name (rows.map (Table.map fieldValue)) w none).mono ?_
    rintro _ _ w' ⟨rfl, r, rfl, h⟩
    exact .returned hname hsession h

/-- What the command that stores the paths of a pattern can do. -/
inductive Lists (around : Surroundings) (arguments : List Value) (w : Workspace) :
    List Exchange → Except Error (Option Signal) → Workspace → Prop
  | unlisted {e : Error} : Lists around arguments w [] (.error e) w
  | listed {name pattern : String} {records : List Record} {r : Except Error Unit} {w' : Workspace}
      (hname : arguments[0]?.map Value.display = some name)
      (hpattern : arguments[1]?.map Value.display = some pattern)
      (hrecords : pathRecords around.files pattern = .ok records)
      (h : Stores name records w r w') : Lists around arguments w [] (r.map fun _ => none) w'

theorem ensures_recordsetOfPaths (around : Surroundings) (arguments : List Value) (w : Workspace) :
    Ensures (recordsetOfPaths.perform around arguments) w (Lists around arguments w) := by
  refine ensures_argumentText_bind (fun _ => .unlisted) fun name hname => ?_
  refine ensures_argumentText_bind (fun _ => .unlisted) fun pattern hpattern => ?_
  rw [Ensures.bind_iff, Action.ensures_ofExcept]
  cases hrecords : pathRecords around.files pattern with
  | error e => exact .unlisted
  | ok records =>
    refine (Action.ensures_store_bind name records w none).mono ?_
    rintro _ _ w' ⟨rfl, r, rfl, h⟩
    exact .listed hname hpattern hrecords h

/-- What the command that removes a recordset can do. -/
inductive Removes (arguments : List Value) (w : Workspace) :
    List Exchange → Except Error (Option Signal) → Workspace → Prop
  | unnamed {e : Error} : Removes arguments w [] (.error e) w
  | removed {name : String} (hname : arguments[0]?.map Value.display = some name) :
      Removes arguments w [] (.ok none) { w with recordsets := w.recordsets.erase name }

theorem ensures_removeRecordset (around : Surroundings) (arguments : List Value) (w : Workspace) :
    Ensures (removeRecordset.perform around arguments) w (Removes arguments w) := by
  refine ensures_argumentText_bind (fun _ => .unnamed) fun name hname => ?_
  rw [Ensures.bind_iff, Ensures.modify_iff, Ensures.pure_iff]
  exact .removed hname

end Command

/-! ## Uniform stores -/

namespace RecordsetStore

/-- Every recordset of a store is uniform. -/
def AllUniform (s : RecordsetStore) : Prop :=
  ∀ name records, s.get? name = some records → Uniform records

theorem allUniform_empty : AllUniform Table.empty := nofun

theorem AllUniform.of_get?_eq {s s' : RecordsetStore} (h : AllUniform s)
    (heq : ∀ name, s'.get? name = s.get? name) : AllUniform s' := fun name records hrecords =>
  h name records (heq name ▸ hrecords)

theorem AllUniform.insert {s : RecordsetStore} (h : AllUniform s) (name : String)
    {records : List Record} (hrecords : Uniform records) : AllUniform (s.insert name records) := by
  intro other found hfound
  rw [Table.get?_insert] at hfound
  split at hfound
  · cases hfound
    exact hrecords
  · exact h other found hfound

theorem AllUniform.erase {s : RecordsetStore} (h : AllUniform s) (name : String) :
    AllUniform (s.erase name) := by
  intro other found hfound
  rw [Table.get?_erase] at hfound
  split at hfound
  · cases hfound
  · exact h other found hfound

theorem AllUniform.stores {name : String} {records : List Record} {w w' : Workspace}
    {r : Except Error Unit} (h : AllUniform w.recordsets) (hstores : Stores name records w r w') :
    AllUniform w'.recordsets := by
  cases hstores with
  | stored huniform => exact h.insert name huniform
  | refused => exact h

end RecordsetStore

namespace Command

/-- A command leaves uniform recordsets behind, whether it fails or not. -/
theorem perform_allUniform (c : Command) (around : Surroundings) (arguments : List Value)
    {w : Workspace} (h : AllUniform w.recordsets) :
    Ensures (c.perform around arguments) w fun _ _ w' => AllUniform w'.recordsets := by
  by_cases hwrites : c.recordset? arguments = none
  · refine (changes_perform c around arguments w).mono ?_
    intro _ r w' hchanges
    refine h.of_get?_eq fun name => ?_
    cases r with
    | error e => exact (hchanges.failure e rfl).recordsets name nofun
    | ok signal => exact (hchanges.success signal rfl).recordsets name (by rw [hwrites]; nofun)
  · -- only three commands name a recordset to write
    cases c with
    | recordset =>
      refine (ensures_recordset around arguments w).mono ?_
      intro _ r w' hqueries
      cases hqueries with
      | unasked => exact h
      | failed => exact h
      | returned _ _ hstores => exact h.stores hstores
    | recordsetOfPaths =>
      refine (ensures_recordsetOfPaths around arguments w).mono ?_
      intro _ r w' hlists
      cases hlists with
      | unlisted => exact h
      | listed _ _ _ hstores => exact h.stores hstores
    | removeRecordset =>
      refine (ensures_removeRecordset around arguments w).mono ?_
      intro _ r w' hremoves
      cases hremoves with
      | unnamed => exact h
      | removed => exact h.erase _
    | _ => exact absurd rfl hwrites

theorem run_allUniform (c : Command) (around : Surroundings) (arguments : List Value)
    {w : Workspace} (h : AllUniform w.recordsets) :
    Ensures (c.run around arguments) w fun _ _ w' => AllUniform w'.recordsets := by
  refine (run_framed c around arguments w).mono ?_
  rintro exchanges outcome w' ⟨r, left, hleads, hsettle, _⟩
  have hleft : AllUniform left.recordsets :=
    (perform_allUniform c around arguments h).of_leads hleads
  cases r with
  | ok signal =>
    cases hsettle
    exact hleft
  | error e =>
    rw [settle] at hsettle
    split at hsettle <;> cases hsettle <;> exact hleft

end Command

/-! ## Every sequence of calls -/

namespace RecordsetStore

/-- One call that may change the recordsets, whatever the variables and the failure in the channel
are and whatever the database answers: one recordset is stored or removed, or a command runs. -/
inductive Update : RecordsetStore → RecordsetStore → Prop
  | store {name : String} {records : List Record} {w w' : Workspace} {exchanges : List Exchange}
      {r : Except Error Unit}
      (h : ((Action.store name records).run.run w).Leads exchanges (r, w')) :
      Update w.recordsets w'.recordsets
  | remove (s : RecordsetStore) (name : String) : Update s (s.erase name)
  | command {c : Command} {around : Surroundings} {arguments : List Value} {w w' : Workspace}
      {exchanges : List Exchange} {r : Except Error (Option Signal)}
      (h : ((c.run around arguments).run.run w).Leads exchanges (r, w')) :
      Update w.recordsets w'.recordsets

theorem Update.allUniform {s s' : RecordsetStore} (h : Update s s') (hs : AllUniform s) :
    AllUniform s' := by
  cases h with
  | store h => exact hs.stores ((Action.ensures_store _ _ _).of_leads h).2
  | remove _ name => exact hs.erase name
  | command h => exact (Command.run_allUniform _ _ _ hs).of_leads h

/-- **Recordsets stay uniform.**  Whatever is stored, removed and run, every recordset has records
with the same field names whose values are numbers and texts.  Storing fails exactly if a record
differs from the first one in its field names or a value is no number and no text, and then changes
nothing.  The rows of a query are refused only if two of them differ in their field names; the other
error of this kind is one that the database itself has given instead of rows. -/
theorem recordsets_stay_uniform :
    (∀ s, Relation.ReflTransGen Update Table.empty s → AllUniform s) ∧
    (∀ name records w, Ensures (Action.store name records) w fun _ r w' =>
      ((∃ e, r = .error e) → w' = w) ∧
      ((∃ e, r = .error e) ↔ ∃ first rest, records = first :: rest ∧ ∃ record ∈ records,
        ¬ record.SameNames first ∨
          ∃ field value, record.get? field = some value ∧ value.isFieldValue = false)) ∧
    (∀ around arguments w, Ensures (Command.recordset.perform around arguments) w
      fun exchanges r _ => ∀ detail, r = .error (.recordset detail) →
        (∃ session rows, exchanges = [⟨.queryRows session around.statement, .ok rows⟩] ∧
          ∃ row ∈ rows, ∃ other ∈ rows, ¬ row.SameNames other) ∨
        ∃ session, exchanges =
          [⟨.queryRows session around.statement, .error (.recordset detail)⟩]) := by
  refine ⟨fun s hs => ?_, fun name records w => ?_, fun around arguments w => ?_⟩
  · induction hs with
    | refl => exact allUniform_empty
    | tail _ hupdate ih => exact hupdate.allUniform ih
  · refine (Action.ensures_store name records w).mono ?_
    rintro _ r w' ⟨-, hstores⟩
    rw [← not_uniform_iff]
    cases hstores with
    | stored huniform => exact ⟨nofun, nofun, fun hnot => absurd huniform hnot⟩
    | refused hnot => exact ⟨fun _ => rfl, fun _ => hnot, fun _ => ⟨_, rfl⟩⟩
  · refine (Command.ensures_recordset around arguments w).mono ?_
    intro exchanges r w' hqueries detail hr
    cases hqueries with
    | unasked hother =>
      cases hr
      exact absurd rfl (hother detail)
    | failed =>
      cases hr
      exact .inr ⟨_, rfl⟩
    | returned _ _ hstores =>
      cases hstores with
      | stored => cases hr
      | refused hnot =>
        rw [uniform_converted_iff] at hnot
        push Not at hnot
        exact .inl ⟨_, _, rfl, hnot⟩

/-- Two rows as a database may return them. -/
def mixedRows : List Record :=
  [Table.ofList [("a", .boolean true), ("b", .null)],
    Table.ofList [("a", .text "x"), ("b", .integer 2)]]

/-- A store with the two rows as they are kept. -/
def mixedStore : RecordsetStore :=
  Table.empty.insert "r" [Table.ofList [("a", .integer 1), ("b", .text "")],
    Table.ofList [("a", .text "x"), ("b", .integer 2)]]

/-- A workspace with nothing but recordsets. -/
def bareWorkspace (s : RecordsetStore) : Workspace :=
  ⟨⟨Table.empty, Table.empty⟩, ErrorChannel.empty, s⟩

/-- Rows with a truth value and a null are stored by the command, and records that differ in their
fields do not take their place. -/
theorem recordsets_stay_uniform_mixedRows :
    Relation.ReflTransGen Update Table.empty mixedStore ∧ AllUniform mixedStore := by
  have hqueried : ((Command.recordset.run ⟨some 0, Files.none, "select"⟩ [.text "r"]).run.run
      (bareWorkspace Table.empty)).Leads [⟨.queryRows 0 "select", .ok mixedRows⟩]
        (.ok none, bareWorkspace mixedStore) :=
    .ask (.done _)
  have hrefused : ((Action.store "r" [Table.empty, Table.ofList [("a", .null)]]).run.run
      (bareWorkspace mixedStore)).Leads []
        (.error (.recordset "record 2 has fields [\"a\"], expected []"),
          bareWorkspace mixedStore) :=
    .done _
  have hreached : Relation.ReflTransGen Update Table.empty mixedStore :=
    .tail (.single (Update.command hqueried)) (Update.store hrefused)
  exact ⟨hreached, recordsets_stay_uniform.1 mixedStore hreached⟩

end RecordsetStore

end StepScript
