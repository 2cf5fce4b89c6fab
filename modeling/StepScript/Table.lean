/-
# Tables

A table maps names to values and lists its entries in ascending order of their names.  Records,
session variables, environments and recordset stores are tables, so whatever goes through all
their entries does so in one order.
-/

namespace StepScript

/-- A map from names to values, as entries in strictly ascending order of names. -/
structure Table (α : Type) where
  entries : List (String × α)
  ascending : entries.Pairwise fun a b => a.1 < b.1
  deriving DecidableEq

namespace Table

variable {α β : Type}

/-! ## Entries -/

/-- Puts a value under a name into a list of entries, in order. -/
def insertEntry (name : String) (value : α) : List (String × α) → List (String × α)
  | [] => [(name, value)]
  | (key, old) :: rest =>
    if name < key then (name, value) :: (key, old) :: rest
    else if name = key then (name, value) :: rest
    else (key, old) :: insertEntry name value rest

/-- The first value under a name in a list of entries. -/
def lookupEntry (name : String) : List (String × α) → Option α
  | [] => none
  | (key, value) :: rest => if key = name then some value else lookupEntry name rest

/-- The names after an insertion are the old ones and the new one. -/
theorem fst_mem_insertEntry {name : String} {value : α} {entries : List (String × α)}
    {e : String × α} (h : e ∈ insertEntry name value entries) :
    e.1 = name ∨ ∃ e' ∈ entries, e'.1 = e.1 := by
  induction entries with
  | nil =>
    simp only [insertEntry, List.mem_singleton] at h
    exact .inl (by rw [h])
  | cons head rest ih =>
    obtain ⟨key, old⟩ := head
    simp only [insertEntry] at h
    split at h
    · rcases List.mem_cons.1 h with h | h
      · exact .inl (by rw [h])
      · exact .inr ⟨e, h, rfl⟩
    · split at h
      · rcases List.mem_cons.1 h with h | h
        · exact .inl (by rw [h])
        · exact .inr ⟨e, List.mem_cons_of_mem _ h, rfl⟩
      · rcases List.mem_cons.1 h with h | h
        · exact .inr ⟨e, by rw [h]; exact List.mem_cons_self, rfl⟩
        · rcases ih h with h | ⟨e', he', heq⟩
          · exact .inl h
          · exact .inr ⟨e', List.mem_cons_of_mem _ he', heq⟩

/-- An insertion keeps the order. -/
theorem insertEntry_ascending {name : String} {value : α} {entries : List (String × α)}
    (h : entries.Pairwise fun a b => a.1 < b.1) :
    (insertEntry name value entries).Pairwise fun a b => a.1 < b.1 := by
  induction entries with
  | nil => exact List.pairwise_singleton _ _
  | cons head rest ih =>
    obtain ⟨key, old⟩ := head
    have hrest := (List.pairwise_cons.1 h).1
    simp only [insertEntry]
    split
    next hlt =>
      refine List.pairwise_cons.2 ⟨fun e he => ?_, h⟩
      rcases List.mem_cons.1 he with he | he
      · rw [he]; exact hlt
      · exact String.lt_trans hlt (hrest e he)
    next hnlt =>
      split
      next heq =>
        exact List.pairwise_cons.2 ⟨fun e he => heq ▸ hrest e he, (List.pairwise_cons.1 h).2⟩
      next hne =>
        have hgt : key < name := by
          rcases Std.lt_trichotomy name key with hlt | heq | hgt
          · exact absurd hlt hnlt
          · exact absurd heq hne
          · exact hgt
        refine List.pairwise_cons.2 ⟨fun e he => ?_, ih (List.pairwise_cons.1 h).2⟩
        rcases fst_mem_insertEntry he with he | ⟨e', he', heq⟩
        · rw [he]; exact hgt
        · rw [← heq]; exact hrest e' he'

/-! ## Tables -/

/-- The table without entries. -/
def empty : Table α := ⟨[], List.Pairwise.nil⟩

/-- Puts a value under a name, replacing the one that was there. -/
def insert (t : Table α) (name : String) (value : α) : Table α :=
  ⟨insertEntry name value t.entries, insertEntry_ascending t.ascending⟩

/-- The value under a name. -/
def get? (t : Table α) (name : String) : Option α :=
  lookupEntry name t.entries

/-- Whether there is a value under a name. -/
def contains (t : Table α) (name : String) : Bool :=
  (t.get? name).isSome

/-- Removes the entry of a name. -/
def erase (t : Table α) (name : String) : Table α :=
  ⟨t.entries.filter fun e => e.1 != name, t.ascending.filter _⟩

/-- The entries that satisfy a condition. -/
def filter (keep : String → α → Bool) (t : Table α) : Table α :=
  ⟨t.entries.filter fun e => keep e.1 e.2, t.ascending.filter _⟩

/-- The names, in ascending order. -/
def names (t : Table α) : List String :=
  t.entries.map (·.1)

/-- The same names with other values. -/
def map (f : α → β) (t : Table α) : Table β :=
  ⟨t.entries.map fun e => (e.1, f e.2), by
    rw [List.pairwise_map]
    exact t.ascending⟩

/-- A table from pairs; of two pairs with one name the later one counts. -/
def ofList (pairs : List (String × α)) : Table α :=
  pairs.foldl (fun t e => t.insert e.1 e.2) empty

/-! ## Lookup after a change -/

/-- What an insertion makes of the entries. -/
theorem lookupEntry_insertEntry (name key : String) (value : α) (entries : List (String × α))
    (h : entries.Pairwise fun a b => a.1 < b.1) :
    lookupEntry key (insertEntry name value entries) =
      if name = key then some value else lookupEntry key entries := by
  induction entries with
  | nil => rfl
  | cons head rest ih =>
    obtain ⟨other, old⟩ := head
    simp only [insertEntry]
    split
    · rfl
    · split
      next heq => by_cases hk : name = key <;> simp [lookupEntry, ← heq, hk]
      next hne =>
        have := ih (List.pairwise_cons.1 h).2
        simp only [lookupEntry, this]
        by_cases ho : other = key
        · have : ¬ name = key := fun hk => hne (hk.trans ho.symm)
          simp [ho, this]
        · simp [ho]

/-- What a removal makes of the entries. -/
theorem lookupEntry_filter_ne (name key : String) (entries : List (String × α)) :
    lookupEntry key (entries.filter fun e => e.1 != name) =
      if name = key then none else lookupEntry key entries := by
  induction entries with
  | nil => simp [lookupEntry]
  | cons head rest ih =>
    obtain ⟨other, old⟩ := head
    by_cases hn : other = name
    · subst hn
      by_cases hk : other = key
      · simpa [hk] using ih
      · simpa [lookupEntry, hk] using ih
    · by_cases hk : name = key
      · simp_all [lookupEntry]
      · by_cases ho : other = key <;> simp_all [lookupEntry]

@[simp]
theorem get?_empty (key : String) : (empty : Table α).get? key = none := rfl

theorem get?_insert (t : Table α) (name key : String) (value : α) :
    (t.insert name value).get? key = if name = key then some value else t.get? key :=
  lookupEntry_insertEntry name key value t.entries t.ascending

@[simp]
theorem get?_insert_self (t : Table α) (name : String) (value : α) :
    (t.insert name value).get? name = some value := by
  simp [get?_insert]

theorem get?_erase (t : Table α) (name key : String) :
    (t.erase name).get? key = if name = key then none else t.get? key :=
  lookupEntry_filter_ne name key t.entries

end Table

end StepScript
