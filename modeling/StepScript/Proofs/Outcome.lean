/-
# Results that may be errors

How a success or a failure of something put together comes from those of its parts.
-/
import Mathlib.Data.List.Forall2

namespace StepScript.Outcome

variable {ε α β : Type}

/-- A sequence succeeds if both of its parts do. -/
theorem bind_eq_ok {x : Except ε α} {f : α → Except ε β} {b : β} :
    (x >>= f) = .ok b ↔ ∃ a, x = .ok a ∧ f a = .ok b := by
  cases x with
  | error e =>
    constructor
    · intro h
      cases h
    · rintro ⟨a, h, _⟩
      cases h
  | ok a =>
    constructor
    · intro h
      exact ⟨a, rfl, h⟩
    · rintro ⟨a', h, hf⟩
      cases h
      exact hf

/-- A sequence fails if one of its parts does. -/
theorem bind_eq_error {x : Except ε α} {f : α → Except ε β} {e : ε} :
    (x >>= f) = .error e ↔ x = .error e ∨ ∃ a, x = .ok a ∧ f a = .error e := by
  cases x with
  | error e' =>
    constructor
    · intro h
      cases h
      exact .inl rfl
    · rintro (h | ⟨a, h, _⟩)
      · cases h
        rfl
      · cases h
  | ok a =>
    constructor
    · intro h
      exact .inr ⟨a, rfl, h⟩
    · rintro (h | ⟨a', h, hf⟩)
      · cases h
      · cases h
        exact hf

theorem map_eq_ok {f : α → β} {x : Except ε α} {b : β} :
    x.map f = .ok b ↔ ∃ a, x = .ok a ∧ b = f a := by
  cases x with
  | error e => exact ⟨nofun, nofun⟩
  | ok a =>
    constructor
    · intro h
      cases h
      exact ⟨a, rfl, rfl⟩
    · rintro ⟨a', h, rfl⟩
      cases h
      rfl

theorem map_eq_error {f : α → β} {x : Except ε α} {e : ε} :
    x.map f = .error e ↔ x = .error e := by
  cases x with
  | error e' =>
    constructor <;>
      · intro h
        cases h
        rfl
  | ok a => exact ⟨nofun, nofun⟩

/-- What is done to each member of a list succeeds if it does so for every member. -/
theorem mapM_eq_ok {f : α → Except ε β} {list : List α} {out : List β} :
    list.mapM f = .ok out ↔ List.Forall₂ (fun a b => f a = .ok b) list out := by
  induction list generalizing out with
  | nil =>
    rw [List.mapM_nil, List.forall₂_nil_left_iff]
    constructor
    · intro h
      cases h
      rfl
    · rintro rfl
      rfl
  | cons a list ih =>
    rw [List.mapM_cons, bind_eq_ok, List.forall₂_cons_left_iff]
    constructor
    · rintro ⟨b, hb, h⟩
      obtain ⟨rest, hrest, h⟩ := bind_eq_ok.1 h
      cases h
      exact ⟨b, rest, hb, ih.1 hrest, rfl⟩
    · rintro ⟨b, rest, hb, hrest, rfl⟩
      exact ⟨b, hb, bind_eq_ok.2 ⟨rest, ih.2 hrest, rfl⟩⟩

/-- What comes out of a list was made from one of its members. -/
theorem exists_of_mem_mapM {f : α → Except ε β} {list : List α} {out : List β} {b : β}
    (h : list.mapM f = .ok out) (hb : b ∈ out) : ∃ a ∈ list, f a = .ok b := by
  have hforall := mapM_eq_ok.1 h
  clear h
  induction hforall with
  | nil => cases hb
  | @cons a b' list out hab _ ih =>
    rcases List.mem_cons.1 hb with rfl | hb
    · exact ⟨a, List.mem_cons_self, hab⟩
    · obtain ⟨a', ha', hab'⟩ := ih hb
      exact ⟨a', List.mem_cons_of_mem a ha', hab'⟩

/-- What succeeds for every member of a list succeeds for the list. -/
theorem exists_mapM_eq_ok {f : α → Except ε β} {list : List α}
    (h : ∀ a ∈ list, ∃ b, f a = .ok b) : ∃ out, list.mapM f = .ok out := by
  induction list with
  | nil => exact ⟨[], rfl⟩
  | cons a list ih =>
    obtain ⟨b, hb⟩ := h a List.mem_cons_self
    obtain ⟨rest, hrest⟩ := ih fun a' ha' => h a' (List.mem_cons_of_mem a ha')
    exact ⟨b :: rest, mapM_eq_ok.2 (.cons hb (mapM_eq_ok.1 hrest))⟩

/-- A list fails by one of its members. -/
theorem exists_of_mapM_eq_error {f : α → Except ε β} {list : List α} {e : ε}
    (h : list.mapM f = .error e) : ∃ a ∈ list, f a = .error e := by
  induction list with
  | nil => cases h
  | cons a list ih =>
    rw [List.mapM_cons] at h
    obtain hfirst | ⟨b, _, h⟩ := bind_eq_error.1 h
    · exact ⟨a, List.mem_cons_self, hfirst⟩
    · obtain hrest | ⟨rest, _, h⟩ := bind_eq_error.1 h
      · obtain ⟨a', ha', hfails⟩ := ih hrest
        exact ⟨a', List.mem_cons_of_mem a ha', hfails⟩
      · cases h

end StepScript.Outcome
