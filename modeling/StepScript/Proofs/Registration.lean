/-
# What registrations leave behind

A registry records the first registration of each name for each kind of capability, and nothing
else.  One more registration keeps this true, so it is true of every registry, in whatever order
capabilities were registered and however often the ones that are always known were among them.
-/
import StepScript.Proofs.Outcome
import StepScript.Registry

namespace StepScript

namespace Registry

variable {K : Contents}

/-! ## First registrations -/

/-- A name is registered for a kind. -/
def Taken (list : List (Registration K)) (kind : CapabilityKind) (name : String) : Prop :=
  ∃ e ∈ list, e.2.kind = kind ∧ e.1 = name

/-- A registration is the first of its name for a kind. -/
def IsFirst (list : List (Registration K)) (kind : CapabilityKind) (e : Registration K) : Prop :=
  ∃ before rest, list = before ++ e :: rest ∧ e.2.kind = kind ∧ ¬ Taken before kind e.1

/-- A name is registered for a kind when another one is not yet. -/
def Before (list : List (Registration K)) (kind : CapabilityKind) (name other : String) : Prop :=
  ∃ before rest, list = before ++ rest ∧ Taken before kind name ∧ ¬ Taken before kind other

variable {list more : List (Registration K)} {kind : CapabilityKind} {name other : String}
  {e e' : Registration K} {r : Registry K}

theorem taken_nil : ¬ Taken ([] : List (Registration K)) kind name := by
  rintro ⟨e, he, _⟩
  cases he

theorem IsFirst.taken (h : IsFirst list kind e) : Taken list kind e.1 := by
  obtain ⟨before, rest, rfl, hkind, _⟩ := h
  exact ⟨e, List.mem_append_right before List.mem_cons_self, hkind, rfl⟩

/-- A first registration is what a search from the left finds. -/
theorem isFirst_iff_find? : IsFirst list kind e ↔
    list.find? (fun d => decide (d.2.kind = kind ∧ d.1 = e.1)) = some e := by
  rw [List.find?_eq_some_iff_append]
  constructor
  · rintro ⟨before, rest, rfl, hkind, hfree⟩
    refine ⟨decide_eq_true ⟨hkind, rfl⟩, before, rest, rfl, fun d hd => ?_⟩
    rw [Bool.not_eq_true']
    exact decide_eq_false fun htakes => hfree ⟨d, hd, htakes⟩
  · rintro ⟨hself, before, rest, rfl, hfree⟩
    refine ⟨before, rest, rfl, (of_decide_eq_true hself).1, ?_⟩
    rintro ⟨d, hd, htakes⟩
    simpa [htakes] using hfree d hd

theorem IsFirst.unique (h : IsFirst list kind e) (h' : IsFirst list kind e') (hname : e.1 = e'.1) :
    e = e' := by
  rw [isFirst_iff_find?] at h h'
  rw [hname] at h
  exact Option.some.inj (h.symm.trans h')

/-- A name that is registered was registered first by something. -/
theorem Taken.exists_isFirst (h : Taken list kind name) :
    ∃ e, IsFirst list kind e ∧ e.1 = name := by
  obtain ⟨d, hd, htakes⟩ := h
  have hfound : (list.find? fun d => decide (d.2.kind = kind ∧ d.1 = name)).isSome :=
    List.find?_isSome.2 ⟨d, hd, decide_eq_true htakes⟩
  obtain ⟨e, he⟩ := Option.isSome_iff_exists.1 hfound
  have hfits := List.find?_some he
  obtain rfl : e.1 = name := (of_decide_eq_true hfits).2
  exact ⟨e, isFirst_iff_find?.2 he, rfl⟩

/-- One more registration is a first one if its name is free. -/
theorem isFirst_concat : IsFirst (list ++ [e']) kind e ↔
    IsFirst list kind e ∨ (e = e' ∧ e'.2.kind = kind ∧ ¬ Taken list kind e'.1) := by
  constructor
  · rintro ⟨before, rest, heq, hkind, hfree⟩
    rcases List.eq_nil_or_concat rest with rfl | ⟨rest, d, rfl⟩
    · obtain ⟨rfl, hlast⟩ := List.append_inj' heq rfl
      cases hlast
      exact .inr ⟨rfl, hkind, hfree⟩
    · rw [List.concat_eq_append, ← List.cons_append, ← List.append_assoc] at heq
      exact .inl ⟨before, rest, (List.append_inj' heq rfl).1, hkind, hfree⟩
  · rintro (⟨before, rest, rfl, hkind, hfree⟩ | ⟨rfl, hkind, hfree⟩)
    · exact ⟨before, rest ++ [e'], by rw [List.append_assoc, List.cons_append], hkind, hfree⟩
    · exact ⟨list, [], rfl, hkind, hfree⟩

theorem Before.append (h : Before list kind name other) (more : List (Registration K)) :
    Before (list ++ more) kind name other := by
  obtain ⟨before, rest, rfl, htaken, hfree⟩ := h
  exact ⟨before, rest ++ more, List.append_assoc _ _ _, htaken, hfree⟩

theorem Before.ne (h : Before list kind name other) : name ≠ other := by
  rintro rfl
  obtain ⟨before, _, _, htaken, hfree⟩ := h
  exact hfree htaken

/-! ## The invariant -/

/-- A registry is what a list of registrations leaves behind: for each kind the first registration
of each name, in the order of the list. -/
structure Records (r : Registry K) (list : List (Registration K)) : Prop where
  mem_iff : ∀ {kind e}, e ∈ r.entries kind ↔ IsFirst list kind e
  ordered : ∀ kind, (r.entries kind).Pairwise fun e e' => Before list kind e.1 e'.1

theorem records_empty : Records (empty : Registry K) [] where
  mem_iff := by
    intro kind e
    refine ⟨fun h => absurd h List.not_mem_nil, fun h => absurd h.taken taken_nil⟩
  ordered _ := .nil

namespace Records

theorem kind_eq (h : r.Records list) (he : e ∈ r.entries kind) : e.2.kind = kind := by
  obtain ⟨_, _, _, hkind, _⟩ := h.mem_iff.1 he
  exact hkind

/-- A name has an entry exactly if it was registered. -/
theorem exists_mem_iff (h : r.Records list) :
    (∃ e ∈ r.entries kind, e.1 = name) ↔ Taken list kind name := by
  constructor
  · rintro ⟨e, he, rfl⟩
    exact (h.mem_iff.1 he).taken
  · intro htaken
    obtain ⟨e, hfirst, hname⟩ := htaken.exists_isFirst
    exact ⟨e, h.mem_iff.2 hfirst, hname⟩

theorem has_iff (h : r.Records list) : r.has kind name = true ↔ Taken list kind name := by
  rw [← h.exists_mem_iff, has, find?, Option.isSome_map, List.find?_isSome]
  simp only [beq_iff_eq]

/-- What is found under a name is what was registered first under it. -/
theorem find?_eq_some (h : r.Records list) {c : Capability K} :
    r.find? kind name = some c ↔ IsFirst list kind (name, c) := by
  rw [← h.mem_iff, find?, Option.map_eq_some_iff]
  constructor
  · rintro ⟨e, he, rfl⟩
    have hfits := List.find?_some he
    obtain rfl : e.1 = name := eq_of_beq hfits
    exact List.mem_of_find?_eq_some he
  · intro hmem
    have hfound : ((r.entries kind).find? (·.1 == name)).isSome :=
      List.find?_isSome.2 ⟨_, hmem, beq_self_eq_true name⟩
    obtain ⟨e, he⟩ := Option.isSome_iff_exists.1 hfound
    have hfits := List.find?_some he
    have hname : e.1 = name := eq_of_beq hfits
    have hfirst : IsFirst list kind e := h.mem_iff.1 (List.mem_of_find?_eq_some he)
    obtain rfl := hfirst.unique (h.mem_iff.1 hmem) hname
    exact ⟨_, he, rfl⟩

theorem find?_eq_none (h : r.Records list) :
    r.find? kind name = none ↔ ¬ Taken list kind name := by
  rw [← h.has_iff, has, Bool.not_eq_true, Option.isSome_eq_false_iff, Option.isNone_iff_eq_none]

/-- **One more registration keeps a registry right.** -/
theorem register (h : r.Records list) (name : String) (c : Capability K) :
    (r.register name c).2.Records (list ++ [(name, c)]) := by
  unfold Registry.register
  split
  · rename_i hhas
    have htaken : Taken list c.kind name := h.has_iff.1 hhas
    refine ⟨?_, fun kind => (h.ordered kind).imp fun hbefore => hbefore.append _⟩
    intro kind e
    rw [h.mem_iff, isFirst_concat]
    refine (or_iff_left ?_).symm
    rintro ⟨_, rfl, hfree⟩
    exact hfree htaken
  · rename_i hhas
    have hfree : ¬ Taken list c.kind name := fun htaken => hhas (h.has_iff.2 htaken)
    constructor
    · intro kind e
      rw [isFirst_concat, add]
      dsimp only
      split
      · rename_i hkind
        subst hkind
        rw [List.mem_append, h.mem_iff, List.mem_singleton]
        exact or_congr_right ⟨fun he => ⟨he, rfl, hfree⟩, fun he => he.1⟩
      · rename_i hkind
        rw [h.mem_iff]
        exact (or_iff_left fun he => hkind he.2.1.symm).symm
    · intro kind
      have hold : (r.entries kind).Pairwise fun e e' =>
          Before (list ++ [(name, c)]) kind e.1 e'.1 :=
        (h.ordered kind).imp fun hbefore => hbefore.append _
      rw [add]
      dsimp only
      split
      · rename_i hkind
        subst hkind
        refine List.pairwise_append.2 ⟨hold, List.pairwise_singleton _ _, fun e he e' he' => ?_⟩
        rw [List.mem_singleton.1 he']
        exact ⟨list, [(name, c)], rfl, (h.mem_iff.1 he).taken, hfree⟩
      · exact hold

/-- **Any registrations keep a registry right.** -/
theorem registerAll (h : r.Records list) (more : List (Registration K)) :
    (r.registerAll more).Records (list ++ more) := by
  induction more generalizing r list with
  | nil => rwa [List.append_nil]
  | cons e more ih =>
    have hstep := ih (h.register e.1 e.2)
    rwa [List.append_assoc] at hstep

/-! ## What is found -/

theorem register_fst (h : r.Records list) (name : String) (c : Capability K) :
    (r.register name c).1 = true ↔ ¬ Taken list c.kind name := by
  rw [← h.has_iff, Registry.register]
  split <;> simp [*]

theorem resolve_eq_ok (h : r.Records list) {c : Capability K} :
    r.resolve kind name = .ok c ↔ IsFirst list kind (name, c) := by
  rw [← h.find?_eq_some, resolve]
  cases r.find? kind name <;> simp

theorem resolve_eq_error (h : r.Records list) {error : Error} :
    r.resolve kind name = .error error ↔
      error = .capabilityNotFound kind name ∧ ¬ Taken list kind name := by
  rw [← h.find?_eq_none, resolve]
  cases r.find? kind name <;> simp [eq_comm]

theorem mem_names (h : r.Records list) : name ∈ r.names kind ↔ Taken list kind name := by
  rw [← h.exists_mem_iff, names, List.mem_map]

theorem names_ordered (h : r.Records list) (kind : CapabilityKind) :
    (r.names kind).Pairwise (Before list kind) :=
  List.pairwise_map.2 (h.ordered kind)

/-- A lookup whose `pick` takes something out of every capability of its kind fails only because
nothing is registered. -/
theorem lookup_eq_error (h : r.Records list) {α : Type} {pick : Capability K → Option α}
    (hpick : ∀ c : Capability K, c.kind = kind → (pick c).isSome) {error : Error}
    (herror : r.lookup kind pick name = .error error) : error = .capabilityNotFound kind name := by
  rcases Outcome.bind_eq_error.1 herror with hresolve | ⟨found, hfound, hcontent⟩
  · exact (h.resolve_eq_error.1 hresolve).1
  · have hkind : found.kind = kind := h.kind_eq (h.mem_iff.2 (h.resolve_eq_ok.1 hfound))
    obtain ⟨content, hpicked⟩ := Option.isSome_iff_exists.1 (hpick found hkind)
    rw [hpicked] at hcontent
    cases hcontent

end Records

/-! ## Kinds do not meet -/

/-- A registration for one kind leaves the others alone. -/
theorem entries_register_of_ne {c : Capability K} (h : c.kind ≠ kind) (r : Registry K)
    (name : String) :
    (r.register name c).2.entries kind = r.entries kind := by
  unfold register
  split
  · rfl
  · exact if_neg (Ne.symm h)

/-- A registration sees the entries for its own kind only. -/
theorem register_congr {c : Capability K} {r r' : Registry K}
    (h : r.entries c.kind = r'.entries c.kind) (name : String) :
    (r.register name c).1 = (r'.register name c).1 ∧
      (r.register name c).2.entries c.kind = (r'.register name c).2.entries c.kind := by
  have hhas : r.has c.kind name = r'.has c.kind name := by
    rw [has, has, find?, find?, h]
  unfold register
  rw [hhas]
  split
  · exact ⟨rfl, h⟩
  · simp [add, h]

theorem registerAll_cons (r : Registry K) (e : Registration K) (list : List (Registration K)) :
    r.registerAll (e :: list) = (r.register e.1 e.2).2.registerAll list := rfl

/-- What is registered for a kind depends on the registrations for this kind only. -/
theorem entries_registerAll_filter {r r' : Registry K} (h : r.entries kind = r'.entries kind)
    (list : List (Registration K)) : (r.registerAll list).entries kind =
      (r'.registerAll (list.filter fun e => e.2.kind = kind)).entries kind := by
  induction list generalizing r r' with
  | nil => exact h
  | cons e list ih =>
    by_cases hkind : e.2.kind = kind
    · subst hkind
      rw [List.filter_cons_of_pos (by simp), registerAll_cons, registerAll_cons]
      exact ih (register_congr h e.1).2
    · rw [List.filter_cons_of_neg (by simpa using hkind), registerAll_cons]
      exact ih ((entries_register_of_ne hkind r e.1).trans h)

/-! ## Calls -/

/-- A call that registers something. -/
inductive Call (K : Contents) where
  | register (name : String) (c : Capability K)
  /-- Registers everything that is always known. -/
  | registerBuiltins

section

variable (known : ∀ kind, Known kind → K kind)

/-- What a call registers, in its order. -/
def Call.registrations : Call K → List (Registration K)
  | .register name c => [(name, c)]
  | .registerBuiltins => builtinsAs known

/-- The registry after a call. -/
def perform (r : Registry K) : Call K → Registry K
  | .register name c => (r.register name c).2
  | .registerBuiltins => r.registerAll (builtinsAs known)

/-- The registry after calls, the first one made on an empty registry. -/
def after (calls : List (Call K)) : Registry K := calls.foldl (perform known) empty

/-- What calls register, in their order. -/
def registrations (calls : List (Call K)) : List (Registration K) :=
  calls.flatMap (Call.registrations known)

theorem perform_eq_registerAll (r : Registry K) (call : Call K) :
    r.perform known call = r.registerAll (call.registrations known) := by
  cases call <;> rfl

/-- Calls are registrations, one after the other. -/
theorem after_eq_registerAll (calls : List (Call K)) :
    after known calls = empty.registerAll (registrations known calls) := by
  unfold after
  generalize empty = r
  induction calls generalizing r with
  | nil => rfl
  | cons call calls ih =>
    rw [List.foldl_cons, ih, perform_eq_registerAll, registrations, registrations,
      List.flatMap_cons, registerAll, registerAll, registerAll, List.foldl_append]

/-- What calls come to: the first registration of a name for a kind decides, and nothing else. -/
structure FirstWins (calls : List (Call K)) : Prop where
  /-- The registry is what the registrations of the calls leave, one after the other. -/
  after_eq : after known calls = empty.registerAll (registrations known calls)
  resolved : ∀ kind name c, (after known calls).resolve kind name = .ok c ↔
    IsFirst (registrations known calls) kind (name, c)
  unresolved : ∀ kind name error, (after known calls).resolve kind name = .error error ↔
    error = .capabilityNotFound kind name ∧ ¬ Taken (registrations known calls) kind name
  /-- A registration succeeds, behind those before it, if its name is free for its kind. -/
  registered : ∀ before e rest, registrations known calls = before ++ e :: rest →
    (((empty.registerAll before).register e.1 e.2).1 = true ↔ ¬ Taken before e.2.kind e.1)
  mem_names : ∀ kind name, name ∈ (after known calls).names kind ↔
    Taken (registrations known calls) kind name
  nodup_names : ∀ kind, ((after known calls).names kind).Nodup
  names_ordered : ∀ kind,
    ((after known calls).names kind).Pairwise (Before (registrations known calls) kind)
  /-- Other calls with the same registrations for a kind come to the same for this kind. -/
  apart : ∀ kind others, (registrations known others).filter (fun e => e.2.kind = kind) =
      (registrations known calls).filter (fun e => e.2.kind = kind) →
    (after known others).names kind = (after known calls).names kind ∧
      ∀ name, (after known others).resolve kind name = (after known calls).resolve kind name ∧
        ∀ c : Capability K, c.kind = kind →
          ((after known others).register name c).1 = ((after known calls).register name c).1
  /-- No lookup finds a capability of another kind. -/
  no_mismatch : ∀ name error,
    ((after known calls).command name = .error error →
      error = .capabilityNotFound .command name) ∧
    ((after known calls).dialect name = .error error →
      error = .capabilityNotFound .dialect name) ∧
    ((after known calls).connector name = .error error →
      error = .capabilityNotFound .connector name) ∧
    ((after known calls).repository name = .error error →
      error = .capabilityNotFound .repository name) ∧
    ((after known calls).stepSource name = .error error →
      error = .capabilityNotFound .stepSource name)

/-- **The first registration wins**, whatever there is to register, and whenever it is
registered. -/
theorem first_registration_wins (calls : List (Call K)) : FirstWins known calls := by
  have hrecords : ∀ list : List (Registration K), (empty.registerAll list).Records list :=
    fun list => records_empty.registerAll list
  have hafter : (after known calls).Records (registrations known calls) := by
    rw [after_eq_registerAll]
    exact hrecords _
  refine ⟨after_eq_registerAll known calls, fun _ _ _ => hafter.resolve_eq_ok,
    fun _ _ _ => hafter.resolve_eq_error,
    fun before e _ _ => (hrecords before).register_fst e.1 e.2, fun _ _ => hafter.mem_names,
    fun kind => (hafter.names_ordered kind).imp Before.ne, hafter.names_ordered, ?_, ?_⟩
  · intro kind others hsame
    have hentries : (after known others).entries kind = (after known calls).entries kind := by
      rw [after_eq_registerAll, after_eq_registerAll, entries_registerAll_filter rfl, hsame,
        ← entries_registerAll_filter rfl]
    refine ⟨by rw [names, names, hentries], fun name => ⟨?_, ?_⟩⟩
    · rw [resolve, resolve, find?, find?, hentries]
    · rintro c rfl
      exact (register_congr hentries name).1
  · intro name error
    refine ⟨hafter.lookup_eq_error ?_, hafter.lookup_eq_error ?_, hafter.lookup_eq_error ?_,
      hafter.lookup_eq_error ?_, hafter.lookup_eq_error ?_⟩ <;>
    · intro c hkind
      -- the capability of the kind is left, and its content is there
      cases c <;> cases hkind
      rfl

end

end Registry

end StepScript
