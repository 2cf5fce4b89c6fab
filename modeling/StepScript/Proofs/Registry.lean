/-
# Commands and dialects in the registry

The registry of what is always known finds each command and each dialect under its own name and
under no other.
-/
import StepScript.Interpreter
import StepScript.Proofs.Registration
import StepScript.Proofs.Token

namespace StepScript

/-! ## Names of commands -/

theorem Command.ofName?_eq_some {name : String} {c : Command} :
    Command.ofName? name = some c ↔ c.name = name := by
  constructor
  · intro h
    unfold Command.ofName? at h
    have hname := List.find?_some h
    exact eq_of_beq hname
  · rintro rfl
    cases c <;> decide

/-- No two commands have the same name. -/
theorem Command.eq_of_name_eq {c d : Command} (h : c.name = d.name) : c = d :=
  Option.some.inj ((Command.ofName?_eq_some.2 h).symm.trans (Command.ofName?_eq_some.2 rfl))

namespace Registry

/-! ## Entries -/

section

variable {K : Contents}

theorem entries_add (r : Registry K) (kind other : CapabilityKind) (e : Registration K) :
    (r.add kind e).entries other = r.entries other ++ if other = kind then [e] else [] := by
  by_cases h : other = kind
  · rw [if_pos h, add, h]
    exact if_pos rfl
  · rw [if_neg h, List.append_nil]
    exact if_neg h

theorem has_add {r : Registry K} {kind other : CapabilityKind} {e : Registration K}
    {name : String} : (r.add kind e).has other name = true ↔
      r.has other name = true ∨ (other = kind ∧ e.1 = name) := by
  unfold has find?
  rw [entries_add]
  split <;> simp [*]

/-- Registrations under different names are all kept, each with those of its kind. -/
theorem entries_registerAll {r : Registry K} {list : List (Registration K)}
    (hnames : (list.map fun e => (e.2.kind, e.1)).Nodup)
    (hfree : ∀ e ∈ list, r.has e.2.kind e.1 = false) (kind : CapabilityKind) :
    (r.registerAll list).entries kind = r.entries kind ++ list.filter (·.2.kind = kind) := by
  induction list generalizing r with
  | nil => exact (List.append_nil _).symm
  | cons e list ih =>
    have hregister : (r.register e.1 e.2).2 = r.add e.2.kind e := by
      rw [register, hfree e List.mem_cons_self]
      rfl
    rw [List.map_cons, List.nodup_cons] at hnames
    have hrest : ∀ e' ∈ list, (r.add e.2.kind e).has e'.2.kind e'.1 = false := by
      intro e' he'
      rw [← Bool.not_eq_true, has_add, hfree e' (List.mem_cons_of_mem e he')]
      rintro (h | ⟨hkind, hname⟩)
      · cases h
      · refine hnames.1 (List.mem_map.2 ⟨e', he', ?_⟩)
        rw [hkind, hname]
    rw [registerAll_cons, hregister, ih hnames.2 hrest, entries_add, List.append_assoc,
      List.filter_cons]
    by_cases h : e.2.kind = kind
    · rw [if_pos h.symm, if_pos (decide_eq_true h)]
      rfl
    · rw [if_neg fun heq => h heq.symm, if_neg fun htrue => h (of_decide_eq_true htrue)]
      rfl

/-- A kind whose entries are listed under their names is searched by name. -/
theorem find?_of_entries {α : Type} {r : Registry K} {kind : CapabilityKind} {list : List α}
    {nameOf : α → String} {wrap : α → Capability K}
    (h : r.entries kind = list.map fun a => (nameOf a, wrap a)) (name : String) :
    r.find? kind name = (list.find? (nameOf · == name)).map wrap := by
  unfold find?
  rw [h, List.find?_map, Option.map_map]
  rfl

end

theorem entries_withBuiltins (kind : CapabilityKind) :
    withBuiltins.entries kind = builtins.filter (·.2.kind = kind) := by
  have hnames : (builtins.map fun e => (e.2.kind, e.1)).Nodup := by decide +kernel
  rw [withBuiltins, entries_registerAll hnames fun _ _ => rfl]
  rfl

theorem find?_command (name : String) :
    withBuiltins.find? .command name = (Command.ofName? name).map Capability.command :=
  find?_of_entries (entries_withBuiltins .command) name

theorem find?_dialect (name : String) : withBuiltins.find? .dialect name =
    (Dialect.builtins.find? (·.name == name)).map Capability.dialect :=
  find?_of_entries (entries_withBuiltins .dialect) name

/-- A command is found under its own name and under no other. -/
theorem command_withBuiltins {name : String} {c : Command} :
    withBuiltins.command name = .ok c ↔ c.name = name := by
  rw [← Command.ofName?_eq_some]
  unfold command lookup resolve
  rw [find?_command]
  cases Command.ofName? name with
  | none =>
    constructor <;>
      · intro h
        cases h
  | some found =>
    constructor
    · intro h
      cases h
      rfl
    · intro h
      cases h
      rfl

/-- A dialect is found under its own name and under no other. -/
theorem dialect_withBuiltins {name : String} {d : Dialect} :
    withBuiltins.dialect name = .ok d ↔ d ∈ Dialect.builtins ∧ d.name = name := by
  constructor
  · intro h
    unfold dialect lookup resolve at h
    rw [find?_dialect] at h
    cases hfound : Dialect.builtins.find? (·.name == name) with
    | none =>
      rw [hfound] at h
      cases h
    | some found =>
      rw [hfound] at h
      cases h
      have hname := List.find?_some hfound
      exact ⟨List.mem_of_find?_eq_some hfound, eq_of_beq hname⟩
  · rintro ⟨hd, rfl⟩
    have hall : ∀ d ∈ Dialect.builtins, withBuiltins.dialect d.name = .ok d := by decide +kernel
    exact hall d hd

/-- Under the name of a dialect, only a connector of the same name is found. -/
theorem name_of_connector {d : Dialect} (hd : d ∈ Dialect.builtins) {c : Connector}
    (h : withBuiltins.connector d.name = .ok c) : c.name = d.name := by
  have hall : ∀ d ∈ Dialect.builtins,
      ((withBuiltins.connector d.name).toOption.all fun c => c.name == d.name) = true := by
    decide +kernel
  have hname := hall d hd
  rw [h] at hname
  exact eq_of_beq hname

end Registry

/-! ## Accepted statements -/

/-- A statement from a step file that was accepted: its arguments are tokens, and they are ones that
its command takes. -/
structure Statement.Accepted (s : Statement) (c : Command) : Prop where
  name : c.name = s.command
  tokens : ∀ a ∈ s.arguments, IsToken a.toList
  accepts : c.accepts s.arguments = true

/-- A script from a step file that was accepted. -/
def Script.Accepted (script : Script) : Prop :=
  (∃ contents, Statement.readAll contents = .ok script.statements) ∧
    Registry.withBuiltins.acceptsAll script.statements = true

/-- The statements of an accepted script are accepted. -/
theorem Script.Accepted.statement {script : Script} (h : script.Accepted) {s : Statement}
    (hs : s ∈ script.statements) : ∃ c, s.Accepted c := by
  obtain ⟨⟨contents, hcontents⟩, haccepts⟩ := h
  have htokens := Statement.isToken_of_readAll hcontents s hs
  have hstatement : Registry.withBuiltins.acceptsStatement s = true :=
    List.all_eq_true.1 haccepts s hs
  unfold Registry.acceptsStatement at hstatement
  split at hstatement
  · rename_i c hc
    exact ⟨c, Registry.command_withBuiltins.1 hc, htokens, hstatement⟩
  · cases hstatement

end StepScript
