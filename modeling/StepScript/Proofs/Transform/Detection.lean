/-
# The dialect found in a URL

The connector of a transform is the one of the scheme of its URL, and the dialect, if none is given,
the first one whose name occurs anywhere in the URL.  The name of the scheme is found there as well,
but a dialect that was registered earlier is found before it.
-/
import StepScript.Proofs.Database.Spellings
import StepScript.Proofs.Registry
import StepScript.Transform

namespace StepScript

/-! ## Dialects in a URL -/

namespace Dialect

/-- The name of a dialect occurs in a URL, up to letter case. -/
def NamedIn (url : String) (d : Dialect) : Prop :=
  d.name.toList <:+: (Text.lower url).toList

instance (url : String) (d : Dialect) : Decidable (d.NamedIn url) :=
  inferInstanceAs (Decidable (_ <:+: _))

/-- A URL names none of the dialects that are registered before this one. -/
def NoneBefore (url : String) (d : Dialect) : Prop :=
  ∃ front rest, builtins = front ++ d :: rest ∧ ∀ other ∈ front, ¬ other.NamedIn url

theorem NoneBefore.mem {url : String} {d : Dialect} (h : d.NoneBefore url) : d ∈ builtins := by
  obtain ⟨front, rest, hsplit, _⟩ := h
  rw [hsplit]
  exact List.mem_append_right front List.mem_cons_self

/-- No two of the dialects that are always known have the same name. -/
theorem eq_of_name_eq {d other : Dialect} (hd : d ∈ builtins) (hother : other ∈ builtins)
    (h : d.name = other.name) : d = other := by
  have hfound := Registry.dialect_withBuiltins.2 ⟨hd, h⟩
  rw [Registry.dialect_withBuiltins.2 ⟨hother, rfl⟩] at hfound
  exact (Except.ok.inj hfound).symm

theorem find?_namedIn {url : String} {d : Dialect} :
    builtins.find? (fun d => decide (d.NamedIn url)) = some d ↔
      d.NamedIn url ∧ d.NoneBefore url := by
  rw [List.find?_eq_some_iff_append, NoneBefore, decide_eq_true_eq]
  simp only [Bool.not_eq_true', decide_eq_false_iff_not]

theorem ascii_name_of_mem_builtins {d : Dialect} (hd : d ∈ builtins) :
    ∀ c ∈ d.name.toList, c.toNat < 0x80 := by
  have hall : (builtins.all fun d => d.name.toList.all (·.toNat < 0x80)) = true := by
    decide +kernel
  have hname := List.all_eq_true.1 hall d hd
  exact fun c hc => of_decide_eq_true (List.all_eq_true.1 hname c hc)

/-- A URL names the dialect that its scheme names. -/
theorem namedIn_of_scheme {d : Dialect} (hd : d ∈ builtins) {t : Target}
    (h : t.scheme = .ok d.name) : d.NamedIn t.url := by
  obtain ⟨part, hpart, hname⟩ := Target.exists_of_scheme h
  have hascii := ascii_name_of_mem_builtins hd
  unfold NamedIn
  rw [hname] at hascii ⊢
  exact Text.lower_isInfix hpart hascii

end Dialect

namespace Registry

/-- The search of a URL goes through the dialects that are always known, in their order. -/
theorem dialectNameIn?_withBuiltins (url : String) :
    withBuiltins.dialectNameIn? url =
      (Dialect.builtins.find? fun d => decide (d.NamedIn url)).map Dialect.name := by
  have hnames : withBuiltins.names .dialect = Dialect.builtins.map Dialect.name := by
    rw [names, entries_withBuiltins]
    rfl
  have hsame : Text.contains (Text.lower url) ∘ Dialect.name = fun d => decide (d.NamedIn url) := by
    funext d
    rw [Bool.eq_iff_iff, decide_eq_true_eq]
    exact Text.contains_iff
  unfold dialectNameIn?
  rw [hnames, List.find?_map, hsame]

end Registry

/-! ## The dialect of a transform -/

namespace Transform

variable {t : Transform} {d found : Dialect} {scheme : String}

/-- Without a given name, the dialect is the first one that the URL names. -/
theorem dialect_eq_ok (hregistry : t.registry = .withBuiltins)
    (hdatabase : t.config.database = none) : t.dialect = .ok found ↔
      found.NamedIn t.config.databaseUrl ∧ found.NoneBefore t.config.databaseUrl := by
  rw [← Dialect.find?_namedIn]
  unfold dialect
  rw [hregistry, hdatabase, Registry.dialectNameIn?_withBuiltins]
  cases hfind : Dialect.builtins.find? fun d => decide (d.NamedIn t.config.databaseUrl) with
  | none =>
    constructor <;>
      · intro h
        cases h
  | some first =>
    have hfirst := Registry.dialect_withBuiltins.2 ⟨List.mem_of_find?_eq_some hfind, rfl⟩
    show Registry.withBuiltins.dialect first.name = .ok found ↔ _
    rw [hfirst, Option.some.injEq, Except.ok.injEq]

/-- What comes of a URL whose scheme is the name of a dialect. -/
structure Detection (t : Transform) (d : Dialect) : Prop where
  /-- The dialect is the first one that the URL names; there is one. -/
  first : ∃ found, t.dialect = .ok found ∧
    found.NamedIn t.config.databaseUrl ∧ found.NoneBefore t.config.databaseUrl
  /-- It is the one of the scheme if the URL names none that is registered before. -/
  same_iff : t.dialect = .ok d ↔ d.NoneBefore t.config.databaseUrl
  /-- Where there is a connector, the dialect has its name under the same condition. -/
  connector_iff : ∀ evaluator found connector repository,
    t.resolve = .ok (evaluator, found, connector, repository) →
      (found.name = connector.name ↔ d.NoneBefore t.config.databaseUrl)

/-- **Which dialect is found in a URL whose scheme is the name of a dialect.**  It is the first one
that the URL names, and the one of the scheme exactly if no earlier one is named. -/
theorem dialect_of_scheme (hregistry : t.registry = .withBuiltins)
    (hdatabase : t.config.database = none) (hscheme : t.config.target.scheme = .ok scheme)
    (hd : t.registry.dialect scheme = .ok d) : t.Detection d := by
  rw [hregistry, Registry.dialect_withBuiltins] at hd
  obtain ⟨hmem, rfl⟩ := hd
  have hnamed : d.NamedIn t.config.target.url := Dialect.namedIn_of_scheme hmem hscheme
  have hsame : t.dialect = .ok d ↔ d.NoneBefore t.config.databaseUrl := by
    rw [dialect_eq_ok hregistry hdatabase]
    exact and_iff_right hnamed
  refine ⟨?_, hsame, ?_⟩
  · -- the search does not fail: it would reach the dialect of the scheme at the latest
    have hsome : (Dialect.builtins.find? fun d =>
        decide (d.NamedIn t.config.databaseUrl)).isSome = true :=
      List.find?_isSome.2 ⟨d, hmem, decide_eq_true hnamed⟩
    obtain ⟨found, hfound⟩ := Option.isSome_iff_exists.1 hsome
    have hfirst := Dialect.find?_namedIn.1 hfound
    exact ⟨found, (dialect_eq_ok hregistry hdatabase).2 hfirst, hfirst⟩
  · intro evaluator found connector repository hresolve
    obtain ⟨_, _, hresolve⟩ := Outcome.bind_eq_ok.1 hresolve
    obtain ⟨_, hfound, hresolve⟩ := Outcome.bind_eq_ok.1 hresolve
    obtain ⟨_, hname, hresolve⟩ := Outcome.bind_eq_ok.1 hresolve
    obtain ⟨_, hconnector, hresolve⟩ := Outcome.bind_eq_ok.1 hresolve
    obtain ⟨_, _, hresolve⟩ := Outcome.bind_eq_ok.1 hresolve
    cases hresolve
    rw [hscheme] at hname
    cases hname
    rw [hregistry] at hconnector
    rw [Registry.name_of_connector hmem hconnector, ← hsame, hfound]
    constructor
    · intro heq
      obtain ⟨_, hbefore⟩ := (dialect_eq_ok hregistry hdatabase).1 hfound
      exact congrArg Except.ok (Dialect.eq_of_name_eq hbefore.mem hmem heq)
    · intro heq
      exact congrArg Dialect.name (Except.ok.inj heq)

/-- A transform with nothing set but the URL of its database. -/
def ofUrl (url : String) : Transform :=
  ⟨{ databaseUrl := url }, .withBuiltins, ⟨none, true⟩, .empty⟩

theorem registry_ofUrl (url : String) : (ofUrl url).registry = .withBuiltins := by
  rw [ofUrl]

/-- A URL whose path ends in the name of a dialect that is registered later. -/
theorem dialect_of_scheme_postgres_url :
    (ofUrl "jdbc:Postgres://host/vertica").config.target.scheme = .ok "postgres" ∧
      Detection (ofUrl "jdbc:Postgres://host/vertica")
        { Dialect.new "postgres" with hasBoolean := true, tableLocking := true } := by
  have hscheme : (ofUrl "jdbc:Postgres://host/vertica").config.target.scheme = .ok "postgres" := by
    decide +kernel
  exact ⟨hscheme, dialect_of_scheme (registry_ofUrl _) rfl hscheme (by decide +kernel)⟩

/-- The file of the database is named after a kind of database that is looked for first. -/
theorem not_dialect_of_scheme_of_path :
    ¬ ∀ (t : Transform) (d : Dialect) (scheme : String), t.registry = .withBuiltins →
      t.config.database = none → t.config.target.scheme = .ok scheme →
      t.registry.dialect scheme = .ok d → t.dialect = .ok d := by
  intro h
  have hduckdb := h (ofUrl "duckdb:/data/sqlite.db")
    { Dialect.new "duckdb" with hasBoolean := true } "duckdb" (registry_ofUrl _) rfl
    (by decide +kernel) (by decide +kernel)
  exact absurd hduckdb (by decide +kernel)

end Transform

end StepScript
