/-
# Fetching repositories

Whatever its host does, a transform finds its files in the directory that its configuration says, or
it cannot be set up.  Fetching a repository fails in the configuration, on the files and the network
of the host, or in git, and a repository that is there already changes nothing.
-/
import StepScript.Proofs.Outcome
import StepScript.Transform

namespace StepScript

/-- The errors that fetching a repository can fail with. -/
def Error.isFetchFailure : Error → Bool
  | .configuration _ | .io _ | .process _ => true
  | _ => false

namespace Repository

/-- Where the files of a repository are found. -/
def place (kind : RepositoryKind) (config : Config) : String :=
  match kind with
  | .directory => config.repoBaseDir
  | .git | .http => directory config

/-! ## Parts of fetching -/

section

variable {σ α β : Type}

/-- However the host acts, a part of fetching has a result with a property, or it fails with an
error of fetching. -/
def Fetch.Gives (x : Fetch σ α) (Q : α → Prop) : Prop :=
  ∀ state, match (x.run state).1 with
    | .ok a => Q a
    | .error e => e.isFetchFailure = true

namespace Fetch

variable {x : Fetch σ α} {f : α → Fetch σ β} {P : α → Prop} {Q : β → Prop}

theorem Gives.pure {a : α} (h : P a) : (Pure.pure a : Fetch σ α).Gives P := fun _ => h

theorem Gives.throw {e : Error} (h : e.isFetchFailure = true) : (throw e : Fetch σ α).Gives P :=
  fun _ => h

theorem run_bind (x : Fetch σ α) (f : α → Fetch σ β) (state : σ) :
    (x >>= f).run state = match x.run state with
      | (.ok a, after) => (f a).run after
      | (.error e, after) => (.error e, after) := by
  unfold ExceptT.run
  simp only [bind, ExceptT.bind, ExceptT.mk, StateT.bind, ExceptT.bindCont]
  obtain ⟨result, after⟩ := x state
  cases result <;> rfl

/-- What follows may rely on the property of what is before it. -/
theorem Gives.bind (hx : x.Gives P) (hf : ∀ a, P a → (f a).Gives Q) : (x >>= f).Gives Q := by
  intro state
  have hresult := hx state
  rw [run_bind]
  generalize x.run state = ran at hresult ⊢
  obtain ⟨result, after⟩ := ran
  cases result with
  | ok a => exact hf a hresult after
  | error e => exact hresult

theorem gives_get : (get : Fetch σ σ).Gives fun _ => True := fun _ => trivial

theorem gives_ofExcept {result : Except Error α}
    (h : ∀ e, result = .error e → e.isFetchFailure = true) :
    (MonadExcept.ofExcept result : Fetch σ α).Gives fun _ => True := by
  cases result with
  | ok a => exact .pure trivial
  | error e => exact .throw (h e rfl)

/-- What the host does gives anything, and its failure is the error it is made into. -/
theorem gives_failing {error : String → Error}
    (h : ∀ fault, (error fault).isFetchFailure = true) (action : HostAction σ α) :
    (Fetch.failing error action).Gives fun _ => True := by
  intro state
  show match (Except.mapError error (action state).1) with
    | .ok _ => True
    | .error e => e.isFetchFailure = true
  cases (action state).1 with
  | ok a => trivial
  | error fault => exact h fault

end Fetch

/-! ## The kinds of repositories -/

variable (system : HostSystem σ)

theorem gives_rebuild (path : String) : (rebuild system path).Gives fun _ => True := by
  refine Fetch.gives_get.bind fun state _ => ?_
  have hmake : (Fetch.failing .io (system.makeDirectory path)).Gives fun _ => True :=
    Fetch.gives_failing (fun _ => rfl) _
  split
  · exact (Fetch.gives_failing (fun _ => rfl) _).bind fun _ _ => hmake
  · exact hmake

theorem gives_runGit (arguments : List String) (place : Option String) :
    (runGit system arguments place).Gives fun _ => True := by
  refine (Fetch.gives_failing (fun _ => rfl) _).bind fun ended _ => ?_
  split
  · exact .throw rfl
  · exact .pure trivial

theorem isFetchFailure_of_requiredUrl {config : Config} {e : Error}
    (h : requiredUrl config = .error e) : e.isFetchFailure = true := by
  unfold requiredUrl at h
  split at h
  · split at h
    · cases h
      rfl
    · cases h
  · cases h
    rfl

theorem isFetchFailure_of_fileName {url : String} {e : Error} (h : fileName url = .error e) :
    e.isFetchFailure = true := by
  unfold fileName at h
  dsimp only at h
  split at h
  · cases h
  · cases h
    rfl

theorem gives_clone (config : Config) :
    (clone system config).Gives (· = directory config) := by
  refine (Fetch.gives_ofExcept fun e => isFetchFailure_of_requiredUrl).bind fun url _ => ?_
  refine (gives_rebuild system _).bind fun _ _ => ?_
  refine (gives_runGit system _ _).bind fun _ _ => ?_
  split
  · exact (gives_runGit system _ _).bind fun _ _ => .pure rfl
  · exact .pure rfl

theorem gives_extract (archive base : String) :
    (extract system archive base).Gives fun _ => True := by
  refine (Fetch.gives_failing (fun _ => rfl) _).bind fun _ _ => ?_
  exact Fetch.gives_failing (fun _ => rfl) _

theorem gives_download (config : Config) :
    (download system config).Gives (· = directory config) := by
  refine (Fetch.gives_ofExcept fun e => isFetchFailure_of_requiredUrl).bind fun url _ => ?_
  refine (gives_rebuild system _).bind fun _ _ => ?_
  refine (Fetch.gives_ofExcept fun e => isFetchFailure_of_fileName).bind fun name _ => ?_
  refine (Fetch.gives_failing (fun _ => rfl) _).bind fun octets _ => ?_
  refine (Fetch.gives_failing (fun _ => rfl) _).bind fun _ _ => ?_
  split
  · exact (gives_extract system _ _).bind fun _ _ => .pure rfl
  · exact .pure rfl

/-- **A repository is found where the configuration says**, or there is an error of fetching. -/
theorem gives_provide (kind : RepositoryKind) (config : Config) :
    (provide system kind config).Gives (· = place kind config) := by
  cases kind with
  | directory => exact .pure rfl
  | git => exact gives_clone system config
  | http => exact gives_download system config

end

end Repository

/-! ## Transforms -/

/-- The kind of repository of a transform is looked up last. -/
theorem Transform.repository_of_resolve {t : Transform} {evaluator : Evaluator} {dialect : Dialect}
    {connector : Connector} {kind : RepositoryKind}
    (h : t.resolve = .ok (evaluator, dialect, connector, kind)) :
    t.registry.repository t.config.resolvedRepoType = .ok kind := by
  obtain ⟨_, _, h⟩ := Outcome.bind_eq_ok.1 h
  obtain ⟨_, _, h⟩ := Outcome.bind_eq_ok.1 h
  obtain ⟨_, _, h⟩ := Outcome.bind_eq_ok.1 h
  obtain ⟨_, _, h⟩ := Outcome.bind_eq_ok.1 h
  obtain ⟨found, hfound, h⟩ := Outcome.bind_eq_ok.1 h
  cases h
  exact hfound

/-- **A transform that is set up has its files where its repository has them.**  A repository that
is there already leaves the host as it was. -/
theorem Transform.setUp_eq_ok {t : Transform} {host : Host} {ground : Ground}
    (h : (t.setUp host).2 = .ok ground) :
    ∃ kind, t.registry.repository t.config.resolvedRepoType = .ok kind ∧
      ground.directory = Repository.place kind t.config ∧
      (kind = .directory → (t.setUp host).1 = host) := by
  unfold setUp at h ⊢
  split at h
  · cases h
  · rename_i evaluator dialect connector kind hresolve
    have hgives := Repository.gives_provide host.system kind t.config host.state
    refine ⟨kind, repository_of_resolve hresolve, ?_, ?_⟩
    · generalize (Repository.provide host.system kind t.config).run host.state = ran at h hgives
      obtain ⟨result, after⟩ := ran
      obtain ⟨directory, rfl, rfl⟩ := Outcome.map_eq_ok.1 h
      exact hgives
    · rintro rfl
      rfl

end StepScript
