/-
# Everything is checked first

A transform is prepared before anything else: its steps are listed, and every step file is read,
parsed and accepted.  Checking a transform is preparing it, and asks the database for the list of
the steps at most.  Running it starts with the same preparation; unless that succeeds nothing is
locked, opened or executed, and the report of the run is that of the check.
-/
import StepScript.Proofs.Outcome
import StepScript.Proofs.Transform.Course

namespace StepScript

/-! ## Steps that are ready -/

/-- A step was read from its file and parsed into a script. -/
def Step.ReadAs (files : Files) (directory : String) (step : Step) (script : Script) : Prop :=
  script.number = step.number ∧
    ∃ contents, files.read (Path.join directory step.file) = .ok contents ∧
      Statement.readAll contents = .ok script.statements

namespace Transform

theorem script_eq_ok {files : Files} {directory : String} {step : Step} {s : Script} :
    script files directory step = .ok s ↔ step.ReadAs files directory s := by
  unfold script Step.ReadAs
  dsimp only
  cases files.read (Path.join directory step.file) with
  | error fault => simp
  | ok contents =>
    simp only [Outcome.map_eq_ok, Except.ok.injEq, exists_eq_left']
    constructor
    · rintro ⟨statements, hread, rfl⟩
      exact ⟨rfl, hread⟩
    · rintro ⟨hnumber, hread⟩
      refine ⟨s.statements, hread, ?_⟩
      rw [← hnumber]

theorem accept_eq_ok {registry : Registry Known} {scripts : List Script} :
    accept registry scripts = .ok () ↔
      ∀ s ∈ scripts, registry.acceptsAll s.statements = true := by
  unfold accept
  split
  · rename_i s hfound
    have hrefused : registry.acceptsAll s.statements = false := by
      simpa using List.find?_some hfound
    refine ⟨nofun, fun hall => ?_⟩
    rw [hall s (List.mem_of_find?_eq_some hfound)] at hrefused
    cases hrefused
  · rename_i hnone
    refine ⟨fun _ s hs => ?_, fun _ => rfl⟩
    simpa using List.find?_eq_none.1 hnone s hs

variable (t : Transform) (host : Host)

/-- Every step of a transform was listed, read, parsed and accepted, by these exchanges. -/
structure Ready (log : List Exchange) (ground : Ground) (scripts : List Script) : Prop where
  setUp : (t.setUp host).2 = .ok ground
  steps : ∃ source steps, t.registry.stepSource t.config.stepSource = .ok source ∧
    (Step.list source t.config (t.setUp host).1.files ground.connector ground.dialect).run.Leads log
      (.ok steps) ∧
    List.Forall₂ (Step.ReadAs (t.setUp host).1.files ground.directory) steps scripts
  accepted : ∀ script ∈ scripts, t.registry.acceptsAll script.statements = true

variable {t host}

/-- **A transform is prepared exactly if all its steps are ready.** -/
theorem leads_prepared_ok {log : List Exchange} {ground : Ground} {scripts : List Script} :
    (t.prepared host).run.Leads log (.ok (ground, scripts)) ↔
      t.Ready host log ground scripts := by
  unfold prepared prepare
  simp only [Attempt.leads_bind_iff, Attempt.leads_lift]
  constructor
  · rintro ⟨_, _, ground, rfl, ⟨rfl, hground⟩, _, _, source, rfl, ⟨rfl, hsource⟩,
      listing, _, steps, rfl, hsteps, _, _, read, rfl, ⟨rfl, hread⟩,
      _, _, _, rfl, ⟨rfl, haccept⟩, hdone⟩
    obtain ⟨rfl, heq⟩ := Dialogue.leads_done.1 hdone
    cases heq
    refine ⟨hground.symm, ⟨source, steps, hsource.symm, ?_, ?_⟩, accept_eq_ok.1 haccept.symm⟩
    · simpa using hsteps
    · exact (Outcome.mapM_eq_ok.1 hread.symm).imp fun _ _ h => script_eq_ok.1 h
  · rintro ⟨hground, ⟨source, steps, hsource, hsteps, hread⟩, haccepted⟩
    have hscripts : steps.mapM (script (t.setUp host).1.files ground.directory) = .ok scripts :=
      Outcome.mapM_eq_ok.2 (hread.imp fun _ _ h => script_eq_ok.2 h)
    refine ⟨[], _, ground, rfl, ⟨rfl, hground.symm⟩, [], _, source, rfl, ⟨rfl, hsource.symm⟩,
      log, [], steps, (List.append_nil log).symm, hsteps, [], [], scripts, rfl,
      ⟨rfl, hscripts.symm⟩, [], [], (), rfl, ⟨rfl, (accept_eq_ok.2 haccepted).symm⟩, .done _⟩

/-! ## What the list of the steps takes -/

variable (t host)

/-- The exchanges by which a transform learns its steps: none unless they are in a table, and then a
connection and, if it is opened, the query for the steps and the end of the session. -/
inductive Consults : List Exchange → Prop
  | nothing (h : ∀ ground, (t.setUp host).2 = .ok ground →
      t.registry.stepSource t.config.stepSource ≠ .ok .table) : Consults []
  | refused {ground : Ground} (e : Error) (hground : (t.setUp host).2 = .ok ground)
      (hsource : t.registry.stepSource t.config.stepSource = .ok .table) :
      Consults [⟨.connect ground.connector t.config.target, .error e⟩]
  | asked {ground : Ground} (session : Session)
      (rows : Answer (.queryRows session (Step.query t.config ground.dialect)))
      (answer : Answer (.close session)) (hground : (t.setUp host).2 = .ok ground)
      (hsource : t.registry.stepSource t.config.stepSource = .ok .table) :
      Consults [⟨.connect ground.connector t.config.target, .ok session⟩, ⟨_, rows⟩,
        ⟨.close session, answer⟩]

variable {t host}

/-- Nothing that a transform asks to learn its steps executes anything or asks for a single value,
as taking a lock does. -/
theorem Consults.quiet {log : List Exchange} (h : t.Consults host log) :
    ∀ x ∈ log, ∀ session sql, x.call ≠ .execute session sql ∧ x.call ≠ .queryValue session sql := by
  intro x hx session sql
  cases h with
  | nothing => cases hx
  | refused =>
    rw [List.mem_singleton.1 hx]
    exact ⟨nofun, nofun⟩
  | asked =>
    rcases List.mem_cons.1 hx with rfl | hx
    · exact ⟨nofun, nofun⟩
    rcases List.mem_cons.1 hx with rfl | hx
    · exact ⟨nofun, nofun⟩
    rw [List.mem_singleton.1 hx]
    exact ⟨nofun, nofun⟩

end Transform

namespace Transform

variable {t : Transform} {host : Host}

section Database

variable {τ : Type} (db : Backend τ) (state : τ)

end Database

/-- A course starts with its preparation, and has nothing else unless all steps are ready. -/
theorem Goes.prepared {c : Course} {ending : Ending} (h : t.Goes host c ending) :
    ∃ result, (t.prepared host).run.Leads c.preparation result ∧
      ((∃ ground scripts, t.Ready host c.preparation ground scripts) ∨
        c = ⟨c.preparation, [], [], [], [], []⟩) := by
  cases h with
  | unprepared hprepared => exact ⟨_, hprepared, .inr rfl⟩
  | refused hprepared => exact ⟨_, hprepared, .inl ⟨_, _, leads_prepared_ok.1 hprepared⟩⟩
  | unconnected e hprepared => exact ⟨_, hprepared, .inl ⟨_, _, leads_prepared_ok.1 hprepared⟩⟩
  | unswitched e session answer hprepared =>
    exact ⟨_, hprepared, .inl ⟨_, _, leads_prepared_ok.1 hprepared⟩⟩
  | looped session answer hprepared =>
    exact ⟨_, hprepared, .inl ⟨_, _, leads_prepared_ok.1 hprepared⟩⟩

end Transform

end StepScript
