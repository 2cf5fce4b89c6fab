/-
# What the report says

A run reports that it is completed exactly if it was prepared, got its lock, opened its session and
came to the end of its scripts, and otherwise what made it fail.  The place in the report is that of
the last statement that was reached.
-/
import StepScript.Proofs.Interpreter.ControlFlow
import StepScript.Proofs.Transform.Course

namespace StepScript

/-! ## Scripts of a prepared transform -/

/-- A file without statements is not read. -/
theorem Statement.ne_nil_of_readAll {contents : String} {statements : List Statement}
    (h : readAll contents = .ok statements) : statements ≠ [] := by
  obtain ⟨read, _, h⟩ := Outcome.bind_eq_ok.1 h
  rintro rfl
  split at h
  · cases h
  · rename_i hempty
    cases h
    exact hempty rfl

/-- Every script of a prepared transform has a statement. -/
theorem Transform.ne_nil_of_prepared {t : Transform} {host : Host} {log : List Exchange}
    {ground : Ground} {scripts : List Script}
    (h : (t.prepared host).run.Leads log (.ok (ground, scripts))) :
    ∀ script ∈ scripts, script.statements ≠ [] := by
  obtain ⟨_, _, ground', _, _, h⟩ := Attempt.leads_bind_ok h
  obtain ⟨_, _, source, _, _, h⟩ := Attempt.leads_bind_ok h
  obtain ⟨_, _, steps, _, _, h⟩ := Attempt.leads_bind_ok h
  obtain ⟨_, _, read, _, hread, h⟩ := Attempt.leads_bind_ok h
  obtain ⟨_, _, _, _, _, h⟩ := Attempt.leads_bind_ok h
  obtain ⟨_, heq⟩ := Dialogue.leads_done.1 h
  cases heq
  intro script hscript
  obtain ⟨step, _, hstep⟩ :=
    Outcome.exists_of_mem_mapM (Attempt.eq_ok_of_leads_lift hread) hscript
  unfold Transform.script at hstep
  dsimp only at hstep
  split at hstep
  · cases hstep
  · rename_i contents _
    cases hstatements : Statement.readAll contents with
    | error e =>
      rw [hstatements] at hstep
      cases hstep
    | ok statements =>
      rw [hstatements] at hstep
      cases hstep
      exact Statement.ne_nil_of_readAll hstatements

/-! ## The last statement -/

/-- The last statement that a run reached: the number of its step and its own. -/
def Logbook.place? (b : Logbook) : Option (Int × Nat) :=
  (b.passages.flatMap fun p => p.visits.map fun v => (p.script.number, v.number)).getLast?

/-- The last statement that was reached before the end. -/
def Ending.place? : Ending → Option (Int × Nat)
  | .looped _ book => book.place?
  | _ => none

/-- If every script has a statement, the progress of a run is the place of the last one it
reached. -/
theorem Logbook.Accounts.place {run : Statement → Action (Option Signal)}
    {scripts : List Script} {i : Nat} {exchanges : List Exchange} {b : Logbook}
    (h : b.Accounts run scripts i exchanges)
    (hvisits : ∀ p ∈ b.passages, p.visits ≠ []) :
    b.progress.step = b.place?.map Prod.fst ∧ b.progress.statement = b.place?.map Prod.snd := by
  rw [h.step, h.statement]
  unfold Logbook.visits Logbook.place?
  rcases List.eq_nil_or_concat b.passages with hnil | ⟨done, p, hpassages⟩
  · rw [hnil]
    exact ⟨rfl, rfl⟩
  · rw [List.concat_eq_append] at hpassages
    rw [hpassages] at hvisits ⊢
    have hp := hvisits p (List.mem_append_right _ List.mem_cons_self)
    obtain ⟨before, v, hv⟩ := List.eq_nil_or_concat p.visits |>.resolve_left hp
    rw [List.concat_eq_append] at hv
    simp [hv]

/-- The progress of a run of scripts with statements is the place of the last one it reached. -/
theorem Transform.Loops.place {t : Transform} {host : Host} {ground : Ground}
    {session : Session} {log : List Exchange} {result : Except Error Unit} {book : Logbook}
    {scripts : List Script} (hscripts : ∀ script ∈ scripts, script.statements ≠ [])
    (h : t.Loops host scripts ground session log result book) :
    book.progress.step = book.place?.map Prod.fst ∧
      book.progress.statement = book.place?.map Prod.snd := by
  have hlaw := ensures_controlFlow
    (Action.runStatement t.registry (some session) (t.setUp host).1.files) scripts
    (Transform.workspace ground)
  obtain ⟨hflow, i, haccounts⟩ := Dialogue.always_iff.1 hlaw _ _ h
  refine haccounts.place fun p hp hnil => ?_
  have hscript : p.script ∈ scripts :=
    hflow.entered.subset (List.mem_map_of_mem hp)
  have hstarted := hflow.started p hp
  rw [hnil] at hstarted
  exact hscripts _ hscript (List.head?_eq_none_iff.1 hstarted.symm)

/-! ## The report -/

/-- The report on a run with an end. -/
structure Reports (ending : Ending) (report : Report) : Prop where
  /-- A run is completed exactly if every stage succeeded. -/
  completed : report.status = .completed ∧ report.exitCode = 0 ∧ report.error = none ↔
    ∃ book, ending = .looped (.ok ()) book
  /-- Any other run reports what made it fail. -/
  failed : (∀ book, ending ≠ .looped (.ok ()) book) → ∃ e, ending.result = .error e ∧
    report.status = .error ∧ report.exitCode = 1 ∧ report.error = some e
  step : report.step = ending.place?.map Prod.fst
  statement : report.statement = ending.place?.map Prod.snd

theorem Ending.result_eq_ok {ending : Ending} :
    ending.result = .ok () ↔ ∃ book, ending = .looped (.ok ()) book := by
  cases ending with
  | unprepared e => exact ⟨nofun, nofun⟩
  | refused e => exact ⟨nofun, nofun⟩
  | unconnected e => exact ⟨nofun, nofun⟩
  | looped result book =>
    constructor
    · rintro rfl
      exact ⟨book, rfl⟩
    · rintro ⟨_, heq⟩
      cases heq
      rfl

theorem Ending.reports {ending : Ending} {step : Option Int} {statement : Option Nat}
    (hreport : ending.report = Report.finished .completed step statement ending.result)
    (hplace : step = ending.place?.map Prod.fst ∧ statement = ending.place?.map Prod.snd) :
    Reports ending ending.report := by
  rw [hreport, hplace.1, hplace.2]
  have hok := ending.result_eq_ok
  cases hresult : ending.result with
  | ok _ =>
    rw [hresult] at hok
    have hlooped := hok.1 rfl
    refine ⟨⟨fun _ => hlooped, fun _ => ⟨rfl, rfl, rfl⟩⟩, ?_, rfl, rfl⟩
    intro hne
    obtain ⟨book, heq⟩ := hlooped
    exact absurd heq (hne book)
  | error e =>
    rw [hresult] at hok
    refine ⟨⟨nofun, fun hlooped => absurd (hok.2 hlooped) nofun⟩, ?_, rfl, rfl⟩
    exact fun _ => ⟨e, hresult, rfl, rfl, rfl⟩

theorem Transform.Goes.reports {t : Transform} {host : Host} {c : Course} {ending : Ending}
    (h : t.Goes host c ending) : Reports ending ending.report := by
  cases h with
  | unprepared _ => exact Ending.reports rfl ⟨rfl, rfl⟩
  | refused _ _ => exact Ending.reports rfl ⟨rfl, rfl⟩
  | unconnected _ _ _ _ => exact Ending.reports rfl ⟨rfl, rfl⟩
  | unswitched _ _ _ _ _ _ _ => exact Ending.reports rfl ⟨rfl, rfl⟩
  | looped session answer hprepared htaken hswitched hlooped hreleased =>
    exact Ending.reports rfl (hlooped.place (Transform.ne_nil_of_prepared hprepared))

/-- **How statements follow each other, and what the report says.**  Against every database and
with any commands, the statements of a run of scripts follow each other by the law of their control
flow, and the run of a transform reports how it ended. -/
theorem run_follows_controlFlow :
    (∀ (run : Statement → Action (Option Signal)) (scripts : List Script) (w : Workspace)
      (τ : Type) (db : Backend τ) (state : τ),
      ∃ (result : Except Error Unit) (book : Logbook) (exchanges : List Exchange) (state' : τ),
        ((Logged.scripts run scripts).run.run (Logbook.start w)).recorded.run db state =
          (((result, book), exchanges), state') ∧
        ((Run.scriptsWith run scripts).run.run ⟨none, none, w⟩).recorded.run db state =
          (((result, book.progress), exchanges), state') ∧
        exchanges = book.visits.flatMap Visit.exchanges ∧
        ControlFlow run scripts result book.passages) ∧
    (∀ (registry : Registry Known) (session : Session) (files : Files) (scripts : List Script),
      Run.scripts registry session files scripts =
        Run.scriptsWith (Action.runStatement registry (some session) files) scripts) ∧
    (∀ (t : Transform) (host : Host) (τ : Type) (db : Backend τ) (state : τ),
      ∃ (c : Course) (ending : Ending), t.Goes host c ending ∧
        (t.run host).log db state = c.log ∧ Reports ending ((t.run host).run db state).1) := by
  refine ⟨?_, Run.scripts_eq_scriptsWith, ?_⟩
  · intro run scripts w τ db state
    have hlaw := (ensures_controlFlow run scripts w).of_run db state
    generalize hlogged : ((Logged.scripts run scripts).run.run
      (Logbook.start w)).recorded.run db state = out at hlaw
    obtain ⟨⟨⟨result, book⟩, exchanges⟩, state'⟩ := out
    obtain ⟨hflow, i, haccounts⟩ := hlaw
    exact ⟨result, book, exchanges, state', rfl,
      (Logged.projects_scripts run scripts).run_recorded _ db state hlogged,
      haccounts.exchanges, hflow⟩
  · intro t host τ db state
    have hleads := (t.run host).leads_run db state
    obtain ⟨c, ending, hgoes, hlog, hreport⟩ := Transform.leads_run.1 hleads
    refine ⟨c, ending, hgoes, hlog, ?_⟩
    rw [← Dialogue.run_recorded, hreport]
    exact hgoes.reports

end StepScript
