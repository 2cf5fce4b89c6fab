/-
# How statements follow each other

In every run, whatever its commands come to, the scripts are entered in their order and each is
executed from its first statement on.  A script is cut short only by a signal or by a failure, and
behind the exit of the transform or a failure no statement is reached any more.
-/
import StepScript.Proofs.Interpreter.Visits

namespace StepScript

variable {run : Statement → Action (Option Signal)} {scripts : List Script}

/-! ## One script -/

/-- A statement with a result was executed. -/
theorem Visit.Genuine.isExecuted {v : Visit} (h : v.Genuine run) {signal : Option Signal}
    (hok : v.result = .ok signal) : v.isExecuted = true := by
  unfold Visit.isExecuted
  cases hobstacle : v.obstacle? with
  | none => rfl
  | some e =>
    have herror := (h.stopped e hobstacle).1
    rw [hok] at herror
    cases herror

namespace Passage

/-- The statements of a script were reached one after the other, from the first one on. -/
structure Genuine (run : Statement → Action (Option Signal)) (p : Passage) : Prop where
  visits : ∀ v ∈ p.visits, v.Genuine run
  numbered : p.visits.map Visit.number = List.range' 1 p.visits.length
  reached : p.visits.map Visit.statement <+: p.script.statements

/-- How a script came to its end: all its statements went on, with or without a failure that nobody
handled, or the last one that was reached did not go on. -/
inductive Ends (p : Passage) : Except Error (Option Signal) → Prop
  | through (hall : p.visits.map Visit.statement = p.script.statements)
      (hgo : ∀ v ∈ p.visits, v.result = .ok none) : Ends p (.ok none)
  | pending (e : Error) (hall : p.visits.map Visit.statement = p.script.statements)
      (hgo : ∀ v ∈ p.visits, v.result = .ok none) : Ends p (.error (.unhandled e))
  | cut (before : List Visit) (last : Visit) (r : Except Error (Option Signal))
      (hvisits : p.visits = before ++ [last]) (hgo : ∀ v ∈ before, v.result = .ok none)
      (hlast : last.result = r) (hr : r ≠ .ok none) : Ends p r

/-- The run goes on with the next script. -/
def IsPassed (p : Passage) : Prop :=
  p.Ends (.ok none) ∨ p.Ends (.ok (some .stepExit))

variable {p : Passage} {r : Except Error (Option Signal)}

theorem Genuine.filter_isExecuted (hp : p.Genuine run) {visits : List Visit}
    (hsub : ∀ v ∈ visits, v ∈ p.visits) (hok : ∀ v ∈ visits, ∃ signal, v.result = .ok signal) :
    visits.filter Visit.isExecuted = visits := by
  rw [List.filter_eq_self]
  intro v hv
  obtain ⟨signal, hsignal⟩ := hok v hv
  exact (hp.visits v (hsub v hv)).isExecuted hsignal

theorem Genuine.executed_eq (hp : p.Genuine run) (hgo : ∀ v ∈ p.visits, v.result = .ok none) :
    p.executed = p.visits :=
  hp.filter_isExecuted (fun _ hv => hv) fun v hv => ⟨none, hgo v hv⟩

/-- What was executed: all statements, those up to one with the result of the script, or those in
front of one that met a failure it did not handle. -/
theorem Genuine.executed_cases (hp : p.Genuine run) (h : p.Ends r) :
    (p.executed = p.visits ∧ p.visits.map Visit.statement = p.script.statements) ∨
    (p.executed = p.visits ∧ ∃ v, p.visits.getLast? = some v ∧ v.result = r) ∨
    (∃ v e, p.visits = p.executed ++ [v] ∧ v.obstacle? = some e ∧ r = .error (.unhandled e)) := by
  cases h with
  | through hall hgo => exact .inl ⟨hp.executed_eq hgo, hall⟩
  | pending e hall hgo => exact .inl ⟨hp.executed_eq hgo, hall⟩
  | cut before last r hvisits hgo hlast hr =>
    have hmem : ∀ v ∈ before ++ [last], v ∈ p.visits := by
      rw [hvisits]
      exact fun v hv => hv
    have hbefore : before.filter Visit.isExecuted = before :=
      hp.filter_isExecuted (fun v hv => hmem v (List.mem_append_left _ hv))
        fun v hv => ⟨none, hgo v hv⟩
    have hlastmem : last ∈ p.visits := hmem last (List.mem_append_right _ List.mem_cons_self)
    have hexecuted : p.executed = before ++ [last].filter Visit.isExecuted := by
      rw [executed, hvisits, List.filter_append, hbefore]
    cases hobstacle : last.obstacle? with
    | none =>
      refine .inr (.inl ⟨?_, last, ?_, hlast⟩)
      · rw [hexecuted, List.filter_cons_of_pos (by simp [Visit.isExecuted, hobstacle]), hvisits]
        rfl
      · rw [hvisits, List.getLast?_concat]
    | some e =>
      refine .inr (.inr ⟨last, e, ?_, hobstacle, ?_⟩)
      · rw [hexecuted, List.filter_cons_of_neg (by simp [Visit.isExecuted, hobstacle]), hvisits]
        simp
      · rw [← hlast]
        exact ((hp.visits last hlastmem).stopped e hobstacle).1

/-- What was executed is a first part of the script. -/
theorem Genuine.executed_isPrefix (hp : p.Genuine run) (h : p.Ends r) :
    p.executed.map Visit.statement <+: p.script.statements := by
  have hvisits : p.executed <+: p.visits := by
    rcases hp.executed_cases h with ⟨heq, _⟩ | ⟨heq, _⟩ | ⟨v, e, hvisits, _⟩
    · exact heq ▸ List.prefix_rfl
    · exact heq ▸ List.prefix_rfl
    · rw [hvisits]
      exact List.prefix_append _ _
  exact (hvisits.map _).trans hp.reached

/-- A script is started at its first statement. -/
theorem Genuine.head? (hp : p.Genuine run) (h : p.Ends r) :
    p.visits.head?.map Visit.statement = p.script.statements.head? := by
  rw [← List.head?_map]
  have hreached := hp.reached
  cases h with
  | through hall hgo => rw [hall]
  | pending e hall hgo => rw [hall]
  | cut before last r hvisits hgo hlast hr =>
    obtain ⟨rest, hrest⟩ := hreached
    rw [← hrest, List.head?_append, hvisits]
    simp

/-- A statement that exits or fails is the last one of its script. -/
theorem Ends.getLast? (h : p.Ends r) {v : Visit} (hv : v ∈ p.visits) (hne : v.result ≠ .ok none) :
    p.visits.getLast? = some v ∧ v.result = r := by
  cases h with
  | through hall hgo => exact absurd (hgo v hv) hne
  | pending e hall hgo => exact absurd (hgo v hv) hne
  | cut before last r hvisits hgo hlast hr =>
    rw [hvisits, List.mem_append, List.mem_singleton] at hv
    rcases hv with hv | rfl
    · exact absurd (hgo v hv) hne
    · refine ⟨?_, hlast⟩
      rw [hvisits, List.getLast?_concat]

end Passage

/-! ## What the logbook of a run shows -/

namespace Logbook

section

variable (run : Statement → Action (Option Signal)) (scripts : List Script)

/-- The logbook is an account of the first scripts and of the exchanges there. -/
structure Accounts (i : Nat) (exchanges : List Exchange) (b : Logbook) : Prop where
  entered : b.passages.map Passage.script = scripts.take i
  genuine : ∀ p ∈ b.passages, p.Genuine run
  exchanges : exchanges = b.visits.flatMap Visit.exchanges
  step : b.progress.step = b.passages.getLast?.map fun p => p.script.number
  statement : b.progress.statement = b.visits.getLast?.map Visit.number

/-- The logbook between two scripts. -/
structure Between (i : Nat) (exchanges : List Exchange) (b : Logbook) : Prop where
  accounts : b.Accounts run scripts i exchanges
  passed : ∀ p ∈ b.passages, p.IsPassed

/-- The logbook between two statements of a script. -/
structure Within (i k : Nat) (exchanges : List Exchange) (b : Logbook) : Prop where
  accounts : b.Accounts run scripts (i + 1) exchanges
  current : ∃ done p, b.passages = done ++ [p] ∧ (∀ q ∈ done, q.IsPassed) ∧
    p.visits.map Visit.statement = p.script.statements.take k ∧ ∀ v ∈ p.visits, v.result = .ok none

/-- The logbook of a run that stopped in a script. -/
structure Stopped (r : Except Error (Option Signal)) (exchanges : List Exchange) (b : Logbook) :
    Prop where
  accounts : ∃ i, b.Accounts run scripts i exchanges
  last : ∃ done p, b.passages = done ++ [p] ∧ (∀ q ∈ done, q.IsPassed) ∧ p.Ends r

end

variable {b : Logbook} {exchanges : List Exchange} {i k : Nat}

theorem behind_passages {done : List Passage} {p : Passage} (hb : b.passages = done ++ [p])
    (v : Visit) (w : Workspace) :
    (b.behind v w).passages = done ++ [{ p with visits := p.visits ++ [v] }] := by
  show b.passages.modifyLast _ = _
  rw [hb, List.modifyLast_concat]

theorem behind_visits {done : List Passage} {p : Passage} (hb : b.passages = done ++ [p])
    (v : Visit) (w : Workspace) : (b.behind v w).visits = b.visits ++ [v] := by
  unfold visits
  rw [behind_passages hb, hb]
  simp

/-- The last script in the account is the last one entered. -/
theorem Accounts.script_eq (h : b.Accounts run scripts (i + 1) exchanges) {done : List Passage}
    {p : Passage} (hb : b.passages = done ++ [p]) {script : Script}
    (hscript : scripts[i]? = some script) : p.script = script := by
  have hentered := h.entered
  rw [hb, List.take_add_one, hscript, List.map_append] at hentered
  exact (List.cons.inj (List.append_inj_right' hentered rfl)).1

/-- What the workspace is does not matter to an account. -/
theorem Accounts.of_workspace (h : b.Accounts run scripts i exchanges) (w : Workspace) :
    ({ b with progress := { b.progress with workspace := w } } : Logbook).Accounts run scripts i
      exchanges :=
  ⟨h.entered, h.genuine, h.exchanges, h.step, h.statement⟩

/-- One more statement keeps the account. -/
theorem Accounts.behind (h : b.Accounts run scripts i exchanges) {done : List Passage}
    {p : Passage} (hb : b.passages = done ++ [p]) {v : Visit} (hv : v.Genuine run)
    (hnumber : v.number = p.visits.length + 1)
    (hreached : (p.visits ++ [v]).map Visit.statement <+: p.script.statements) (w : Workspace) :
    (b.behind v w).Accounts run scripts i (exchanges ++ v.exchanges) := by
  have hgenuine := h.genuine
  rw [hb, List.forall_mem_append, List.forall_mem_singleton] at hgenuine
  obtain ⟨hdone, hp⟩ := hgenuine
  refine ⟨?_, ?_, ?_, ?_, ?_⟩
  · rw [behind_passages hb, ← h.entered, hb]
    simp
  · rw [behind_passages hb, List.forall_mem_append, List.forall_mem_singleton]
    refine ⟨hdone, ?_, ?_, hreached⟩
    · exact List.forall_mem_append.2 ⟨hp.visits, List.forall_mem_singleton.2 hv⟩
    · rw [List.map_append, hp.numbered, List.map_singleton, hnumber, List.length_append,
        List.length_singleton, List.range'_1_concat, Nat.add_comm 1]
  · rw [behind_visits hb, List.flatMap_append, h.exchanges]
    simp
  · rw [behind_passages hb]
    show b.progress.step = _
    rw [h.step, hb]
    simp
  · rw [behind_visits hb]
    show some v.number = _
    simp

/-! ## The parts of the loop -/

theorem accounts_start (w : Workspace) : (start w).Accounts run scripts 0 [] where
  entered := rfl
  genuine := by
    intro p hp
    cases hp
  exchanges := rfl
  step := rfl
  statement := rfl

theorem ensures_enter {script : Script} (hscript : scripts[i]? = some script)
    (hb : b.Between run scripts i exchanges) :
    Ensures (Logged.enter script) b fun during r b' =>
      match r with
      | .ok () => b'.Within run scripts i 0 (exchanges ++ during)
      | .error e => b'.Stopped run scripts (.error e) (exchanges ++ during) := by
  obtain ⟨haccounts, hpassed⟩ := hb
  unfold Logged.enter
  rw [Ensures.modify_iff, List.append_nil]
  refine ⟨⟨?_, ?_, ?_, ?_, ?_⟩, b.passages, ⟨script, []⟩, rfl, hpassed, rfl, ?_⟩
  · show (b.passages ++ [(⟨script, []⟩ : Passage)]).map Passage.script = _
    rw [List.map_append, haccounts.entered, List.take_add_one, hscript]
    rfl
  · refine List.forall_mem_append.2 ⟨haccounts.genuine, List.forall_mem_singleton.2 ?_⟩
    exact ⟨fun v hv => absurd hv List.not_mem_nil, rfl, List.nil_prefix⟩
  · rw [haccounts.exchanges]
    simp [visits]
  · simp
  · show b.progress.statement = _
    rw [haccounts.statement]
    simp [visits]
  · intro v hv
    cases hv

/-- **One statement**: the script goes on behind it, or the statement is the last one of its
script. -/
theorem ensures_next_within {script : Script} {s : Statement} (hscript : scripts[i]? = some script)
    (hs : script.statements[k]? = some s) (hb : b.Within run scripts i k exchanges) :
    Ensures (Logged.next run (k + 1) s) b fun during r b' =>
      match r with
      | .ok none => b'.Within run scripts i (k + 1) (exchanges ++ during)
      | .ok (some .stepExit) => b'.Between run scripts (i + 1) (exchanges ++ during)
      | .ok (some .transformExit) =>
        b'.Stopped run scripts (.ok (some .transformExit)) (exchanges ++ during)
      | .error e => b'.Stopped run scripts (.error e) (exchanges ++ during) := by
  obtain ⟨haccounts, done, p, hpassages, hpassed, htaken, hgo⟩ := hb
  have hp := haccounts.script_eq hpassages hscript
  have hk : k < script.statements.length := (List.getElem?_eq_some_iff.1 hs).1
  have hlength : p.visits.length = k := by
    rw [← List.length_map Visit.statement, htaken, List.length_take, hp]
    omega
  refine Logged.ensures_next fun v w hv hnumber hstatement => ?_
  have hmore : (p.visits ++ [v]).map Visit.statement = p.script.statements.take (k + 1) := by
    rw [List.map_append, htaken, List.take_add_one, hp, hs, ← hstatement]
    rfl
  have hbehind := haccounts.behind hpassages hv (by rw [hnumber, hlength])
    (by rw [hmore]; exact List.take_prefix _ _) w
  have hpassages' := behind_passages hpassages v w
  -- unless the statement goes on, it is what its script ends with
  have hends : v.result ≠ .ok none → Passage.Ends { p with visits := p.visits ++ [v] } v.result :=
    fun hne => .cut p.visits v v.result rfl hgo rfl hne
  have hstopped : v.result ≠ .ok none →
      (b.behind v w).Stopped run scripts v.result (exchanges ++ v.exchanges) :=
    fun hne => ⟨⟨i + 1, hbehind⟩, done, _, hpassages', hpassed, hends hne⟩
  match hresult : v.result with
  | .ok none =>
    refine ⟨hbehind, done, _, hpassages', hpassed, hmore, ?_⟩
    exact List.forall_mem_append.2 ⟨hgo, List.forall_mem_singleton.2 hresult⟩
  | .ok (some .stepExit) =>
    rw [hresult] at hends
    refine ⟨hbehind, ?_⟩
    rw [hpassages']
    exact List.forall_mem_append.2 ⟨hpassed, List.forall_mem_singleton.2 (.inr (hends nofun))⟩
  | .ok (some .transformExit) =>
    rw [hresult] at hstopped
    exact hstopped nofun
  | .error e =>
    rw [hresult] at hstopped
    exact hstopped nofun

theorem ensures_leave {script : Script} (hscript : scripts[i]? = some script)
    (hb : b.Within run scripts i script.statements.length exchanges) :
    Ensures Logged.leave b fun during r b' =>
      match r with
      | .ok () => b'.Between run scripts (i + 1) (exchanges ++ during)
      | .error e => b'.Stopped run scripts (.error e) (exchanges ++ during) := by
  obtain ⟨haccounts, done, p, hpassages, hpassed, htaken, hgo⟩ := hb
  have hp := haccounts.script_eq hpassages hscript
  rw [hp, List.take_length, ← hp] at htaken
  refine Logged.ensures_leave (fun e => ?_) ?_
  · rw [List.append_nil]
    exact ⟨⟨i + 1, haccounts.of_workspace _⟩, done, p, hpassages, hpassed, .pending e htaken hgo⟩
  · rw [List.append_nil]
    refine ⟨haccounts.of_workspace _, ?_⟩
    show ∀ q ∈ b.passages, q.IsPassed
    rw [hpassages]
    exact List.forall_mem_append.2
      ⟨hpassed, List.forall_mem_singleton.2 (.inl (.through htaken hgo))⟩

/-- **The logbook of a run**: it passed all scripts, or it stopped in one of them. -/
theorem ensures_scripts (run : Statement → Action (Option Signal)) (scripts : List Script)
    (w : Workspace) :
    Ensures (Logged.scripts run scripts) (start w) fun exchanges r b =>
      match r with
      | .ok () => b.Between run scripts scripts.length exchanges ∨
        b.Stopped run scripts (.ok (some .transformExit)) exchanges
      | .error e => b.Stopped run scripts (.error e) exchanges := by
  have hstart : (start w).Between run scripts 0 [] :=
    ⟨accounts_start w, fun p hp => absurd hp List.not_mem_nil⟩
  exact ensures_performAll (Between run scripts) (Within run scripts)
    (Stopped run scripts (.ok (some .transformExit)))
    (fun i script before b hscript hb => ensures_enter hscript hb)
    (fun i script k s before b hscript hs hb => ensures_next_within hscript hs hb)
    (fun i script before b hscript hb => ensures_leave hscript hb)
    (Nat.zero_le _) List.drop_zero.symm hstart

end Logbook

/-! ## The law -/

/-- How statements follow each other in a run of scripts with a result: `passages` are the scripts
that were entered, each with the statements that were reached there. -/
structure ControlFlow (run : Statement → Action (Option Signal)) (scripts : List Script)
    (result : Except Error Unit) (passages : List Passage) : Prop where
  /-- What is said of a statement is what became of it. -/
  genuine : ∀ p ∈ passages, ∀ v ∈ p.visits, v.Genuine run
  /-- Scripts are entered in their order, without a gap. -/
  entered : passages.map Passage.script <+: scripts
  /-- Statements are reached in their order, without a gap, and numbered from one. -/
  reached : ∀ p ∈ passages, p.visits.map Visit.statement <+: p.script.statements ∧
    p.visits.map Visit.number = List.range' 1 p.visits.length
  /-- Every script that is entered is started at its first statement. -/
  started : ∀ p ∈ passages, p.visits.head?.map Visit.statement = p.script.statements.head?
  /-- The statements that are executed are a first part of their script. -/
  executed : ∀ p ∈ passages, p.executed.map Visit.statement <+: p.script.statements
  /-- It is not the whole script only if the last one exits the step, and then the next script is
  entered if there is one; if the last one exits the transform; if it fails; or if the statement
  behind it meets a failure that it does not handle. -/
  cut : ∀ before p after, passages = before ++ p :: after →
    p.executed.map Visit.statement ≠ p.script.statements →
    (∃ v, p.executed.getLast? = some v ∧ v.result = .ok (some .stepExit) ∧
      (after = [] → passages.map Passage.script = scripts)) ∨
    (∃ v, p.executed.getLast? = some v ∧ v.result = .ok (some .transformExit) ∧
      after = [] ∧ result = .ok ()) ∨
    (∃ v e, p.executed.getLast? = some v ∧ v.result = .error e ∧ after = [] ∧ result = .error e) ∨
    (∃ v e, p.visits = p.executed ++ [v] ∧ v.obstacle? = some e ∧ after = [] ∧
      result = .error (.unhandled e))
  /-- Nothing is reached behind a statement that exits the transform or fails. -/
  halted : ∀ before p after, passages = before ++ p :: after → ∀ v ∈ p.visits,
    (v.result = .ok (some .transformExit) ∨ ∃ e, v.result = .error e) →
    p.visits.getLast? = some v ∧ after = []
  /-- A run that comes to its end has entered all scripts, or its last statement exited it. -/
  completed : result = .ok () → passages.map Passage.script = scripts ∨
    ∃ before p v, passages = before ++ [p] ∧ p.visits.getLast? = some v ∧
      v.result = .ok (some .transformExit)
  /-- A run that fails does so in the last script it entered, at the last statement that was reached
  or behind all of them, by a failure that nobody handled. -/
  failed : ∀ e, result = .error e → ∃ before p, passages = before ++ [p] ∧
    ((∃ v, p.visits.getLast? = some v ∧ v.result = .error e) ∨
      (p.executed.map Visit.statement = p.script.statements ∧ ∃ pending, e = .unhandled pending))

/-- What a script was to its run: one that was passed, the last one of all if no other was entered
behind it, or the one where the run exited or failed. -/
inductive Passage.Fate (scripts : List Script) (result : Except Error Unit)
    (passages : List Passage) (p : Passage) (after : List Passage) : Prop
  | passed (h : p.IsPassed)
      (hlast : after = [] → passages.map Passage.script = scripts ∧ result = .ok ())
  | exited (h : p.Ends (.ok (some .transformExit))) (hlast : after = []) (hresult : result = .ok ())
  | failed (e : Error) (h : p.Ends (.error e)) (hlast : after = []) (hresult : result = .error e)

namespace Passage

variable {result : Except Error Unit} {passages after : List Passage} {p : Passage}

theorem Fate.exists_ends (h : p.Fate scripts result passages after) : ∃ r, p.Ends r := by
  cases h with
  | passed h _ => exact h.elim (fun h => ⟨_, h⟩) fun h => ⟨_, h⟩
  | exited h _ _ => exact ⟨_, h⟩
  | failed e h _ _ => exact ⟨_, h⟩

/-- A script that was not executed as a whole was cut short by its fate. -/
theorem Fate.cut (h : p.Fate scripts result passages after) (hp : p.Genuine run)
    (hproper : p.executed.map Visit.statement ≠ p.script.statements) :
    (∃ v, p.executed.getLast? = some v ∧ v.result = .ok (some .stepExit) ∧
      (after = [] → passages.map Passage.script = scripts)) ∨
    (∃ v, p.executed.getLast? = some v ∧ v.result = .ok (some .transformExit) ∧
      after = [] ∧ result = .ok ()) ∨
    (∃ v e, p.executed.getLast? = some v ∧ v.result = .error e ∧ after = [] ∧ result = .error e) ∨
    (∃ v e, p.visits = p.executed ++ [v] ∧ v.obstacle? = some e ∧ after = [] ∧
      result = .error (.unhandled e)) := by
  -- a script with a signal ends with a statement that was executed and gave the signal
  have hlast : ∀ {signal : Option Signal}, p.Ends (.ok signal) →
      ∃ v, p.executed.getLast? = some v ∧ v.result = .ok signal := by
    intro signal hends
    rcases hp.executed_cases hends with ⟨heq, hall⟩ | ⟨heq, hv⟩ | ⟨v, e, _, _, herror⟩
    · rw [heq] at hproper
      exact absurd hall hproper
    · rw [heq]
      exact hv
    · cases herror
  cases h with
  | passed h hend =>
    rcases h with hthrough | hexit
    · cases hthrough with
      | through hall hgo =>
        rw [hp.executed_eq hgo] at hproper
        exact absurd hall hproper
      | cut _ _ _ _ _ _ hne => exact absurd rfl hne
    · obtain ⟨v, hv, hresult⟩ := hlast hexit
      exact .inl ⟨v, hv, hresult, fun hafter => (hend hafter).1⟩
  | exited h hafter hresult =>
    obtain ⟨v, hv, hexit⟩ := hlast h
    exact .inr (.inl ⟨v, hv, hexit, hafter, hresult⟩)
  | failed e h hafter hresult =>
    rcases hp.executed_cases h with ⟨heq, hall⟩ | ⟨heq, v, hv, herror⟩ |
      ⟨v, e', hvisits, hobstacle, herror⟩
    · rw [heq] at hproper
      exact absurd hall hproper
    · rw [← heq] at hv
      exact .inr (.inr (.inl ⟨v, e, hv, herror, hafter, hresult⟩))
    · cases herror
      exact .inr (.inr (.inr ⟨v, e', hvisits, hobstacle, hafter, hresult⟩))

/-- Behind a statement that exits the transform or fails there is no other one. -/
theorem Fate.halted (h : p.Fate scripts result passages after) {v : Visit} (hv : v ∈ p.visits)
    (hstop : v.result = .ok (some .transformExit) ∨ ∃ e, v.result = .error e) :
    p.visits.getLast? = some v ∧ after = [] := by
  have hne : v.result ≠ .ok none := by
    intro hresult
    rw [hresult] at hstop
    rcases hstop with hstop | ⟨e, hstop⟩ <;> cases hstop
  cases h with
  | passed h _ =>
    -- the last statement of a script that is passed neither exits the transform nor fails
    have hresult : v.result = .ok none ∨ v.result = .ok (some .stepExit) :=
      h.imp (fun h => (h.getLast? hv hne).2) fun h => (h.getLast? hv hne).2
    rcases hresult with hresult | hresult
    · exact absurd hresult hne
    · rw [hresult] at hstop
      rcases hstop with hstop | ⟨e, hstop⟩ <;> cases hstop
  | exited h hafter _ => exact ⟨(h.getLast? hv hne).1, hafter⟩
  | failed e h hafter _ => exact ⟨(h.getLast? hv hne).1, hafter⟩

theorem Ends.exists_last {signal : Signal} (h : p.Ends (.ok (some signal))) :
    ∃ v, p.visits.getLast? = some v ∧ v.result = .ok (some signal) := by
  cases h with
  | cut before last r hvisits hgo hlast hr =>
    refine ⟨last, ?_, hlast⟩
    rw [hvisits, List.getLast?_concat]

theorem Genuine.failed (hp : p.Genuine run) {e : Error} (h : p.Ends (.error e)) :
    (∃ v, p.visits.getLast? = some v ∧ v.result = .error e) ∨
      (p.executed.map Visit.statement = p.script.statements ∧
        ∃ pending, e = .unhandled pending) := by
  cases h with
  | pending e hall hgo =>
    refine .inr ⟨?_, e, rfl⟩
    rw [hp.executed_eq hgo, hall]
  | cut before last r hvisits hgo hlast hr =>
    refine .inl ⟨last, ?_, hlast⟩
    rw [hvisits, List.getLast?_concat]

end Passage

namespace Logbook

variable {b : Logbook} {exchanges : List Exchange} {result : Except Error Unit}

/-- The law follows from what each script was to the run. -/
theorem Accounts.controlFlow {i : Nat} (h : b.Accounts run scripts i exchanges)
    (hnil : b.passages = [] → scripts = [] ∧ result = .ok ())
    (hfate : ∀ before p after, b.passages = before ++ p :: after →
      p.Fate scripts result b.passages after) :
    ControlFlow run scripts result b.passages := by
  have hends : ∀ p ∈ b.passages, ∃ r, p.Ends r := by
    intro p hp
    obtain ⟨before, after, heq⟩ := List.append_of_mem hp
    exact (hfate before p after heq).exists_ends
  have hmem : ∀ {before p after}, b.passages = before ++ p :: after → p ∈ b.passages := by
    intro before p after heq
    rw [heq]
    exact List.mem_append_right _ List.mem_cons_self
  exact {
    genuine := fun p hp => (h.genuine p hp).visits
    entered := by
      rw [h.entered]
      exact List.take_prefix _ _
    reached := fun p hp => ⟨(h.genuine p hp).reached, (h.genuine p hp).numbered⟩
    started := by
      intro p hp
      obtain ⟨r, hr⟩ := hends p hp
      exact (h.genuine p hp).head? hr
    executed := by
      intro p hp
      obtain ⟨r, hr⟩ := hends p hp
      exact (h.genuine p hp).executed_isPrefix hr
    cut := fun before p after heq => (hfate before p after heq).cut (h.genuine p (hmem heq))
    halted := fun before p after heq v hv => (hfate before p after heq).halted hv
    completed := by
      intro hok
      rcases List.eq_nil_or_concat b.passages with heq | ⟨before, p, heq⟩
      · rw [heq, (hnil heq).1]
        exact .inl rfl
      · rw [List.concat_eq_append] at heq
        cases hfate before p [] heq with
        | passed _ hlast => exact .inl (hlast rfl).1
        | exited hexit _ _ =>
          obtain ⟨v, hv, hresult⟩ := hexit.exists_last
          exact .inr ⟨before, p, v, heq, hv, hresult⟩
        | failed e _ _ hresult =>
          rw [hok] at hresult
          cases hresult
    failed := by
      intro e herror
      rcases List.eq_nil_or_concat b.passages with heq | ⟨before, p, heq⟩
      · have hresult := (hnil heq).2
        rw [herror] at hresult
        cases hresult
      · rw [List.concat_eq_append] at heq
        refine ⟨before, p, heq, ?_⟩
        cases hfate before p [] heq with
        | passed _ hlast =>
          have hresult := (hlast rfl).2
          rw [herror] at hresult
          cases hresult
        | exited _ _ hresult =>
          rw [herror] at hresult
          cases hresult
        | failed e' hends _ hresult =>
          rw [herror] at hresult
          cases hresult
          exact (h.genuine p (hmem heq)).failed hends }

theorem Between.controlFlow (h : b.Between run scripts scripts.length exchanges) :
    ControlFlow run scripts (.ok ()) b.passages := by
  have hentered : b.passages.map Passage.script = scripts := by
    rw [h.accounts.entered, List.take_length]
  refine h.accounts.controlFlow ?_ ?_
  · intro hnil
    rw [hnil] at hentered
    exact ⟨hentered.symm, rfl⟩
  · intro before p after heq
    refine .passed (h.passed p ?_) fun _ => ⟨hentered, rfl⟩
    rw [heq]
    exact List.mem_append_right _ List.mem_cons_self

/-- A run that stopped in a script obeys the law if its result comes from that script. -/
theorem Stopped.controlFlow {r : Except Error (Option Signal)}
    (h : b.Stopped run scripts r exchanges)
    (hresult : r = .ok (some .transformExit) ∧ result = .ok () ∨
      ∃ e, r = .error e ∧ result = .error e) :
    ControlFlow run scripts result b.passages := by
  obtain ⟨⟨i, haccounts⟩, done, last, hpassages, hpassed, hends⟩ := h
  refine haccounts.controlFlow ?_ ?_
  · intro hnil
    rw [hnil] at hpassages
    exact absurd hpassages (by simp)
  · intro before p after heq
    rw [hpassages] at heq
    rcases List.eq_nil_or_concat after with rfl | ⟨after', q, rfl⟩
    · obtain rfl : last = p := (List.cons.inj (List.append_inj_right' heq rfl)).1
      rcases hresult with ⟨rfl, hok⟩ | ⟨e, rfl, herror⟩
      · exact .exited hends rfl hok
      · exact .failed e hends rfl herror
    · rw [List.concat_eq_append, ← List.cons_append, ← List.append_assoc] at heq
      have hdone : done = before ++ p :: after' := List.append_inj_left' heq rfl
      refine .passed (hpassed p ?_) fun hnil => absurd hnil (by simp)
      rw [hdone]
      exact List.mem_append_right _ List.mem_cons_self

end Logbook

/-- **The law of a run**: whichever way it goes, its statements follow each other as they should,
and the logbook is an account of its exchanges. -/
theorem ensures_controlFlow (run : Statement → Action (Option Signal)) (scripts : List Script)
    (w : Workspace) :
    Ensures (Logged.scripts run scripts) (Logbook.start w)
      fun exchanges result b => ControlFlow run scripts result b.passages ∧
        ∃ i, b.Accounts run scripts i exchanges := by
  refine (Logbook.ensures_scripts run scripts w).mono ?_
  intro exchanges result b hb
  cases result with
  | ok _ =>
    rcases hb with hb | hb
    · exact ⟨hb.controlFlow, _, hb.accounts⟩
    · exact ⟨hb.controlFlow (.inl ⟨rfl, rfl⟩), hb.accounts⟩
  | error e => exact ⟨hb.controlFlow (.inr ⟨e, rfl, rfl⟩), hb.accounts⟩

end StepScript
