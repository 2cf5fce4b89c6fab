/-
# The statements of the lock

Taking and giving back a lock runs statements in a session of its own, one after the other until one
fails.  What giving back asks is told exactly: a connection and, if it succeeds, the statements up
to the first that fails, and the end of the session.
-/
import StepScript.Lock
import StepScript.Proofs.Command.Asking

namespace StepScript

/-! ## Statements after each other -/

/-- Runs statements until one fails. -/
def Attempt.executeAll (session : Session) : List String → Attempt Unit
  | [] => pure ()
  | sql :: rest => do
    let _ ← Attempt.execute session sql
    executeAll session rest

/-- Statements were run in a session, all of them or up to the first that failed. -/
inductive Executed (session : Session) : List String → List Exchange → Prop
  | done : Executed session [] []
  | failed (sql : String) (rest : List String) (e : Error) :
      Executed session (sql :: rest) [⟨.execute session sql, .error e⟩]
  | next (sql : String) {rest : List String} (rows : Nat) {log : List Exchange}
      (h : Executed session rest log) :
      Executed session (sql :: rest) (⟨.execute session sql, .ok rows⟩ :: log)

theorem Attempt.executeAll_append (session : Session) (first second : List String) :
    executeAll session (first ++ second) =
      executeAll session first >>= fun _ => executeAll session second := by
  induction first with
  | nil => rw [List.nil_append, executeAll, pure_bind]
  | cons sql rest ih => rw [List.cons_append, executeAll, executeAll, ih, bind_assoc]

/-- Statements run after each other are run up to the first that fails. -/
theorem Attempt.leads_executeAll {session : Session} {statements : List String}
    {log : List Exchange} :
    (∃ r, (executeAll session statements).run.Leads log r) ↔ Executed session statements log := by
  induction statements generalizing log with
  | nil =>
    constructor
    · rintro ⟨r, hr⟩
      obtain ⟨rfl, _⟩ := Dialogue.leads_done.1 hr
      exact .done
    · rintro ⟨⟩
      exact ⟨.ok (), .done _⟩
  | cons sql rest ih =>
    constructor
    · rintro ⟨r, hr⟩
      obtain ⟨answer, behind, rfl, hbehind⟩ := Dialogue.leads_ask.1 hr
      cases answer with
      | error e =>
        obtain ⟨rfl, _⟩ := Dialogue.leads_done.1 hbehind
        exact .failed sql rest e
      | ok rows => exact .next sql rows (ih.1 ⟨r, hbehind⟩)
    · intro h
      cases h with
      | failed _ _ e => exact ⟨.error e, .ask (.done _)⟩
      | next _ rows h =>
        obtain ⟨r, hr⟩ := ih.2 h
        exact ⟨r, .ask hr⟩

theorem Attempt.asks_executeAll (session : Session) (statements : List String) :
    (executeAll session statements).run.Asks (Call.IsStatementOn session) := by
  induction statements with
  | nil => trivial
  | cons sql rest ih => exact asks_bind (asks_execute session sql) fun _ => ih

namespace LockTable

variable (l : LockTable) (session : Session) (name : String) (holder : Int)

/-- The statements that start a transaction and lock the table, as far as the dialect has that. -/
def startStatements : List String :=
  (if l.dialect.transactions then [l.dialect.beginStatement] else []) ++
    if l.dialect.tableLocking then [l.dialect.lockTable l.table] else []

/-- The statement that ends a transaction, if the dialect has transactions. -/
def finishStatements (statement : String) : List String :=
  if l.dialect.transactions then [statement] else []

theorem start_eq_executeAll :
    l.start session = Attempt.executeAll session l.startStatements := by
  unfold start startStatements
  cases l.dialect.transactions <;> cases l.dialect.tableLocking <;> rfl

theorem finish_eq_executeAll (statement : String) :
    l.finish session statement = Attempt.executeAll session (l.finishStatements statement) := by
  unfold finish finishStatements
  cases l.dialect.transactions <;> rfl

/-! ## Giving back -/

/-- The statements that give a lock back. -/
def releaseStatements : List String :=
  l.startStatements ++ l.deleteStatement name holder ::
    l.finishStatements l.dialect.commitStatement

/-- Apart from the number of rows, giving back in a session is running the statements. -/
theorem map_releaseIn : (fun _ => ()) <$> l.releaseIn session name holder =
    Attempt.executeAll session (l.releaseStatements name holder) := by
  unfold releaseIn releaseStatements
  rw [start_eq_executeAll, finish_eq_executeAll, Attempt.executeAll_append, Attempt.executeAll]
  simp only [map_eq_pure_bind, bind_assoc, pure_bind, bind_pure_unit]

/-- What is asked to give a lock back: a connection and, in its session, the statements up to the
first that fails. -/
inductive Released : List Exchange → Prop
  | unconnected (e : Error) : Released [⟨.connect l.connector l.target, .error e⟩]
  | connected (session : Session) {log : List Exchange}
      (h : Executed session (l.releaseStatements name holder) log)
      (answer : Answer (.close session)) :
      Released (⟨.connect l.connector l.target, .ok session⟩ :: (log ++ [⟨.close session, answer⟩]))

theorem leads_releaseIn {session : Session} {log : List Exchange} :
    (∃ r, (l.releaseIn session name holder).run.Leads log r) ↔
      Executed session (l.releaseStatements name holder) log := by
  rw [← Attempt.leads_executeAll, ← map_releaseIn]
  constructor
  · rintro ⟨r, hr⟩
    refine ⟨r.map fun _ => (), ?_⟩
    rw [ExceptT.run_map, Dialogue.leads_map]
    exact ⟨r, hr, rfl⟩
  · rintro ⟨r, hr⟩
    rw [ExceptT.run_map, Dialogue.leads_map] at hr
    obtain ⟨r', hr', _⟩ := hr
    exact ⟨r', hr'⟩

/-- What is done in a session of its own is done between a connection and a close. -/
theorem leads_inSession {α : Type} {work : Session → Attempt α} {log : List Exchange}
    {r : Except Error α} : (l.inSession work).run.Leads log r ↔
      (∃ e, log = [⟨.connect l.connector l.target, .error e⟩] ∧ r = .error e) ∨
      ∃ session during answer, (work session).run.Leads during r ∧
        log = ⟨.connect l.connector l.target, .ok session⟩ ::
          (during ++ [⟨.close session, answer⟩]) := by
  have hrun : (l.inSession work).run = .ask (.connect l.connector l.target) fun answer =>
      match answer with
      | .error e => .done (.error e)
      | .ok session => (work session).run >>= fun r =>
        .ask (.close session) fun _ => .done r := by
    refine congrArg (Dialogue.ask _) (funext fun answer => ?_)
    cases answer <;> rfl
  rw [hrun, Dialogue.leads_ask]
  constructor
  · rintro ⟨answer, rest, rfl, hrest⟩
    cases answer with
    | error e =>
      obtain ⟨rfl, rfl⟩ := Dialogue.leads_done.1 hrest
      exact .inl ⟨e, rfl, rfl⟩
    | ok session =>
      obtain ⟨during, behind, r', rfl, hduring, hbehind⟩ := Dialogue.leads_bind.1 hrest
      obtain ⟨answer, _, rfl, hdone⟩ := Dialogue.leads_ask.1 hbehind
      obtain ⟨rfl, rfl⟩ := Dialogue.leads_done.1 hdone
      exact .inr ⟨session, during, answer, hduring, rfl⟩
  · rintro (⟨e, rfl, rfl⟩ | ⟨session, during, answer, hduring, rfl⟩)
    · exact ⟨.error e, [], rfl, .done _⟩
    · exact ⟨.ok session, _, rfl, Dialogue.leads_bind.2 ⟨_, _, r, rfl, hduring, .ask (.done r)⟩⟩

/-- **What giving back asks**, exactly. -/
theorem leads_release {log : List Exchange} :
    (l.release name holder).Leads log () ↔ l.Released name holder log := by
  have hrelease : (l.release name holder).Leads log () ↔
      ∃ r, (l.inSession fun session => l.releaseIn session name holder).run.Leads log r := by
    refine Dialogue.leads_bind.trans ?_
    simp only [Dialogue.pure_eq, Dialogue.leads_done, and_true]
    constructor
    · rintro ⟨before, after, r, rfl, h, rfl⟩
      rw [List.append_nil]
      exact ⟨r, h⟩
    · rintro ⟨r, h⟩
      exact ⟨log, [], r, (List.append_nil _).symm, h, rfl⟩
  rw [hrelease]
  constructor
  · rintro ⟨r, h⟩
    rcases l.leads_inSession.1 h with ⟨e, rfl, _⟩ | ⟨session, during, answer, hduring, rfl⟩
    · exact .unconnected e
    · exact .connected session ((l.leads_releaseIn name holder).1 ⟨r, hduring⟩) answer
  · intro h
    cases h with
    | unconnected e => exact ⟨.error e, l.leads_inSession.2 (.inl ⟨e, rfl, rfl⟩)⟩
    | connected session h answer =>
      obtain ⟨r, hr⟩ := (l.leads_releaseIn name holder).2 h
      exact ⟨r, l.leads_inSession.2 (.inr ⟨session, _, answer, hr, rfl⟩)⟩

end LockTable

end StepScript
