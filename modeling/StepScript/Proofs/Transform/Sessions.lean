/-
# No session is left open

Whatever the program is asked to do with databases, it closes every session that it opens, however
the databases answer.
-/
import StepScript.Database.Scripted
import StepScript.Proofs.Database.Sessions
import StepScript.Proofs.Lock.Statements
import StepScript.Transform

namespace StepScript

/-! ## Attempts -/

namespace Attempt

variable {α β : Type} {x : Attempt α} {f : α → Attempt β}

theorem leaves_bind {sessions : List Session} (hx : x.run.Leaves sessions sessions)
    (hf : ∀ a, (f a).run.Leaves sessions sessions) : (x >>= f).run.Leaves sessions sessions := by
  rw [ExceptT.run_bind]
  refine hx.bind fun r => ?_
  cases r with
  | ok a => exact hf a
  | error e => exact Dialogue.leaves_done _

theorem leaves_lift {sessions : List Session} (r : Except Error α) :
    (Attempt.lift r).run.Leaves sessions sessions :=
  Dialogue.leaves_done r

end Attempt

/-! ## The lock -/

namespace LockTable

variable (l : LockTable) (session : Session) (name : String) (holder : Int)

theorem asks_start : (l.start session).run.Asks (Call.IsStatementOn session) := by
  rw [start_eq_executeAll]
  exact Attempt.asks_executeAll session _

theorem asks_finish (statement : String) :
    (l.finish session statement).run.Asks (Call.IsStatementOn session) := by
  rw [finish_eq_executeAll]
  exact Attempt.asks_executeAll session _

theorem asks_acquireIn :
    (l.acquireIn session name holder).run.Asks (Call.IsStatementOn session) := by
  refine Attempt.asks_bind (l.asks_start session) fun _ => ?_
  refine Attempt.asks_bind (Attempt.asks_queryValue session _) fun others => ?_
  split
  · refine Attempt.asks_bind (Attempt.asks_execute session _) fun _ => ?_
    exact Attempt.asks_bind (l.asks_finish session _) fun _ => trivial
  · exact Attempt.asks_bind (l.asks_finish session _) fun _ => trivial

theorem asks_releaseIn :
    (l.releaseIn session name holder).run.Asks (Call.IsStatementOn session) := by
  refine Attempt.asks_bind (l.asks_start session) fun _ => ?_
  refine Attempt.asks_bind (Attempt.asks_execute session _) fun rows => ?_
  exact Attempt.asks_bind (l.asks_finish session _) fun _ => trivial

/-- What is done in a session of its own leaves the other sessions as they are. -/
theorem leaves_inSession {α : Type} {work : Session → Attempt α}
    (hwork : ∀ session, (work session).run.Asks (Call.IsStatementOn session))
    (sessions : List Session) : (l.inSession work).run.Leaves sessions sessions := by
  refine Dialogue.leaves_connect (fun e => Dialogue.leaves_done _) fun session => ?_
  refine ((hwork session).leaves List.mem_cons_self).bind fun r => ?_
  refine (Dialogue.leaves_close List.mem_cons_self).bind fun _ => ?_
  rw [List.erase_cons_head]
  exact Dialogue.leaves_done r

theorem leaves_acquire (sessions : List Session) :
    (l.acquire name holder).run.Leaves sessions sessions :=
  l.leaves_inSession (fun session => l.asks_acquireIn session name holder) sessions

theorem leaves_release (sessions : List Session) :
    (l.release name holder).Leaves sessions sessions :=
  (l.leaves_inSession (fun session => l.asks_releaseIn session name holder) sessions).bind
    fun _ => Dialogue.leaves_done ()

theorem leaves_holders (sessions : List Session) :
    (l.holders name).run.Leaves sessions sessions :=
  Attempt.leaves_bind
    (l.leaves_inSession (fun session => Attempt.asks_queryRows session _) sessions)
    fun _ => Dialogue.leaves_done _

end LockTable

/-! ## Transforms -/

theorem Step.leaves_list (source : StepSourceKind) (config : Config) (files : Files)
    (connector : Connector) (dialect : Dialect) (sessions : List Session) :
    (Step.list source config files connector dialect).run.Leaves sessions sessions := by
  unfold Step.list
  cases source with
  | file =>
    cases config.stepFilePath with
    | none => exact Dialogue.leaves_done _
    | some path => exact Attempt.leaves_lift _
  | table =>
    refine Dialogue.leaves_connect (fun e => Dialogue.leaves_done _) fun session => ?_
    have hrows : (ExceptT.mk do
        let rows ← (Attempt.queryRows session (Step.query config dialect)).run
        Attempt.close session
        pure rows : Attempt (List Record)).run.Leaves (session :: sessions) sessions := by
      refine ((Attempt.asks_queryRows session _).leaves List.mem_cons_self).bind fun r => ?_
      refine (Dialogue.leaves_close List.mem_cons_self).bind fun _ => ?_
      rw [List.erase_cons_head]
      exact Dialogue.leaves_done r
    refine hrows.bind fun r => ?_
    cases r with
    | error e => exact Dialogue.leaves_done _
    | ok rows => exact Attempt.leaves_lift _

namespace Transform

variable (t : Transform) (files : Files) (host : Host)

theorem leaves_prepare (ground : Except Error Ground) (sessions : List Session) :
    (t.prepare files ground).run.Leaves sessions sessions := by
  refine Attempt.leaves_bind (Attempt.leaves_lift ground) fun ground => ?_
  refine Attempt.leaves_bind (Attempt.leaves_lift _) fun source => ?_
  refine Attempt.leaves_bind (Step.leaves_list source t.config files _ _ sessions) fun steps => ?_
  refine Attempt.leaves_bind (Attempt.leaves_lift _) fun scripts => ?_
  refine Attempt.leaves_bind (Attempt.leaves_lift _) fun _ => ?_
  exact Dialogue.leaves_done _

theorem leaves_validate (sessions : List Session) : (t.validate host).Leaves sessions sessions :=
  (t.leaves_prepare _ _ sessions).bind fun _ => Dialogue.leaves_done _

theorem leaves_takeLock (ground : Ground) (sessions : List Session) :
    (t.takeLock ground).run.Leaves sessions sessions := by
  unfold takeLock
  split
  · refine Attempt.leaves_bind (LockTable.leaves_acquire _ _ _ sessions) fun taken => ?_
    cases taken <;> exact Dialogue.leaves_done _
  · exact Dialogue.leaves_done _

theorem leaves_giveLockBack (ground : Ground) (sessions : List Session) :
    (t.giveLockBack ground).Leaves sessions sessions := by
  unfold giveLockBack
  split
  · exact LockTable.leaves_release _ _ _ sessions
  · exact Dialogue.leaves_done ()

/-- All statements of the scripts are run in the session of the transform. -/
theorem asks_runIn (ground : Ground) (scripts : List Script) (session : Session) :
    (t.runIn files ground scripts session).Asks (Call.IsStatementOn session) := by
  have hswitch : AsksOnly (Call.IsStatementOn session)
      (switchAutocommitOff ground.dialect session) := by
    unfold switchAutocommitOff
    split
    · exact (Run.asksOnly_ofAction (Action.asksOnly_execute session _)).bind
        fun _ => AsksOnly.pure _
    · exact AsksOnly.pure _
  exact (hswitch.bind fun _ => asksOnly_scripts t.registry session files scripts) _

/-- The session of the transform is closed behind its last statement, and the lock has a session of
its own in between. -/
theorem leaves_runLocked (ground : Ground) (scripts : List Script) (sessions : List Session) :
    (t.runLocked files ground scripts).Leaves sessions sessions := by
  refine Dialogue.leaves_connect (fun e => ?_) fun session => ?_
  · exact (t.leaves_giveLockBack ground sessions).bind fun _ => Dialogue.leaves_done _
  · refine ((t.asks_runIn files ground scripts session).leaves List.mem_cons_self).bind fun r => ?_
    refine (t.leaves_giveLockBack ground _).bind fun _ => ?_
    refine (Dialogue.leaves_close List.mem_cons_self).bind fun _ => ?_
    rw [List.erase_cons_head]
    exact Dialogue.leaves_done _

theorem leaves_run (sessions : List Session) : (t.run host).Leaves sessions sessions := by
  refine (t.leaves_prepare _ _ sessions).bind fun prepared => ?_
  cases prepared with
  | error e => exact Dialogue.leaves_done _
  | ok prepared =>
    refine (t.leaves_takeLock prepared.1 sessions).bind fun taken => ?_
    cases taken with
    | error e => exact Dialogue.leaves_done _
    | ok _ => exact t.leaves_runLocked _ prepared.1 prepared.2 sessions

end Transform

/-! ## Against every database -/

/-- Against every database, all calls of a dialogue are made on open sessions and none is open at
its end; so the dialogue is tidy if the database tells its sessions apart. -/
def Dialogue.ClosesSessions {α : Type} (d : Dialogue α) : Prop :=
  ∀ (τ : Type) (db : Backend τ) (state : τ), openAfter [] (d.log db state) = some [] ∧
    ((opened (d.log db state)).Nodup → Tidy (d.log db state))

theorem Dialogue.Leaves.closesSessions {α : Type} {d : Dialogue α} (h : d.Leaves [] []) :
    d.ClosesSessions := by
  intro τ db state
  have hlog : openAfter [] (d.log db state) = some [] :=
    Dialogue.always_iff.1 h _ _ (d.leads_run db state)
  exact ⟨hlog, tidy_of_openAfter hlog⟩

/-- **Every session is closed**, whatever the program does: run or check a transform, take a lock,
give it back or ask who holds it. -/
theorem sessions_closed :
    (∀ (t : Transform) (host : Host),
      (t.run host).ClosesSessions ∧ (t.validate host).ClosesSessions) ∧
    ∀ (l : LockTable) (name : String), (l.holders name).run.ClosesSessions ∧
      ∀ holder : Int, (l.acquire name holder).run.ClosesSessions ∧
        (l.release name holder).ClosesSessions := by
  refine ⟨fun t host => ⟨?_, ?_⟩, fun l name => ⟨?_, fun holder => ⟨?_, ?_⟩⟩⟩
  · exact (t.leaves_run host []).closesSessions
  · exact (t.leaves_validate host []).closesSessions
  · exact (l.leaves_holders name []).closesSessions
  · exact (l.leaves_acquire name holder []).closesSessions
  · exact (l.leaves_release name holder []).closesSessions

/-- A transform under a lock, with its step in an archive that is downloaded and the list of its
steps in a table. -/
def nightly : Transform where
  config := { transformName := "nightly", lockId := 7, locked := true,
              repoUrl := some "https://store.example.com/t.zip", compression := some "zip",
              repoBaseDir := "/var/transforms", databaseUrl := "postgres://db",
              stepSource := "transform_steps_table" }
  registry := Registry.withBuiltins
  options := Environment.defaultOptions
  environment := Table.empty

/-- Files and directories by their paths, as far as they are asked for by the very same paths.
Every archive holds the one step of the transform. -/
def nightlySystem : HostSystem (List (String × String)) where
  files entries :=
    ⟨fun path => (entries.lookup path).elim (Files.none.read path) .ok, Files.none.find⟩
  has entries path := entries.any (·.1 == path)
  removeDirectory path := modify (List.filter fun e => !Text.startsWith path.toList e.1.toList)
  makeDirectory path := modify fun entries => (path, "") :: entries
  write path octets := modify fun entries => (path, Utf8.readLossy octets) :: entries
  openFile path := do
    if !(← get).any (·.1 == path) then
      throw "No such file or directory (os error 2)"
  extract _ base := modify fun entries =>
    (Path.join base "clean.sql", "/*-execute-*/ delete from t;") :: entries
  download _ := pure [0x50, 0x4B, 0x03, 0x04]
  git _ _ := throw "No such file or directory (os error 2)"

/-- The host of the transform, where nothing has been downloaded yet. -/
def nightlyHost : Host := ⟨_, nightlySystem, []⟩

/-- A database that refuses the statement of the step and every close. -/
def nightlyDatabase : Scripted.State where
  rules :=
    [⟨"select transform_step", none, 0, .null, [Table.ofList [("transform_step", .integer 1),
        ("sql_file_path_in_repo", .text "clean.sql")]], none⟩,
     ⟨"count(*)", none, 0, .integer 0, [], none⟩,
     ⟨"delete from t;", some "no such table", 0, .null, [], none⟩]
  connections := []
  closeError := some "gone"
  connected := 0
  log := []

/-- All four sessions are closed although the statement and every close fail. -/
theorem sessions_closed_nightly :
    opened ((nightly.run nightlyHost).log Scripted.backend nightlyDatabase) = [0, 1, 2, 3] ∧
      Tidy ((nightly.run nightlyHost).log Scripted.backend nightlyDatabase) := by
  have hopened : opened ((nightly.run nightlyHost).log Scripted.backend nightlyDatabase) =
      [0, 1, 2, 3] := by decide +kernel
  refine ⟨hopened, ?_⟩
  refine ((sessions_closed.1 nightly nightlyHost).1 _ Scripted.backend nightlyDatabase).2 ?_
  rw [hopened]
  decide

end StepScript
