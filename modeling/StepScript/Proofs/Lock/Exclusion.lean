/-
# Mutual exclusion

The rows of one name always have the same holder, however calls interleave and fail.  What a caller
is told is weaker: a call that gives back the lock works on the table some time between its start
and its return, and what it removes may be the row of a call that is taking the lock meanwhile.  So
who was told to have the lock has it, as long as the call did not overlap with one that gives it
back.
-/
import StepScript.Proofs.Lock.Invariant
import StepScript.Proofs.Lock.Sql

namespace StepScript.Locking

/-- **Mutual exclusion.**  However calls that share a lock table interleave and fail, all rows of
one name have the same holder; and if the lock of a name was taken over by another holder that
nobody had been asked to make room for, then one of the two calls overlapped with a call that gave
back the lock of its own holder. -/
theorem run_excludes (read : Reading) (moves : List Move) (system : System)
    (hmoves : ∀ request, .start request ∈ moves → request.manager.Understood read)
    (hrun : System.run read moves = some system) :
    OneHolder system.database.rows ∧ ∀ name holder holder' a b, holder ≠ holder' →
      TakenOver system.history name holder holder' a b →
        ∃ id, (GivesBack system.history id name holder ∧ Overlap system.history id a) ∨
          (GivesBack system.history id name holder' ∧ Overlap system.history id b) := by
  obtain ⟨points, hsound⟩ := System.sound_initial.performAll hmoves hrun
  constructor
  · rw [hsound.rows]
    exact hsound.valid.oneHolder
  · intro name holder holder' a b hne htaken
    exact hsound.valid.exists_overlap hne htaken

/-! ## Runs -/

/-- A lock table on a database with transactions and table locks. -/
def nightlyLock : LockTable :=
  { connector := .postgres
    target := ⟨"postgresql://localhost/etl", none, none⟩
    dialect := { Dialect.new "postgres" with hasBoolean := true, tableLocking := true }
    table := "transform_lock" }

theorem nightlyLock_understood : nightlyLock.Understood (readSql nightlyLock.table) :=
  understood_readSql (by decide +kernel) rfl rfl

/-- Answers to a call, all of them successful. -/
def answers (id n : Nat) : List Move :=
  List.replicate n (.answer id (.succeeds 1))

/-- A call that gives back the lock has begun its transaction when the lock is taken.  It goes on
when the lock has been taken, and then another holder takes it. -/
def pendingRelease : List Move :=
  [.start (.release nightlyLock "nightly" 1)] ++ answers 0 2 ++
    [.start (.acquire nightlyLock "nightly" 1)] ++ answers 1 7 ++ [.finish 1] ++ answers 0 4 ++
    [.finish 0, .start (.acquire nightlyLock "nightly" 2)] ++ answers 2 7 ++ [.finish 2]

/-- The lock is given back, and another holder takes it, while the call that took it has yet to
close its session. -/
def lateReturn : List Move :=
  [.start (.acquire nightlyLock "nightly" 2)] ++ answers 0 6 ++
    [.start (.release nightlyLock "nightly" 2)] ++ answers 1 6 ++
    [.finish 1, .start (.acquire nightlyLock "nightly" 1)] ++ answers 2 7 ++ [.finish 2] ++
    answers 0 1 ++ [.finish 0]

/-- All calls of these runs use the same lock table. -/
theorem understood_of_mem {request : Request}
    (h : .start request ∈ pendingRelease ∨ .start request ∈ lateReturn) :
    request.manager.Understood (readSql nightlyLock.table) := by
  have hmanager : request.manager = nightlyLock := by
    simp only [pendingRelease, lateReturn, answers, List.mem_append, List.mem_cons,
      List.mem_replicate, Move.start.injEq, reduceCtorEq, and_false, List.not_mem_nil, or_false,
      false_or] at h
    rcases h with ((rfl | rfl) | rfl) | ((rfl | rfl) | rfl) <;> rfl
  rw [hmanager]
  exact nightlyLock_understood

theorem pendingRelease_history :
    (System.run (readSql nightlyLock.table) pendingRelease).map System.history =
      some ([.started 0 (.release nightlyLock "nightly" 1),
        .started 1 (.acquire nightlyLock "nightly" 1), .committed 1 [.insert ("nightly", 1)]] ++
        .returned 1 (.ok true) ::
        [.committed 0 [.delete ("nightly", 1)], .returned 0 (.ok true),
        .started 2 (.acquire nightlyLock "nightly" 2), .committed 2 [.insert ("nightly", 2)]] ++
        .returned 2 (.ok true) :: []) := by
  decide +kernel

/-- **A call that is told to have the lock can lose it** to a call that was started before: without
the calls that overlap, mutual exclusion fails. -/
theorem not_run_excludes_of_overlap :
    ¬∀ (read : Reading) (moves : List Move) (system : System),
      (∀ request, .start request ∈ moves → request.manager.Understood read) →
      System.run read moves = some system →
      OneHolder system.database.rows ∧ ∀ name holder holder' a b, holder ≠ holder' →
        ¬TakenOver system.history name holder holder' a b := by
  intro h
  obtain ⟨system, hrun, hhistory⟩ := Option.map_eq_some_iff.1 pendingRelease_history
  refine (h _ _ system ?_ hrun).2 "nightly" 1 2 1 2 (by decide) ?_
  · intro request hrequest
    exact understood_of_mem (.inl hrequest)
  · rw [hhistory]
    refine ⟨⟨nightlyLock, by simp⟩, ⟨nightlyLock, by simp⟩, _, _, _, rfl, ?_⟩
    -- between the two returns, the only call that is started takes the lock
    rintro id ⟨manager, hstarted⟩
    simp at hstarted

theorem lateReturn_history :
    (System.run (readSql nightlyLock.table) lateReturn).map System.history =
      some ([.started 0 (.acquire nightlyLock "nightly" 2), .committed 0 [.insert ("nightly", 2)],
        .started 1 (.release nightlyLock "nightly" 2), .committed 1 [.delete ("nightly", 2)],
        .returned 1 (.ok true), .started 2 (.acquire nightlyLock "nightly" 1),
        .committed 2 [.insert ("nightly", 1)]] ++
        .returned 2 (.ok true) :: [] ++ .returned 0 (.ok true) :: []) := by
  decide +kernel

/-- The second holder may be the one whose call overlapped. -/
theorem run_excludes_lateReturn : ∃ system : System,
    System.run (readSql nightlyLock.table) lateReturn = some system ∧
      OneHolder system.database.rows ∧ TakenOver system.history "nightly" 1 2 2 0 ∧
      ∃ id, (GivesBack system.history id "nightly" 1 ∧ Overlap system.history id 2) ∨
        (GivesBack system.history id "nightly" 2 ∧ Overlap system.history id 0) := by
  obtain ⟨system, hrun, hhistory⟩ := Option.map_eq_some_iff.1 lateReturn_history
  have htaken : TakenOver system.history "nightly" 1 2 2 0 := by
    rw [hhistory]
    refine ⟨⟨nightlyLock, by simp⟩, ⟨nightlyLock, by simp⟩, _, _, _, rfl, ?_⟩
    rintro id ⟨manager, hstarted⟩
    cases hstarted
  obtain ⟨hone, hoverlap⟩ := run_excludes _ _ system (fun _ h => understood_of_mem (.inr h)) hrun
  exact ⟨system, hrun, hone, htaken, hoverlap "nightly" 1 2 2 0 (by decide) htaken⟩

end StepScript.Locking
