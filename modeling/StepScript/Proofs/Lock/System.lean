/-
# Calls that share a lock table

Any number of calls that take and give back locks, run against one database, one statement at a time
in any order.  The database reads each statement as what it says about the rows of the lock table:
changes belong to a transaction, are visible to others once it is committed, and are undone by a
rollback, by a failed commit and at the end of the session; the lock of the table is waited for
while another transaction holds it, and goes with its transaction.  Every statement may fail, and
its failure may end the transaction.
-/
import StepScript.Proofs.Lock.History

namespace StepScript.Locking

/-! ## The database -/

/-- What a statement says about the lock table. -/
inductive LockStatement where
  | begin
  | lockTable
  | commit
  | rollback
  /-- Counts the rows of a name with another holder. -/
  | count (row : Row)
  | change (c : Change)
  deriving DecidableEq, Repr

/-- How statements are read. -/
abbrev Reading := String → Option LockStatement

/-- An open transaction. -/
structure Transaction where
  /-- Whether it holds the lock of the table. -/
  locked : Bool
  /-- Its changes, in order. -/
  changes : List Change
  deriving DecidableEq, Repr

/-- A database with a lock table. -/
structure Database where
  /-- What is committed. -/
  rows : List Row
  /-- How many sessions have been opened. -/
  sessions : Nat
  transactions : Session → Option Transaction

/-- Whether a statement succeeds, and with how many affected rows, or fails, and whether its
transaction is lost then. -/
inductive Outcome where
  | succeeds (affected : Nat)
  | fails (e : Error) (lost : Bool)
  deriving DecidableEq, Repr

namespace Database

/-- An empty lock table. -/
def empty : Database := ⟨[], 0, fun _ => none⟩

/-- The database with another transaction of a session. -/
def put (db : Database) (session : Session) (t : Option Transaction) : Database :=
  { db with transactions := fun s => if s = session then t else db.transactions s }

/-- Whether the transaction of a session holds the lock of the table. -/
def holdsLock (db : Database) (session : Session) : Bool :=
  (db.transactions session).any (·.locked)

/-- Whether the transaction of another session holds the lock of the table. -/
def isLockedFor (db : Database) (session : Session) : Bool :=
  (List.range db.sessions).any fun other => other != session && db.holdsLock other

/-- How many rows of a name with another holder a transaction sees. -/
def others (db : Database) (t : Transaction) (row : Row) : Nat :=
  (t.changes.foldl Change.apply db.rows).countP fun r => r.1 == row.1 && r.2 != row.2

/-- The database after a statement in a session succeeded.  None while the statement has to wait,
and for statements outside of a transaction, which the lock does not use. -/
def effect (db : Database) (session : Session) : LockStatement → Option Database
  | .begin => some (db.put session (some ⟨false, []⟩))
  | .lockTable =>
    if db.isLockedFor session then none
    else (db.transactions session).map fun t => db.put session (some { t with locked := true })
  | .commit =>
    (db.transactions session).map fun t =>
      { db.put session none with rows := t.changes.foldl Change.apply db.rows }
  | .rollback => some (db.put session none)
  | .count _ => none
  | .change c =>
    (db.transactions session).map fun t =>
      db.put session (some { t with changes := t.changes ++ [c] })

/-- The answer to a call with an outcome, and the database afterwards.  A failed commit and the end
of a session undo the changes of their transaction; other failures do so or change nothing. -/
def answer (read : Reading) (db : Database) : (call : Call) → Outcome →
    Option (Answer call × Database)
  | .connect _ _, .succeeds _ => some (.ok db.sessions, { db with sessions := db.sessions + 1 })
  | .execute session sql, .succeeds affected => do
    let db ← db.effect session (← read sql)
    some (.ok affected, db)
  | .queryValue session sql, .succeeds _ =>
    match read sql, db.transactions session with
    | some (.count row), some t => some (.ok (.integer (db.others t row)), db)
    | _, _ => none
  | .queryRows _ _, .succeeds _ => none
  | .close session, .succeeds _ => some (.ok (), db.put session none)
  | .execute session sql, .fails e lost =>
    some (.error e, if lost ∨ read sql = some .commit then db.put session none else db)
  | .queryValue session _, .fails e lost =>
    some (.error e, if lost then db.put session none else db)
  | .queryRows session _, .fails e lost =>
    some (.error e, if lost then db.put session none else db)
  | .close session, .fails e _ => some (.error e, db.put session none)
  | .connect _ _, .fails e _ => some (.error e, db)

/-- The changes that a call with an outcome makes visible, if it commits. -/
def committed? (read : Reading) (db : Database) : Call → Outcome → Option (List Change)
  | .execute session sql, .succeeds _ =>
    if read sql = some .commit then (db.transactions session).map (·.changes) else none
  | _, _ => none

end Database

/-! ## The system -/

/-- What a call asks the database, and what it returns. -/
def Request.dialogue : Request → Dialogue (Except Error Bool)
  | .acquire manager name holder => (manager.acquire name holder).run
  | .release manager name holder => (fun _ => .ok true) <$> manager.release name holder

/-- The table and the dialect of a call. -/
def Request.manager : Request → LockTable
  | .acquire manager _ _ => manager
  | .release manager _ _ => manager

/-- The calls that are running, by number, their database, and what has happened. -/
structure System where
  database : Database
  /-- How many calls have been started. -/
  calls : Nat
  running : Nat → Option (Dialogue (Except Error Bool))
  history : List Event

/-- One step of a system. -/
inductive Move where
  | start (request : Request)
  /-- The database answers what the call of a number asks. -/
  | answer (id : Nat) (outcome : Outcome)
  | finish (id : Nat)
  deriving DecidableEq, Repr

namespace System

/-- No call, and an empty lock table. -/
def initial : System := ⟨Database.empty, 0, fun _ => none, []⟩

/-- The system with another state of a call. -/
def setCall (s : System) (id : Nat) (d : Option (Dialogue (Except Error Bool))) : System :=
  { s with running := fun id' => if id' = id then d else s.running id' }

/-- The system after a move, if the move is possible. -/
def perform (read : Reading) (s : System) : Move → Option System
  | .start request =>
    some { s.setCall s.calls (some request.dialogue) with
      calls := s.calls + 1
      history := s.history ++ [.started s.calls request] }
  | .answer id outcome =>
    match s.running id with
    | some (.ask call next) =>
      (s.database.answer read call outcome).map fun r =>
        { s.setCall id (some (next r.1)) with
          database := r.2
          history := s.history ++
            ((s.database.committed? read call outcome).map (Event.committed id)).toList }
    | _ => none
  | .finish id =>
    match s.running id with
    | some (.done result) =>
      some { s.setCall id none with history := s.history ++ [.returned id result] }
    | _ => none

/-- The system after moves from the start, if they are possible. -/
def run (read : Reading) (moves : List Move) : Option System :=
  moves.foldlM (perform read) initial

end System

end StepScript.Locking

namespace StepScript

/-- The dialect of a lock table has transactions and table locks, and its statements are read as
what they say. -/
structure LockTable.Understood (read : Locking.Reading) (l : LockTable) : Prop where
  transactions : l.dialect.transactions = true
  tableLocking : l.dialect.tableLocking = true
  beginning : read l.dialect.beginStatement = some .begin
  locking : read (l.dialect.lockTable l.table) = some .lockTable
  committing : read l.dialect.commitStatement = some .commit
  undoing : read l.dialect.rollbackStatement = some .rollback
  counting : ∀ name holder, read (l.countStatement name holder) = some (.count (name, holder))
  inserting : ∀ name holder,
    read (l.insertStatement name holder) = some (.change (.insert (name, holder)))
  deleting : ∀ name holder,
    read (l.deleteStatement name holder) = some (.change (.delete (name, holder)))

end StepScript
