/-
# The transform lock

A row in a table says who holds the lock of a transform.  Taking and giving back the lock each have
a connection of their own, so that they never commit anything of the transform itself.
-/
import StepScript.Database.Dialogue
import StepScript.Dialect

namespace StepScript

/-- Where locks are kept. -/
structure LockTable where
  connector : Connector
  target : Target
  dialect : Dialect
  table : String
  deriving DecidableEq, Repr

namespace LockTable

/-- Counts the rows by which others hold the lock. -/
def countStatement (l : LockTable) (transform : String) (holder : Int) : String :=
  "select count(*) from " ++ l.table ++ " where transform_name='" ++ Text.doubleQuotes transform ++
    "' and transform_lock_id!=" ++ toString holder ++ ";"

/-- Adds the row by which the lock is held. -/
def insertStatement (l : LockTable) (transform : String) (holder : Int) : String :=
  "insert into " ++ l.table ++
    " (transform_lock_id, transform_name, transform_lock_time) values (" ++ toString holder ++
    ", '" ++ Text.doubleQuotes transform ++ "', current_timestamp);"

/-- Removes the rows by which the lock is held. -/
def deleteStatement (l : LockTable) (transform : String) (holder : Int) : String :=
  "delete from " ++ l.table ++ " where transform_name='" ++ Text.doubleQuotes transform ++
    "' and transform_lock_id=" ++ toString holder ++ ";"

/-- Lists who holds the lock. -/
def holdersStatement (l : LockTable) (transform : String) : String :=
  "select transform_lock_id from " ++ l.table ++ " where transform_name='" ++
    Text.doubleQuotes transform ++ "' order by transform_lock_id;"

/-- Starts a transaction and locks the table, as far as the dialect has that. -/
def start (l : LockTable) (session : Session) : Attempt Unit := do
  if l.dialect.transactions then
    let _ ← Attempt.execute session l.dialect.beginStatement
  if l.dialect.tableLocking then
    let _ ← Attempt.execute session (l.dialect.lockTable l.table)

/-- Ends a transaction with a statement, if the dialect has transactions. -/
def finish (l : LockTable) (session : Session) (statement : String) : Attempt Unit := do
  if l.dialect.transactions then
    let _ ← Attempt.execute session statement

/-- Takes the lock in an open session, unless somebody else has it. -/
def acquireIn (l : LockTable) (session : Session) (transform : String) (holder : Int) :
    Attempt Bool := do
  l.start session
  let others ← Attempt.queryValue session (l.countStatement transform holder)
  if others.asInteger? = some 0 then
    let _ ← Attempt.execute session (l.insertStatement transform holder)
    l.finish session l.dialect.commitStatement
    pure true
  else
    l.finish session l.dialect.rollbackStatement
    pure false

/-- Gives the lock back in an open session. -/
def releaseIn (l : LockTable) (session : Session) (transform : String) (holder : Int) :
    Attempt Nat := do
  l.start session
  let rows ← Attempt.execute session (l.deleteStatement transform holder)
  l.finish session l.dialect.commitStatement
  pure rows

/-- Does something in a session of its own and closes the session whatever came of it. -/
def inSession {α : Type} (l : LockTable) (work : Session → Attempt α) : Attempt α := do
  let session ← Attempt.connect l.connector l.target
  ExceptT.mk do
    let result ← (work session).run
    Attempt.close session
    pure result

/-- Takes the lock of a transform unless somebody else has it; who has it already gets it again. -/
def acquire (l : LockTable) (transform : String) (holder : Int) : Attempt Bool :=
  l.inSession fun session => l.acquireIn session transform holder

/-- Gives the lock of a transform back.  Failing at that is not an error. -/
def release (l : LockTable) (transform : String) (holder : Int) : Dialogue Unit := do
  let _ ← (l.inSession fun session => l.releaseIn session transform holder).run
  pure ()

/-- Who holds the lock of a transform. -/
def holders (l : LockTable) (transform : String) : Attempt (List Int) := do
  let rows ← l.inSession fun session => Attempt.queryRows session (l.holdersStatement transform)
  pure (rows.filterMap fun row => (row.get? "transform_lock_id").bind Value.asInteger?)

end LockTable

end StepScript
