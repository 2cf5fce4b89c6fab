/-
# Bookkeeping tables

The tables of a usual installation: the transforms, their steps, their locks and their log.
-/
import StepScript.Database.Dialogue
import StepScript.Dialect

namespace StepScript

/-- A row of the table of transforms. -/
structure TransformEntry where
  name : String := ""
  repositoryType : String := ""
  repository : String := ""
  branch : String := ""
  isActive : Bool := false
  notifyOnSuccess : Bool := false
  notifyOnFailure : Bool := false
  notifyOnPreconditionFailure : Bool := false
  deriving DecidableEq, Repr

/-- The kinds of bookkeeping tables. -/
inductive TableKind where
  | transforms
  | steps
  | locks
  | log
  deriving DecidableEq, Repr

namespace Bookkeeping

/-- The columns of a kind of table; flags have the type of truth values in the dialect. -/
def columns (d : Dialect) : TableKind → List (String × String)
  | .transforms =>
    [("transform_name", "varchar(255) not null"), ("repository_type", "varchar(255)"),
     ("sql_repository", "varchar(255)"), ("sql_repository_branch", "varchar(255)"),
     ("is_active", d.booleanType), ("notify_on_success", d.booleanType),
     ("notify_on_non_precondition_failure", d.booleanType),
     ("notify_on_precondition_failure", d.booleanType), ("updated_ts", "timestamp")]
  | .steps =>
    [("transform_name", "varchar(255) not null"), ("transform_step", "integer not null"),
     ("sql_file_path_in_repo", "varchar(1024)"), ("is_active", d.booleanType),
     ("is_precondition", d.booleanType), ("updated_ts", "timestamp")]
  | .locks =>
    [("transform_lock_id", "bigint"), ("transform_name", "varchar(255)"),
     ("transform_lock_time", "timestamp")]
  | .log =>
    [("transform_run_id", "bigint"), ("transform_lock_id", "bigint"),
     ("transform_name", "varchar(255)"), ("transform_step", "integer"),
     ("transform_statement", "integer"), ("all_steps_complete", d.booleanType),
     ("failed_in_precondition", d.booleanType), ("message", "varchar(65000)"),
     ("transform_start_time", "timestamp"), ("transform_end_time", "timestamp")]

/-- Makes a table unless it is there. -/
def createStatement (d : Dialect) (kind : TableKind) (table : String) : String :=
  "create table if not exists " ++ table ++ " (" ++
    String.intercalate ", " ((columns d kind).map fun c => c.1 ++ " " ++ c.2) ++ ");"

/-- Drops a table if it is there. -/
def dropStatement (table : String) : String :=
  "drop table if exists " ++ table ++ ";"

/-- Adds a transform to the table of transforms. -/
def insertStatement (d : Dialect) (table : String) (entry : TransformEntry) : String :=
  let texts := [entry.name, entry.repositoryType, entry.repository, entry.branch]
  let flags := [entry.isActive, entry.notifyOnSuccess, entry.notifyOnFailure,
    entry.notifyOnPreconditionFailure]
  let values := texts.map (fun text => "'" ++ Text.doubleQuotes text ++ "'") ++
    flags.map d.booleanLiteral ++ ["current_timestamp"]
  "insert into " ++ table ++ " (" ++
    String.intercalate ", " ((columns d .transforms).map (·.1)) ++ ") values (" ++
    String.intercalate ", " values ++ ");"

/-- Makes a table unless it is there. -/
def create (d : Dialect) (session : Session) (kind : TableKind) (table : String) :
    Attempt Unit := do
  let _ ← Attempt.execute session (createStatement d kind table)

/-- Drops a table and makes it anew. -/
def recreate (d : Dialect) (session : Session) (kind : TableKind) (table : String) :
    Attempt Unit := do
  let _ ← Attempt.execute session (dropStatement table)
  create d session kind table

/-- Adds a transform. -/
def addTransform (d : Dialect) (session : Session) (table : String) (entry : TransformEntry) :
    Attempt Unit := do
  let _ ← Attempt.execute session (insertStatement d table entry)

end Bookkeeping

end StepScript
