/-
# Running commands

What each command does: to the session variables, to the recordsets, to the error channel, and in
dialogue with the database.  A command that fails and captures errors leaves its error in the
channel.
-/
import StepScript.Command.Basic
import StepScript.Database.Dialogue
import StepScript.ErrorChannel
import StepScript.Host

namespace StepScript

/-- What commands change. -/
structure Workspace where
  evaluator : Evaluator
  channel : ErrorChannel
  recordsets : RecordsetStore
  deriving DecidableEq

/-- What commands use and do not change: the session of the transform, if there is one, the files,
and the body of the statement with its references filled in. -/
structure Surroundings where
  session : Option Session
  files : Files
  statement : String

/-- How a command makes a transform go on other than with the next statement. -/
inductive Signal where
  | stepExit
  | transformExit
  deriving DecidableEq, Repr

/-- The name under which an error handler refers to the record at which an iteration failed. -/
def failedRecordName : String := "err_record"

/-- The session variable that holds the number of rows the last statement affected. -/
def rowsVariable : String := "last_statement_rows_affected"

/-- The names whose fields commands fill in: the recordsets, and the record of a failure. -/
def reservedNames (recordsets : RecordsetStore) : List String :=
  recordsets.names ++ [failedRecordName]

/-- Something that may fail, changes the workspace and talks to the database.  What it changed stays
changed when it fails. -/
abbrev Action := ExceptT Error (StateT Workspace Dialogue)

namespace Action

/-- A dialogue that leaves the workspace alone. -/
def ofAttempt {α : Type} (attempt : Attempt α) : Action α :=
  ExceptT.mk (StateT.lift attempt.run)

/-- Something that may fail and does nothing else. -/
def ofExcept {α : Type} (result : Except Error α) : Action α :=
  ExceptT.mk (pure result)

/-- Binds a session variable. -/
def assign (name : String) (value : Value) : Action Unit := do
  let w ← get
  let evaluator ← ofExcept (w.evaluator.assign name value)
  set { w with evaluator }

/-- Notes how many rows a statement affected. -/
def noteRows (rows : Nat) : Action Unit :=
  assign rowsVariable (.integer (min rows maxInteger))

/-- Stores a recordset. -/
def store (name : String) (records : List Record) : Action Unit := do
  let w ← get
  let recordsets ← ofExcept (w.recordsets.store name records)
  set { w with recordsets }

/-- Whether a comparison holds in the evaluator at hand. -/
def compare (operator : String) (left right : Value) : Action Bool := do
  let w ← get
  ofExcept (w.evaluator.compare operator left right)

end Action

/-- The session of the transform, or the error that there is none. -/
def Surroundings.need (around : Surroundings) : Action Session :=
  match around.session with
  | some session => pure session
  | none => throw (.database "no database connection")

/-- An argument, counted from zero, or the error that it is missing. -/
def argument (arguments : List Value) (index : Nat) : Action Value :=
  match arguments[index]? with
  | some value => pure value
  | none => throw (.statement ("missing argument " ++ toString (index + 1)))

/-- The text of an argument. -/
def argumentText (arguments : List Value) (index : Nat) : Action String :=
  Value.display <$> argument arguments index

/-! ## Filling in records and failures -/

/-- A statement with the references to the fields of one record filled in, names in descending
order. -/
def fillRecord (name : String) (record : Record) (statement : String) : String :=
  record.entries.reverse.foldl
    (fun sql e => Text.replaceAll (":" ++ name ++ "." ++ e.1) e.2.display sql) statement

/-- A statement with the details of a failure filled in. -/
def fillFailure (statement : String) (record : Option Record) (e : Error) : String :=
  let sql := (record.map fun r => fillRecord failedRecordName r statement).getD statement
  Text.replaceAll ":err_type" e.qualifiedName
    (Text.replaceAll ":err_message" (Text.doubleQuotes e.message) sql)

/-- A value of a query as a recordset may hold it: truth values as numbers, timestamps as texts,
null as the empty text. -/
def fieldValue : Value → Value
  | .boolean b => .integer (if b then 1 else 0)
  | .timestamp t => .text t.display
  | .null => .text ""
  | other => other

/-! ## The commands -/

namespace Command

/-- Runs the body as a statement. -/
def runStatement (around : Surroundings) : Action (Option Signal) := do
  let session ← around.need
  let rows ← Action.ofAttempt (Attempt.execute session around.statement)
  Action.noteRows rows
  pure none

/-- Asks for the single value of the body as a query. -/
def querySingle (around : Surroundings) : Action Value := do
  let session ← around.need
  Action.ofAttempt (Attempt.queryValue session around.statement)

/-- Whether the comparison given by three arguments holds. -/
def condition (arguments : List Value) : Action Bool := do
  let operator ← argumentText arguments 1
  let left ← argument arguments 0
  let right ← argument arguments 2
  Action.compare operator left right

/-- Runs the body once for each record that satisfies the conditions, until one fails. -/
def iterateOver (session : Session) (statement name : String) (conditions : List Condition) :
    List Record → Action Unit
  | [] => pure ()
  | record :: rest => do
    let w ← get
    let wanted ← Action.ofExcept (Condition.acceptAll w.evaluator record conditions)
    if wanted then
      tryCatch
        (do
          let rows ← Action.ofAttempt (Attempt.execute session (fillRecord name record statement))
          Action.noteRows rows)
        (fun e => do
          modify fun w => { w with channel := w.channel.note record }
          throw e)
    iterateOver session statement name conditions rest

/-- Runs the body for the records of a recordset. -/
def runIterate (around : Surroundings) (arguments : List Value) : Action (Option Signal) := do
  let name ← argumentText arguments 0
  let conditions ← Action.ofExcept (Condition.readAll (arguments.drop 1))
  let w ← get
  let records ← Action.ofExcept (w.recordsets.records name)
  let session ← around.need
  iterateOver session around.statement name conditions records
  pure none

/-- The record for a path that was found, or the error that it could not be looked at. -/
def pathRecord : Except String String → Except Error Record
  | .ok path => .ok (Table.empty.insert "path_name" (.text path))
  | .error fault => .error (.io fault)

/-- One record for each path that a pattern finds. -/
def pathRecords (files : Files) (pattern : String) : Except Error (List Record) :=
  match files.find pattern with
  | .ok found => found.mapM pathRecord
  | .error fault => .error (.expression ("invalid glob '" ++ pattern ++ "': " ++ fault))

/-- Handles the failure in the channel, if there is one. -/
def runHandler (around : Surroundings) (arguments : List Value) : Action (Option Signal) := do
  let action ← Action.ofExcept (HandlerAction.read (← argumentText arguments 0))
  let w ← get
  match w.channel.pending with
  | none => pure none
  | some e =>
    match action with
    | .resume =>
      set { w with channel := ErrorChannel.empty }
      pure none
    | .exitStep =>
      set { w with channel := ErrorChannel.empty }
      pure (some .stepExit)
    | .execute =>
      let session ← around.need
      let sql := fillFailure around.statement w.channel.lastRecord e
      let rows ← Action.ofAttempt (Attempt.execute session sql)
      Action.noteRows rows
      modify fun w => { w with channel := ErrorChannel.empty }
      pure none
    | .fail => throw (.forced e.message)

/-- What a command does with its arguments, its failures not captured. -/
def perform (c : Command) (around : Surroundings) (arguments : List Value) :
    Action (Option Signal) := do
  match c with
  | .assign =>
    let name ← argumentText arguments 0
    let value ← argument arguments 1
    Action.assign name value
    pure none
  | .assignResult =>
    let name ← argumentText arguments 0
    let value ← querySingle around
    Action.assign name value
    pure none
  | .execute => runStatement around
  | .executeIf =>
    if ← condition arguments then runStatement around else pure none
  | .test =>
    let operator ← argumentText arguments 0
    let expected ← argument arguments 1
    let actual ← querySingle around
    if ← Action.compare operator actual expected then pure none else pure (some .stepExit)
  | .exitIf => if ← condition arguments then pure (some .transformExit) else pure none
  | .exitStepIf => if ← condition arguments then pure (some .stepExit) else pure none
  | .failIf =>
    if ← condition arguments then
      throw (.forced ("fail_if " ++ String.intercalate " " (arguments.map Value.display)))
    else pure none
  | .recordset =>
    let name ← argumentText arguments 0
    let session ← around.need
    let rows ← Action.ofAttempt (Attempt.queryRows session around.statement)
    Action.store name (rows.map (Table.map fieldValue))
    pure none
  | .removeRecordset =>
    let name ← argumentText arguments 0
    modify fun w => { w with recordsets := w.recordsets.erase name }
    pure none
  | .iterate => runIterate around arguments
  | .recordsetOfPaths =>
    let name ← argumentText arguments 0
    let pattern ← argumentText arguments 1
    let records ← Action.ofExcept (pathRecords around.files pattern)
    Action.store name records
    pure none
  | .onError => runHandler around arguments

/-- Runs a command.  A failure that is captured goes into the channel, and the transform goes on. -/
def run (c : Command) (around : Surroundings) (arguments : List Value) : Action (Option Signal) :=
  if c.capturesErrors then
    tryCatch (c.perform around arguments) fun e => do
      modify fun w => { w with channel := w.channel.deposit e }
      pure none
  else c.perform around arguments

end Command

end StepScript
