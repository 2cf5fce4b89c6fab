/-
# Steps

The steps of a transform, each a number and a file.  Their list is a JSON file, or it is kept in a
table of the database.
-/
import StepScript.Config
import StepScript.Database.Dialogue
import StepScript.Host
import StepScript.Json.Read
import StepScript.Registry

namespace StepScript

/-- One step: its number, and its file in the repository. -/
structure Step where
  number : Int
  file : String
  deriving DecidableEq, Repr

namespace Step

/-! ## From a file -/

/-- The number of a step: a JSON number without fraction and exponent that fits. -/
def numberOfJson? : Json → Option Int
  | .number text =>
    match text.value? with
    | some (.integer n) => if n ≤ maxInteger then some n else none
    | _ => none
  | _ => none

/-- The file of a step: a JSON string. -/
def fileOfJson? : Json → Option String
  | .string content => content
  | _ => none

/-- The only member of a name. -/
def member? (name : String) (members : List (String × Json)) : Option Json :=
  match members.filter (·.1 == name) with
  | [(_, value)] => some value
  | _ => none

/-- A step as an object with a member for the number and one for the file, or as an array of the
two. -/
def ofJson? : Json → Option Step
  | .array [number, file] => do some ⟨← numberOfJson? number, ← fileOfJson? file⟩
  | .object members => do
    let members ← members.mapM fun (name, value) => name.map (·, value)
    let number ← member? "step_number" members
    let file ← member? "step_file" members
    some ⟨← numberOfJson? number, ← fileOfJson? file⟩
  | _ => none

/-- The steps that a JSON text lists, in the order of the text. -/
def listed? (contents : String) : Option (List Step) :=
  match Json.read? contents.toList with
  | some (.array items) => items.mapM ofJson?
  | _ => none

/-- Steps in ascending order of their numbers; steps of one number keep their order. -/
def sort (steps : List Step) : List Step :=
  steps.mergeSort fun a b => decide (a.number ≤ b.number)

/-- The steps that a file lists. -/
def readFile (files : Files) (path : String) : Except Error (List Step) :=
  match files.read path with
  | .error fault =>
    .error (.io ("Failed to read step metadata file " ++ path ++ ": " ++ fault))
  | .ok contents =>
    match listed? contents with
    | some steps => .ok (sort steps)
    | none => .error (.json ("not a list of steps: " ++ path))

/-! ## From a table -/

/-- Asks for the active steps of a transform. -/
def query (config : Config) (dialect : Dialect) : String :=
  "select transform_step, sql_file_path_in_repo from " ++ config.stepsTable ++
    " where transform_name='" ++ Text.doubleQuotes config.transformName ++ "' and is_active=" ++
    dialect.booleanLiteral true ++ " order by transform_step asc;"

/-- The step that a row of the table describes. -/
def ofRow (row : Record) : Except Error Step :=
  match (row.get? "transform_step").bind Value.asInteger? with
  | none => .error (.configuration "transform_step is not a number")
  | some number =>
    match row.get? "sql_file_path_in_repo" with
    | some (.text file) => .ok ⟨number, file⟩
    | _ =>
      .error (.configuration ("step " ++ toString number ++ " has no sql_file_path_in_repo"))

/-- The steps that the table lists, in the order in which the database gives them. -/
def readTable (config : Config) (connector : Connector) (dialect : Dialect) :
    Attempt (List Step) := do
  let session ← Attempt.connect connector config.target
  let rows ← ExceptT.mk do
    let rows ← (Attempt.queryRows session (query config dialect)).run
    Attempt.close session
    pure rows
  Attempt.lift (rows.mapM ofRow)

/-! ## From either -/

/-- The steps of a transform from their source. -/
def list (source : StepSourceKind) (config : Config) (files : Files) (connector : Connector)
    (dialect : Dialect) : Attempt (List Step) :=
  match source with
  | .file =>
    match config.stepFilePath with
    | none =>
      throw (.configuration "step_metadata_file_path is required for local_file steps")
    | some path => Attempt.lift (readFile files path)
  | .table => readTable config connector dialect

end Step

end StepScript
