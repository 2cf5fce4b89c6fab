/-
# Configuration

How a transform is set up, read from variables with a common mark in front of their names.
-/
import StepScript.Database.Target
import StepScript.Error
import StepScript.Integer

namespace StepScript

/-- The set-up of a transform. -/
structure Config where
  transformName : String := ""
  /-- Who holds the lock while the transform runs. -/
  lockId : Int := 0
  /-- Whether the transform runs under its lock. -/
  locked : Bool := false
  lockTable : String := "transform_lock"
  repoType : Option String := none
  repoBaseDir : String := "."
  repoUrl : Option String := none
  gitBranch : Option String := none
  compression : Option String := none
  stepSource : String := "local_file"
  stepFilePath : Option String := none
  stepsTable : String := "transform_steps"
  /-- The name of the dialect; found in the URL if not given. -/
  database : Option String := none
  databaseUrl : String := "duckdb:memory"
  dbUser : Option String := none
  dbPass : Option String := none
  /-- Whether the transform runs as soon as it is set up. -/
  run : Bool := false
  deriving DecidableEq, Repr

namespace Config

/-- What the names of all variables start with. -/
def mark : List Char := "SNEAQL_".toList

/-- The name of a variable without the mark, however often it is repeated. -/
def unmarked? (name : List Char) : Option (List Char) :=
  let rec strip : Nat → List Char → List Char
    | 0, s => s
    | n + 1, s =>
      match Text.after? mark s with
      | some rest => strip n rest
      | none => s
  (Text.after? mark name).map fun rest => strip rest.length rest

/-- The error that the value of a variable cannot be read. -/
def unreadable (reason value name : String) : Error :=
  .configuration (reason ++ " while parsing value '" ++ value ++ "' provided by " ++ name)

/-- Reads the truth value of a variable. -/
def readBoolean (name value : String) : Except Error Bool :=
  if value == "true" then .ok true
  else if value == "false" then .ok false
  else .error (unreadable "provided string was not \x60true\x60 or \x60false\x60" value name)

/-- Reads the integer of a variable. -/
def readNumber (name value : String) : Except Error Int :=
  match readInteger value.toList with
  | .ok n => .ok n
  | .error fault => .error (unreadable fault.message value name)

/-- The configuration with one field set from a variable, or none if there is no such field. -/
def set? (c : Config) (field name value : String) : Option (Except Error Config) :=
  match field with
  | "transform_name" => some (.ok { c with transformName := value })
  | "transform_lock_id" => some ((readNumber name value).map fun n => { c with lockId := n })
  | "locked_transform" => some ((readBoolean name value).map fun b => { c with locked := b })
  | "transform_lock_table" => some (.ok { c with lockTable := value })
  | "repo_type" => some (.ok { c with repoType := some value })
  | "repo_base_dir" => some (.ok { c with repoBaseDir := value })
  | "repo_url" => some (.ok { c with repoUrl := some value })
  | "git_branch" => some (.ok { c with gitBranch := some value })
  | "compression" => some (.ok { c with compression := some value })
  | "step_metadata_manager_type" => some (.ok { c with stepSource := value })
  | "step_metadata_file_path" => some (.ok { c with stepFilePath := some value })
  | "transform_steps_table" => some (.ok { c with stepsTable := value })
  | "database" => some (.ok { c with database := some value })
  | "database_url" => some (.ok { c with databaseUrl := value })
  | "db_user" => some (.ok { c with dbUser := some value })
  | "db_pass" => some (.ok { c with dbPass := some value })
  | "run" => some ((readBoolean name value).map fun b => { c with run := b })
  | _ => none

/-- Sets the fields given by variables, one after the other; a field is set once only. -/
def setAll (c : Config) (seen : List String) : List (String × String) → Except Error Config
  | [] => .ok c
  | (variableName, value) :: rest =>
    match unmarked? variableName.toList with
    | none => c.setAll seen rest
    | some name =>
      let name := String.ofList name
      let field := Text.lower name
      match c.set? field name value with
      | none => c.setAll seen rest
      | some result =>
        if seen.contains field then
          .error (.configuration ("duplicate field \x60" ++ field ++ "\x60"))
        else
          match result with
          | .ok c => c.setAll (field :: seen) rest
          | .error e => .error e

/-- Reads a configuration from variables. -/
def ofVariables (assignments : List (String × String)) : Except Error Config :=
  ({} : Config).setAll [] assignments

/-- The type of repository that a URL lets expect. -/
def repoTypeOfUrl? (url : String) : Option String :=
  let lowered := Text.lower url
  if Text.contains lowered "git" then some "git"
  else if Text.contains lowered "http" then some "http"
  else none

/-- The type of repository: the given one, else the one the URL lets expect, else a local one. -/
def resolvedRepoType (c : Config) : String :=
  (c.repoType <|> c.repoUrl.bind repoTypeOfUrl?).getD "local"

/-- What connections are opened with. -/
def target (c : Config) : Target :=
  ⟨c.databaseUrl, c.dbUser, c.dbPass⟩

end Config

end StepScript
