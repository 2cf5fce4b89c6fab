/-
# The program

Reads the arguments and the environment, checks or runs a transform, and says how it ended.
-/
import StepScript.CommandLine.Arguments
import StepScript.CommandLine.EnvironmentFile
import StepScript.Transform

namespace StepScript.CommandLine

/-- How the program ends: its exit code and what it says about it. -/
structure Exit where
  code : Nat
  message : Option String
  deriving DecidableEq, Repr

/-- The end of a program that does nothing with a transform. -/
def Stop.exit : Stop → Exit
  | .usage => ⟨2, none⟩
  | .information => ⟨0, none⟩

/-- The name of the file that adds variables to the environment. -/
def environmentFile : String := ".env"

/-- The environment with the variables of the environment file. -/
def fullEnvironment (environment : Table String) (files : Files) : Table String :=
  match files.read environmentFile with
  | .ok contents => EnvironmentFile.load environment contents
  | .error _ => environment

/-- The message about a configuration that cannot be read; its lines are indented. -/
def configurationMessage (e : Error) : String :=
  "Error: Failed to load SNEAQL_ configuration\n\nCaused by:\n    " ++
    Text.replaceAll "\n" "\n    " e.message

/-- The message about a transform without a name. -/
def namelessMessage : String :=
  "Error: transform name is required (--transform-name or SNEAQL_TRANSFORM_NAME)"

/-- The end of a program whose transform has a report. -/
def exitOf (report : Report) : Exit :=
  ⟨report.exitCode, report.error.map fun e => "sneaql: " ++ e.message⟩

/-- The whole program, in dialogue with its databases. -/
def program (arguments : List String) (environment : Table String) (host : Host) :
    Dialogue Exit := do
  let environment := fullEnvironment environment host.files
  match read arguments with
  | .error stop => pure stop.exit
  | .ok invocation =>
    match Config.ofVariables environment.entries with
    | .error e => pure ⟨1, some (configurationMessage e)⟩
    | .ok base =>
      let config := override base invocation.overrides
      if config.transformName.isEmpty then pure ⟨1, some namelessMessage⟩
      else
        let transform : Transform :=
          ⟨config, Registry.withBuiltins, Environment.optionsOf environment, environment⟩
        let report ←
          match invocation.verb with
          | .validate => transform.validate host
          | .run => transform.run host
        pure (exitOf report)

end StepScript.CommandLine
