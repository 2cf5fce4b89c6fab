/-
# Transforms

A transform is set up, checked as a whole and then run.  Nothing is locked, and no statement of a
step is run, before every step has been read and accepted.
-/
import StepScript.Interpreter
import StepScript.Lock
import StepScript.Repository
import StepScript.Step

namespace StepScript

/-- What has become of a transform. -/
inductive Status where
  | initializing
  | validated
  | completed
  | error
  deriving DecidableEq, Repr

/-- The name of a status. -/
def Status.name : Status → String
  | .initializing => "initializing"
  | .validated => "validated"
  | .completed => "completed"
  | .error => "error"

/-- What is known about a transform after it was set up, checked or run. -/
structure Report where
  status : Status
  exitCode : Nat
  step : Option Int
  statement : Option Nat
  ended : Bool
  error : Option Error
  deriving DecidableEq, Repr

namespace Report

/-- The report before anything was done. -/
def initial : Report := ⟨.initializing, 0, none, none, false, none⟩

/-- The report of an outcome, with the place in the scripts that was reached. -/
def finished (success : Status) (step : Option Int) (statement : Option Nat) :
    Except Error Unit → Report
  | .ok () => ⟨success, 0, step, statement, true, none⟩
  | .error e => ⟨.error, 1, step, statement, true, some e⟩

end Report

/-- A transform. -/
structure Transform where
  config : Config
  registry : Registry Known
  options : CaptureOptions
  environment : Table String

/-- What a transform has before its steps are known: an evaluator, the database and the directory of
its files. -/
structure Ground where
  evaluator : Evaluator
  dialect : Dialect
  connector : Connector
  directory : String
  deriving DecidableEq

namespace Transform

/-! ## Preparing -/

/-- The dialect: the one of the given name, or the first one whose name occurs in the URL. -/
def dialect (t : Transform) : Except Error Dialect :=
  match t.config.database <|> t.registry.dialectNameIn? t.config.databaseUrl with
  | some name => t.registry.dialect name
  | none =>
    .error (.configuration
      ("cannot determine database type from '" ++ t.config.databaseUrl ++ "'"))

/-- The evaluator, the dialect, the connector and the kind of repository. -/
def resolve (t : Transform) : Except Error (Evaluator × Dialect × Connector × RepositoryKind) := do
  let evaluator ← Evaluator.new t.options t.environment
  let dialect ← t.dialect
  let connector ← t.registry.connector (← t.config.target.scheme)
  let repository ← t.registry.repository t.config.resolvedRepoType
  .ok (evaluator, dialect, connector, repository)

/-- Sets a transform up: the host afterwards, and what is known then. -/
def setUp (t : Transform) (host : Host) : Host × Except Error Ground :=
  match t.resolve with
  | .error e => (host, .error e)
  | .ok (evaluator, dialect, connector, repository) =>
    let (directory, state) := (Repository.provide host.system repository t.config).run host.state
    ({ host with state }, directory.map (⟨evaluator, dialect, connector, ·⟩))

/-- The script of a step, read from its file. -/
def script (files : Files) (directory : String) (step : Step) : Except Error Script :=
  let path := Path.join directory step.file
  match files.read path with
  | .error fault => .error (.io ("Failed to read step file " ++ path ++ ": " ++ fault))
  | .ok contents => (Statement.readAll contents).map (⟨step.number, ·⟩)

/-- Accepts scripts, or refuses the first one that has a statement that cannot be run. -/
def accept (registry : Registry Known) (scripts : List Script) : Except Error Unit :=
  match scripts.find? fun script => !registry.acceptsAll script.statements with
  | some script =>
    .error (.statement ("step " ++ toString script.number ++ " has invalid statements"))
  | none => .ok ()

/-- Everything a run needs, or why there is no run.  The files are those after the set-up. -/
def prepare (t : Transform) (files : Files) (ground : Except Error Ground) :
    Attempt (Ground × List Script) := do
  let ground ← Attempt.lift ground
  let source ← Attempt.lift (t.registry.stepSource t.config.stepSource)
  let steps ← Step.list source t.config files ground.connector ground.dialect
  let scripts ← Attempt.lift (steps.mapM (script files ground.directory))
  Attempt.lift (accept t.registry scripts)
  pure (ground, scripts)

/-! ## Checking and running -/

/-- Checks every step of a transform. -/
def validate (t : Transform) (host : Host) : Dialogue Report := do
  let (host, ground) := t.setUp host
  let prepared ← (t.prepare host.files ground).run
  pure (Report.finished .validated none none (prepared.map fun _ => ()))

/-- The table with the lock of a transform. -/
def lockTable (t : Transform) (ground : Ground) : LockTable :=
  ⟨ground.connector, t.config.target, ground.dialect, t.config.lockTable⟩

/-- Takes the lock if the transform runs under it. -/
def takeLock (t : Transform) (ground : Ground) : Attempt Unit := do
  if t.config.locked then
    let taken ← (t.lockTable ground).acquire t.config.transformName t.config.lockId
    if !taken then
      throw (.locked t.config.transformName)

/-- Gives the lock back if the transform runs under it. -/
def giveLockBack (t : Transform) (ground : Ground) : Dialogue Unit :=
  if t.config.locked then (t.lockTable ground).release t.config.transformName t.config.lockId
  else pure ()

/-- Switches automatic commits off, if the dialect has a statement for that. -/
def switchAutocommitOff (dialect : Dialect) (session : Session) : Run Unit := do
  if let some statement := dialect.autocommitOff then
    let _ ← Run.ofAction (Action.ofAttempt (Attempt.execute session statement))

/-- Runs the scripts in an open session. -/
def runIn (t : Transform) (files : Files) (ground : Ground) (scripts : List Script)
    (session : Session) : Dialogue (Except Error Unit × Progress) :=
  let start : Progress := ⟨none, none, ⟨ground.evaluator, ErrorChannel.empty, Table.empty⟩⟩
  (do
    switchAutocommitOff ground.dialect session
    Run.scripts t.registry session files scripts : Run Unit).run.run start

/-- Runs the scripts in a session of the transform and gives the lock back before the session is
closed. -/
def runLocked (t : Transform) (files : Files) (ground : Ground) (scripts : List Script) :
    Dialogue Report := do
  match ← (Attempt.connect ground.connector t.config.target).run with
  | .error e =>
    t.giveLockBack ground
    pure (Report.finished .completed none none (.error e))
  | .ok session =>
    let (outcome, progress) ← t.runIn files ground scripts session
    t.giveLockBack ground
    Attempt.close session
    pure (Report.finished .completed progress.step progress.statement outcome)

/-- Checks a transform, takes its lock if it runs under one, and runs every step. -/
def run (t : Transform) (host : Host) : Dialogue Report := do
  let (host, ground) := t.setUp host
  match ← (t.prepare host.files ground).run with
  | .error e => pure (Report.finished .completed none none (.error e))
  | .ok (ground, scripts) =>
    match ← (t.takeLock ground).run with
    | .error e => pure (Report.finished .completed none none (.error e))
    | .ok () => t.runLocked host.files ground scripts

/-- The first report on a transform, which runs at once if its configuration says so. -/
def start (t : Transform) (host : Host) : Dialogue Report :=
  if t.config.run then t.run host else pure Report.initial

end Transform

end StepScript
