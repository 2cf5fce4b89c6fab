/-
# Repositories

Where the files of a transform come from.  A local repository is a directory that is there already.
The others are fetched into a directory of their own, which is emptied first.
-/
import StepScript.Config
import StepScript.Files.Path
import StepScript.Host
import StepScript.Registry
import StepScript.Text.Utf8

namespace StepScript.Repository

/-- The URL that a repository is fetched from. -/
def requiredUrl (config : Config) : Except Error String :=
  match config.repoUrl with
  | some url =>
    if url.isEmpty then .error (.configuration "repo_url is required for this repo type")
    else .ok url
  | none => .error (.configuration "repo_url is required for this repo type")

/-- The directory that a repository is fetched into. -/
def directory (config : Config) : String :=
  Path.join config.repoBaseDir config.transformName

/-- The last part of the path in a URL. -/
def fileName (url : String) : Except Error String :=
  let path := url.toList.takeWhile fun c => c != '?' && c != '#'
  match (Text.fields '/' path).getLast? with
  | some (c :: cs) => .ok (String.ofList (c :: cs))
  | _ => .error (.configuration ("cannot derive a file name from '" ++ url ++ "'"))

/-! ## Fetching -/

section

variable {σ α : Type}

/-- A part of fetching a repository on a host with a state. -/
abbrev Fetch (σ α : Type) := ExceptT Error (StateM σ) α

/-- Something done on the host, whose failure is an error of the transform. -/
def Fetch.failing (error : String → Error) (action : HostAction σ α) : Fetch σ α :=
  ExceptT.adapt error action

variable (system : HostSystem σ)

/-- Removes a directory with everything below it if it is there, and makes it again. -/
def rebuild (path : String) : Fetch σ Unit := do
  if system.has (← get) path then
    Fetch.failing .io (system.removeDirectory path)
  Fetch.failing .io (system.makeDirectory path)

/-- Runs git, and fails if git does. -/
def runGit (arguments : List String) (place : Option String) : Fetch σ Unit := do
  let ended ← Fetch.failing (fun fault => .process ("Failed to run git: " ++ fault))
    (system.git arguments place)
  if !ended.succeeded then
    throw (.process ("git exited with " ++ ended.status ++ ": " ++
      Text.trimmed (Utf8.readLossy ended.messages)))

/-- Clones a repository and checks the wanted branch out. -/
def clone (config : Config) : Fetch σ String := do
  let url ← MonadExcept.ofExcept (requiredUrl config)
  let base := directory config
  rebuild system base
  runGit system ["clone", url, base] none
  if let some branch := config.gitBranch then
    runGit system ["checkout", branch] (some base)
  pure base

/-- Extracts an archive into a directory. -/
def extract (archive base : String) : Fetch σ Unit := do
  Fetch.failing .io (system.openFile archive)
  Fetch.failing (fun fault => .io ("Archive extraction failed: " ++ fault))
    (system.extract archive base)

/-- Downloads a file, and extracts it if it is an archive. -/
def download (config : Config) : Fetch σ String := do
  let url ← MonadExcept.ofExcept (requiredUrl config)
  let base := directory config
  rebuild system base
  let archive := Path.join base (← MonadExcept.ofExcept (fileName url))
  let octets ← Fetch.failing (fun fault => .io ("HTTP request failed: " ++ fault))
    (system.download url)
  Fetch.failing .io (system.write archive octets)
  if config.compression == some "zip" then
    extract system archive base
  pure base

/-- Makes the files of a transform available, and gives the directory to find them in. -/
def provide (kind : RepositoryKind) (config : Config) : Fetch σ String :=
  match kind with
  | .directory => pure config.repoBaseDir
  | .git => clone system config
  | .http => download system config

end

end StepScript.Repository
