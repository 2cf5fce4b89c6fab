/-
# The registry

Commands, dialects, connectors, repositories and step sources are found by kind and name.  What is
registered first under a name keeps it.  What there is of each kind is a parameter: what is always
known, and whatever else there may be.
-/
import StepScript.Command.Basic
import StepScript.Database.Target
import StepScript.Dialect
import StepScript.Statement

namespace StepScript

/-- Where the files of a transform come from. -/
inductive RepositoryKind where
  /-- A directory that is there already. -/
  | directory
  /-- A clone of a version-controlled repository. -/
  | git
  /-- A file that is downloaded. -/
  | http
  deriving DecidableEq, Repr

/-- The name of a kind of repository. -/
def RepositoryKind.name : RepositoryKind → String
  | .directory => "local"
  | .git => "git"
  | .http => "http"

/-- Where the list of the steps of a transform comes from. -/
inductive StepSourceKind where
  /-- A JSON file. -/
  | file
  /-- A table of the database. -/
  | table
  deriving DecidableEq, Repr

/-- The name of a kind of step source. -/
def StepSourceKind.name : StepSourceKind → String
  | .file => "local_file"
  | .table => "transform_steps_table"

/-- What there is of each kind of capability. -/
abbrev Contents := CapabilityKind → Type

/-- What is always known, of each kind. -/
abbrev Known : Contents
  | .command => Command
  | .dialect => Dialect
  | .connector => Connector
  | .repository => RepositoryKind
  | .stepSource => StepSourceKind

/-- Something that can be registered. -/
inductive Capability (K : Contents) where
  | command (c : K .command)
  | dialect (d : K .dialect)
  | connector (c : K .connector)
  | repository (r : K .repository)
  | stepSource (s : K .stepSource)

namespace Capability

variable {K : Contents}

/-- The kind of a capability. -/
def kind : Capability K → CapabilityKind
  | .command _ => .command
  | .dialect _ => .dialect
  | .connector _ => .connector
  | .repository _ => .repository
  | .stepSource _ => .stepSource

/-- The command that is registered. -/
def command? : Capability K → Option (K .command)
  | .command c => some c
  | _ => none

/-- The dialect that is registered. -/
def dialect? : Capability K → Option (K .dialect)
  | .dialect d => some d
  | _ => none

/-- The connector that is registered. -/
def connector? : Capability K → Option (K .connector)
  | .connector c => some c
  | _ => none

/-- The kind of repository that is registered. -/
def repository? : Capability K → Option (K .repository)
  | .repository r => some r
  | _ => none

/-- The kind of step source that is registered. -/
def stepSource? : Capability K → Option (K .stepSource)
  | .stepSource s => some s
  | _ => none

end Capability

/-- A name and what is registered under it. -/
abbrev Registration (K : Contents) := String × Capability K

/-- What is registered for each kind of capability, in the order of registration. -/
structure Registry (K : Contents) where
  entries : CapabilityKind → List (Registration K)

namespace Registry

section

variable {K : Contents}

/-- The registry without entries. -/
def empty : Registry K := ⟨fun _ => []⟩

/-- What is registered under a name for a kind. -/
def find? (r : Registry K) (kind : CapabilityKind) (name : String) : Option (Capability K) :=
  ((r.entries kind).find? (·.1 == name)).map (·.2)

/-- Whether something is registered under a name for a kind. -/
def has (r : Registry K) (kind : CapabilityKind) (name : String) : Bool :=
  (r.find? kind name).isSome

/-- The registry with one more entry for a kind. -/
def add (r : Registry K) (kind : CapabilityKind) (e : Registration K) : Registry K :=
  let list := r.entries kind ++ [e]
  ⟨fun other => if other = kind then list else r.entries other⟩

/-- Registers a capability under a name, unless the name is taken for its kind.  Tells whether it
was registered. -/
def register (r : Registry K) (name : String) (c : Capability K) : Bool × Registry K :=
  if r.has c.kind name then (false, r) else (true, r.add c.kind (name, c))

/-- Registers several capabilities, one after the other. -/
def registerAll (r : Registry K) (list : List (Registration K)) : Registry K :=
  list.foldl (fun r e => (r.register e.1 e.2).2) r

/-- What is always known, as a part of what there is. -/
def builtinsAs (known : ∀ kind, Known kind → K kind) : List (Registration K) :=
  Command.all.map (fun c => (c.name, .command (known .command c))) ++
    Dialect.builtins.map (fun d => (d.name, .dialect (known .dialect d))) ++
    [("duckdb", .connector (known .connector .duckdb)),
     ("postgres", .connector (known .connector .postgres)),
     ("postgresql", .connector (known .connector .postgres))] ++
    [.directory, .git, .http].map (fun r : RepositoryKind =>
      (r.name, .repository (known .repository r))) ++
    [.file, .table].map (fun s : StepSourceKind => (s.name, .stepSource (known .stepSource s)))

/-- The names registered for a kind, in the order of registration. -/
def names (r : Registry K) (kind : CapabilityKind) : List String :=
  (r.entries kind).map (·.1)

/-- What is registered under a name, or the error that nothing is. -/
def resolve (r : Registry K) (kind : CapabilityKind) (name : String) :
    Except Error (Capability K) :=
  match r.find? kind name with
  | some c => .ok c
  | none => .error (.capabilityNotFound kind name)

/-- The error that a capability is not of the kind it was looked up as. -/
def mismatch (found : Capability K) (kind : CapabilityKind) (name : String) : Error :=
  .configuration (kind.name ++ " '" ++ name ++ "' is registered as a " ++ found.kind.name)

/-- What is registered under a name for a kind, as `pick` takes it out of a capability of the kind.
It finds nothing in one of another kind. -/
def lookup {α : Type} (r : Registry K) (kind : CapabilityKind) (pick : Capability K → Option α)
    (name : String) : Except Error α := do
  let found ← r.resolve kind name
  match pick found with
  | some content => .ok content
  | none => .error (mismatch found kind name)

/-- The command of a name. -/
def command (r : Registry K) (name : String) : Except Error (K .command) :=
  r.lookup .command Capability.command? name

/-- The dialect of a name. -/
def dialect (r : Registry K) (name : String) : Except Error (K .dialect) :=
  r.lookup .dialect Capability.dialect? name

/-- The connector of a name. -/
def connector (r : Registry K) (name : String) : Except Error (K .connector) :=
  r.lookup .connector Capability.connector? name

/-- The kind of repository of a name. -/
def repository (r : Registry K) (name : String) : Except Error (K .repository) :=
  r.lookup .repository Capability.repository? name

/-- The kind of step source of a name. -/
def stepSource (r : Registry K) (name : String) : Except Error (K .stepSource) :=
  r.lookup .stepSource Capability.stepSource? name

/-- The first dialect, in the order of registration, whose name occurs in a URL. -/
def dialectNameIn? (r : Registry K) (url : String) : Option String :=
  let lowered := Text.lower url
  (r.names .dialect).find? (Text.contains lowered)

end

/-! ## What is always known -/

/-- What is always known. -/
def builtins : List (Registration Known) := builtinsAs fun _ content => content

/-- The registry of what is always known. -/
def withBuiltins : Registry Known := empty.registerAll builtins

/-- Whether a statement names a command that takes its arguments. -/
def acceptsStatement (r : Registry Known) (s : Statement) : Bool :=
  match r.command s.command with
  | .ok c => c.accepts s.arguments
  | .error _ => false

/-- Whether every statement names a command that takes its arguments. -/
def acceptsAll (r : Registry Known) (statements : List Statement) : Bool :=
  statements.all r.acceptsStatement

end Registry

end StepScript
