/-
# Command-line arguments

A command, validate or run, and options that win over the configuration of the environment.  An
option is given at most once; its value is attached to it or is the next argument, unless that looks
like an option.
-/
import StepScript.Config

namespace StepScript.CommandLine

/-- What is done with a transform. -/
inductive Verb where
  | validate
  | run
  deriving DecidableEq, Repr

/-- A field of the configuration and the text of its value. -/
abbrev Override := String × String

/-- What the command line asks for. -/
structure Invocation where
  verb : Verb
  overrides : List Override
  deriving DecidableEq, Repr

/-- Why nothing is done with a transform. -/
inductive Stop where
  /-- The arguments are not understood. -/
  | usage
  /-- The arguments ask for help or for the version. -/
  | information
  deriving DecidableEq, Repr

/-! ## Options -/

/-- What an option is for. -/
inductive Purpose where
  /-- The value of a field. -/
  | field (name : String)
  /-- Switches a field on. -/
  | switch (name : String)
  /-- Concerns the log only. -/
  | log
  /-- Asks for information. -/
  | inform
  deriving DecidableEq, Repr

/-- An option by its long name, its short one, and what it is for. -/
structure Flag where
  long : String
  short : Option Char
  purpose : Purpose
  deriving DecidableEq, Repr

/-- The options in front of a command. -/
def outerFlags : List Flag :=
  [⟨"json", none, .log⟩, ⟨"help", some 'h', .inform⟩, ⟨"version", some 'V', .inform⟩]

/-- The options behind a command. -/
def innerFlags : List Flag :=
  [⟨"transform-name", some 'n', .field "transform_name"⟩,
   ⟨"lock-id", none, .field "transform_lock_id"⟩,
   ⟨"locked", none, .switch "locked_transform"⟩,
   ⟨"lock-table", none, .field "transform_lock_table"⟩,
   ⟨"repo-type", none, .field "repo_type"⟩,
   ⟨"repo-base-dir", none, .field "repo_base_dir"⟩,
   ⟨"repo-url", none, .field "repo_url"⟩,
   ⟨"git-branch", none, .field "git_branch"⟩,
   ⟨"compression", none, .field "compression"⟩,
   ⟨"step-metadata-manager-type", none, .field "step_metadata_manager_type"⟩,
   ⟨"step-metadata-file-path", none, .field "step_metadata_file_path"⟩,
   ⟨"steps-table", none, .field "transform_steps_table"⟩,
   ⟨"database", none, .field "database"⟩,
   ⟨"database-url", some 'd', .field "database_url"⟩,
   ⟨"db-user", none, .field "db_user"⟩,
   ⟨"db-pass", none, .field "db_pass"⟩,
   ⟨"json", none, .log⟩,
   ⟨"help", some 'h', .inform⟩]

/-- The options read so far. -/
structure Reading where
  seen : List String
  overrides : List Override
  deriving DecidableEq, Repr

namespace Reading

/-- Nothing has been read. -/
def start : Reading := ⟨[], []⟩

/-- Notes that an option was given, unless it was given before. -/
def note (r : Reading) (flag : Flag) : Except Stop Reading :=
  if r.seen.contains flag.long then .error .usage else .ok { r with seen := flag.long :: r.seen }

/-- Takes a field and its value, unless the field cannot have it. -/
def give (r : Reading) (flag : Flag) (field value : String) : Except Stop Reading :=
  match ({} : Config).set? field field value with
  | some (.ok _) => do
    let r ← r.note flag
    .ok { r with overrides := r.overrides ++ [(field, value)] }
  | _ => .error .usage

end Reading

/-- The parts of an argument. -/
inductive Shape where
  /-- Two dashes alone. -/
  | divider
  /-- A long option with the value attached to it. -/
  | long (name : String) (value : Option String)
  /-- Short options, given by their letters. -/
  | short (letters : List Char)
  | plain
  deriving DecidableEq, Repr

/-- What an argument looks like. -/
def shape (argument : String) : Shape :=
  match argument.toList with
  | ['-', '-'] => .divider
  | '-' :: '-' :: rest =>
    match Text.cut? ['='] rest with
    | some (name, value) => .long (String.ofList name) (some (String.ofList value))
    | none => .long (String.ofList rest) none
  | '-' :: c :: rest => .short (c :: rest)
  | _ => .plain

/-- What is to be read next: the option that waits for its value, if there is one. -/
abbrev Waiting := Option (Flag × String)

/-- Reads a long option. -/
def readLong (flags : List Flag) (r : Reading) (name : String) (value : Option String) :
    Except Stop (Reading × Waiting) :=
  match flags.find? (·.long == name) with
  | none => .error .usage
  | some flag =>
    match flag.purpose, value with
    | .field field, some value => do .ok (← r.give flag field value, none)
    | .field field, none => .ok (r, some (flag, field))
    | _, some _ => .error .usage
    | .switch field, none => do .ok (← r.give flag field "true", none)
    | .log, none => do .ok (← r.note flag, none)
    | .inform, none => .error .information

/-- Reads short options, the last one perhaps with its value attached. -/
def readShort (flags : List Flag) (r : Reading) : List Char → Except Stop (Reading × Waiting)
  | [] => .ok (r, none)
  | c :: rest =>
    match flags.find? (·.short == some c) with
    | none => .error .usage
    | some flag =>
      match flag.purpose with
      | .field field =>
        match rest with
        | [] => .ok (r, some (flag, field))
        | '=' :: value => do .ok (← r.give flag field (String.ofList value), none)
        | value => do .ok (← r.give flag field (String.ofList value), none)
      | .switch field => do readShort flags (← r.give flag field "true") rest
      | .log => do readShort flags (← r.note flag) rest
      | .inform => .error .information

/-- Reads options up to the first argument that is none; that one and those behind it are left. -/
def readFlags (flags : List Flag) :
    Reading → Waiting → List String → Except Stop (Reading × List String)
  | r, none, [] => .ok (r, [])
  | _, some _, [] => .error .usage
  | r, waiting, argument :: rest =>
    match shape argument, waiting with
    | .plain, some (flag, field) => do readFlags flags (← r.give flag field argument) none rest
    | _, some _ => .error .usage
    | .long name value, none => do
      let (r, waiting) ← readLong flags r name value
      readFlags flags r waiting rest
    | .short letters, none => do
      let (r, waiting) ← readShort flags r letters
      readFlags flags r waiting rest
    | _, none => .ok (r, argument :: rest)

/-! ## Commands -/

/-- The command of a name. -/
def Verb.ofName? (name : String) : Option Verb :=
  if name == "validate" then some .validate
  else if name == "run" then some .run
  else none

/-- Whether help can be given on commands, named one inside the other. -/
def hasHelp : List String → Bool
  | [] => true
  | [name] => (Verb.ofName? name).isSome || name == "help"
  | _ => false

/-- Reads the arguments of the program. -/
def read (arguments : List String) : Except Stop Invocation := do
  let (_, rest) ← readFlags outerFlags Reading.start none arguments
  match rest with
  | "help" :: names => .error (if hasHelp names then .information else .usage)
  | name :: arguments =>
    match Verb.ofName? name with
    | none => .error .usage
    | some verb =>
      let (reading, rest) ← readFlags innerFlags Reading.start none arguments
      if rest.isEmpty || rest == ["--"] then .ok ⟨verb, reading.overrides⟩ else .error .usage
  | [] => .error .usage

/-- A configuration with fields set.  The command alone decides when the transform runs. -/
def override (config : Config) (overrides : List Override) : Config :=
  let set (c : Config) (o : Override) : Config :=
    match c.set? o.1 o.1 o.2 with
    | some (.ok changed) => changed
    | _ => c
  { overrides.foldl set config with run := false }

end StepScript.CommandLine
