/-
# Hosts

What a transform finds outside of itself and its databases: files, the program that clones
repositories, the network and archives.  A host is known by what it answers only, so a statement
about every host is a statement about whatever its files, its programs and its network do.
-/

namespace StepScript

/-- What there is to read at one time. -/
structure Files where
  /-- The contents of the file at a path, or why there are none. -/
  read : String → Except String String
  /-- The paths that a pattern finds, or what is wrong with the pattern.  In place of a path there
  may be the reason why it could not be looked at. -/
  find : String → Except String (List (Except String String))

/-- No files at all. -/
def Files.none : Files :=
  ⟨fun _ => .error "No such file or directory (os error 2)", fun _ => .ok []⟩

/-- How a program ended. -/
structure ProgramEnd where
  succeeded : Bool
  /-- The status of the program, in words. -/
  status : String
  /-- The octets of what it wrote about its errors. -/
  messages : List UInt8

/-- Something done on a host with a state.  It may fail, for a reason in words, and what it changed
stays changed when it fails. -/
abbrev HostAction (σ α : Type) := ExceptT String (StateM σ) α

/-- What can be done on a host with a state. -/
structure HostSystem (σ : Type) where
  files : σ → Files
  /-- Whether a path leads somewhere. -/
  has : σ → String → Bool
  /-- Removes a directory and everything below it. -/
  removeDirectory : String → HostAction σ Unit
  /-- Makes a directory and those that lead to it. -/
  makeDirectory : String → HostAction σ Unit
  /-- Writes octets to the file at a path. -/
  write : String → List UInt8 → HostAction σ Unit
  /-- Opens the file at a path. -/
  openFile : String → HostAction σ Unit
  /-- Extracts the archive at the first path into the directory at the second one. -/
  extract : String → String → HostAction σ Unit
  /-- The octets that are found under a URL in the network. -/
  download : String → HostAction σ (List UInt8)
  /-- Runs git with arguments, in a directory of its own if one is given. -/
  git : List String → Option String → HostAction σ ProgramEnd

/-- A host: what can be done on it, and its state. -/
structure Host where
  State : Type
  system : HostSystem State
  state : State

/-- What there is to read on a host. -/
def Host.files (host : Host) : Files := host.system.files host.state

end StepScript
