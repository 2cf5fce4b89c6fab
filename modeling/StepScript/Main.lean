/-
# The command line

Runs the program on the arguments, the environment of the process and the files below the working
directory.
-/
import StepScript.CommandLine.Program
import StepScript.Duckdb.Instance
import StepScript.Files.Machine

namespace StepScript.CommandLine

/-- The variables in a list of assignments, each ended by a zero octet. -/
def variablesOf (octets : List UInt8) : Table String :=
  let assignments := Text.fields '\x00' (Utf8.readLossy octets).toList
  Table.ofList (assignments.filterMap fun s =>
    (Text.cut? ['='] s).map fun (name, value) => (String.ofList name, String.ofList value))

/-- Adds the files below a directory to a tree, to a depth of at most `depth`.  What cannot be read
is left out. -/
def addFiles : Nat → List IO.FS.DirEntry → Place → FileTree → IO FileTree
  | 0, _, _, tree => pure tree
  | depth + 1, entries, below, tree => do
    let mut tree := tree
    for entry in entries do
      let place := below ++ [entry.fileName]
      if ← entry.path.isDir then
        tree := tree.put place .directory
        let inner ← try entry.path.readDir catch _ => pure #[]
        tree ← addFiles depth inner.toList place tree
      else
        try
          tree := tree.put place (.file (← IO.FS.readFile entry.path))
        catch _ => pure ()
    pure tree

/-- The files below the working directory. -/
def workingFiles : IO FileTree := do
  let entries ← (← IO.currentDir).readDir
  addFiles 32 entries.toList [] FileTree.empty

/-- The environment of the process. -/
def processEnvironment : IO (Table String) := do
  let octets ← IO.FS.readBinFile "/proc/self/environ"
  pure (variablesOf octets.toList)

/-- An engine that opens databases in files below the working directory and knows no statements. -/
def engine : Duckdb.Engine FileTree where
  start
    | none => pure ()
    | some path =>
      if Text.startsWith ":memory:".toList path.toList then pure ()
      else
        (FileTree.change (·.touch path)).adapt fun fault =>
          "IO Error: Cannot open file \"" ++ path ++ "\": " ++ fault
  join _ := pure ()
  execute _ _ := throw "no statements"
  query _ _ := throw "no statements"
  leave _ := pure ()

end StepScript.CommandLine

open StepScript CommandLine

/-- Runs the program and ends with its exit code. -/
def main (arguments : List String) : IO UInt32 := do
  let environment ← processEnvironment
  let files ← workingFiles
  let (exit, _) := Dialogue.run (Duckdb.backend engine)
    (program arguments environment files.host) (Duckdb.Instance.new files)
  if let some message := exit.message then
    IO.eprintln message
  pure (UInt32.ofNat exit.code)
