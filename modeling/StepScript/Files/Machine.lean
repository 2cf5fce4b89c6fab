/-
# A machine with nothing but files

A host that is known as far as its files go: a tree of them, below the working directory.  It has no
other programs, its network leads nowhere, and none of its files is an archive.
-/
import StepScript.Files.Glob
import StepScript.Host
import StepScript.Text.Utf8

namespace StepScript.FileTree

/-- What there is to read in a tree. -/
def files (t : FileTree) : Files where
  read path := (t.read path).mapError FileFault.message
  find pattern :=
    match Glob.paths t pattern with
    | .ok paths => .ok (paths.map .ok)
    | .error fault => .error fault.message

/-- A change of the tree that may fail and then leaves it as it was. -/
def change (f : FileTree → Except FileFault FileTree) : HostAction FileTree Unit := do
  match f (← get) with
  | .ok t => set t
  | .error fault => throw fault.message

/-- What can be done where there are only files. -/
def system : HostSystem FileTree where
  files := files
  has := has
  removeDirectory path := do
    let (t, removed) := (← get).removeAll path
    set t
    MonadExcept.ofExcept (removed.mapError FileFault.message)
  makeDirectory path := change (·.makeDirectory path)
  write path octets := change (·.writeFile path (Utf8.readLossy octets))
  openFile path := change fun t => (t.place path).map fun _ => t
  extract _ _ := throw "invalid Zip archive"
  download url := throw ("no connection for url (" ++ url ++ ")")
  git _ _ := throw FileFault.notFound.message

/-- A machine with the files of a tree. -/
def host (t : FileTree) : Host := ⟨FileTree, system, t⟩

end StepScript.FileTree
