/-
# Paths

A path is a text whose parts are separated by slashes, relative to the working directory.
-/
import StepScript.Text.Search

namespace StepScript.Path

/-- Whether a path starts at the root of the file system instead of the working directory. -/
def isAbsolute (path : String) : Bool :=
  Text.startsWith ['/'] path.toList

/-- The parts of a path, empty ones included. -/
def parts (path : String) : List String :=
  (Text.fields '/' path.toList).map String.ofList

/-- A path inside of the directory `base`. -/
def join (base path : String) : String :=
  if isAbsolute path || base.isEmpty then path
  else if base.toList.getLast? = some '/' then base ++ path
  else base ++ "/" ++ path

end StepScript.Path
