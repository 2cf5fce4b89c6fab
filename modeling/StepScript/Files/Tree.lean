/-
# File trees

The files below the working directory, as a value.  A place in the tree is the list of names that
leads to it; the working directory itself is always there.
-/
import StepScript.Files.Path

namespace StepScript

/-- A place in a tree, by the names that lead to it. -/
abbrev Place := List String

/-- What is at a place. -/
inductive FileEntry where
  | file (contents : String)
  | directory
  deriving DecidableEq, Repr

/-- Why a path cannot be used. -/
inductive FileFault where
  | notFound
  | exists
  | notDirectory
  | isDirectory
  | invalid
  | nameTooLong
  | zeroCharacter
  deriving DecidableEq, Repr

/-- The wording of a fault, as operating systems have it. -/
def FileFault.message : FileFault → String
  | .notFound => "No such file or directory (os error 2)"
  | .exists => "File exists (os error 17)"
  | .notDirectory => "Not a directory (os error 20)"
  | .isDirectory => "Is a directory (os error 21)"
  | .invalid => "Invalid argument (os error 22)"
  | .nameTooLong => "File name too long (os error 36)"
  | .zeroCharacter => "file name contained an unexpected NUL byte"

/-- The files and directories below the working directory. -/
structure FileTree where
  entries : List (Place × FileEntry)
  deriving DecidableEq, Repr

namespace FileTree

/-- A tree without files. -/
def empty : FileTree := ⟨[]⟩

/-! ## Looking -/

/-- What is at a place. -/
def entry? (t : FileTree) (place : Place) : Option FileEntry :=
  if place.isEmpty then some .directory else (t.entries.find? (·.1 == place)).map (·.2)

/-- Follows the parts of a path from a place.  A part behind something that is not a directory
leads nowhere. -/
def follow (t : FileTree) : Place → List String → Except FileFault Place
  | here, [] => .ok here
  | here, part :: rest =>
    if t.entry? here ≠ some .directory then .error .notDirectory
    else if part == "" || part == "." then t.follow here rest
    else if part == ".." then
      if here.isEmpty then .error .notFound else t.follow here.dropLast rest
    else if 255 < part.utf8ByteSize then .error .nameTooLong
    else if (t.entry? (here ++ [part])).isSome then t.follow (here ++ [part]) rest
    else .error .notFound

/-- The place a path leads to. -/
def place (t : FileTree) (path : String) : Except FileFault Place :=
  if path.toList.contains '\x00' then .error .zeroCharacter
  else if path.isEmpty || Path.isAbsolute path then .error .notFound
  else t.follow [] (Path.parts path)

/-- Whether a path leads somewhere. -/
def has (t : FileTree) (path : String) : Bool :=
  match t.place path with
  | .ok _ => true
  | .error _ => false

/-- Whether a path leads to a directory. -/
def isDirectory (t : FileTree) (path : String) : Bool :=
  match t.place path with
  | .ok place => t.entry? place == some .directory
  | .error _ => false

/-- The contents of the file a path leads to. -/
def read (t : FileTree) (path : String) : Except FileFault String := do
  match t.entry? (← t.place path) with
  | some (.file contents) => .ok contents
  | some .directory => .error .isDirectory
  | none => .error .notFound

/-- The name of an entry directly below a place, if it is one. -/
def childName? (place : Place) (other : Place) : Option String :=
  match other.getLast? with
  | some name => if other.dropLast == place then some name else none
  | none => none

/-- The names directly below the directory a path leads to, in ascending order. -/
def children (t : FileTree) (path : String) : List String :=
  match t.place path with
  | .ok place =>
    (t.entries.filterMap fun e => childName? place e.1).mergeSort fun a b => decide (a ≤ b)
  | .error _ => []

/-! ## Changing -/

/-- Puts an entry at a place. -/
def put (t : FileTree) (place : Place) (entry : FileEntry) : FileTree :=
  ⟨(place, entry) :: t.entries.filter (·.1 != place)⟩

/-- Removes everything below a place, and the place itself unless it is to stay. -/
def removeBelow (t : FileTree) (place : Place) (stay : Bool) : FileTree :=
  let gone (other : Place) : Bool := place.isPrefixOf other && !(stay && other == place)
  ⟨t.entries.filter fun e => !gone e.1⟩

/-- Removes a directory and everything below it.  A directory that is named by a dot loses what is
below it and stays. -/
def removeAll (t : FileTree) (path : String) : FileTree × Except FileFault Unit :=
  match t.place path with
  | .error fault => (t, .error fault)
  | .ok place =>
    if t.entry? place ≠ some .directory then (t, .error .notDirectory)
    else if ((Path.parts path).filter (· != "")).getLast? = some "." then
      (t.removeBelow place true, .error .invalid)
    else (t.removeBelow place false, .ok ())

/-- Makes the directories that the parts of a path lead through, from a place on. -/
def makeFrom (t : FileTree) : Place → List String → Except FileFault FileTree
  | here, [] => if t.entry? here = some .directory then .ok t else .error .exists
  | here, part :: rest =>
    if t.entry? here ≠ some .directory then .error .notDirectory
    else if part == "" || part == "." then t.makeFrom here rest
    else if part == ".." then
      if here.isEmpty then .error .notFound else t.makeFrom here.dropLast rest
    else if 255 < part.utf8ByteSize then .error .nameTooLong
    else
      let next := here ++ [part]
      let t := if (t.entry? next).isSome then t else t.put next .directory
      t.makeFrom next rest

/-- Makes a directory and those that lead to it. -/
def makeDirectory (t : FileTree) (path : String) : Except FileFault FileTree :=
  if path.isEmpty then .ok t
  else if path.toList.contains '\x00' then .error .zeroCharacter
  else if Path.isAbsolute path then .error .notFound
  else t.makeFrom [] (Path.parts path)

/-- Writes a file to a path, in a directory that is there. -/
def writeFile (t : FileTree) (path contents : String) : Except FileFault FileTree :=
  match t.place path with
  | .ok place =>
    if t.entry? place = some .directory then .error .isDirectory
    else .ok (t.put place (.file contents))
  | .error _ => do
    let place ← t.follow [] (Path.parts path).dropLast
    match (Path.parts path).getLast? with
    | some name =>
      if name == "" || Path.isAbsolute path then .error .notFound
      else .ok (t.put (place ++ [name]) (.file contents))
    | none => .error .notFound

/-- Makes an empty file at a path, in a directory that is there, unless there is a file. -/
def touch (t : FileTree) (path : String) : Except FileFault FileTree :=
  if t.has path && !t.isDirectory path then .ok t else t.writeFile path ""

end FileTree

end StepScript
