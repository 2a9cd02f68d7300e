import Syllogistic.Command.Session

/-!
# Sessions on a disk in memory

A disk is a list of named directories and files with a directory to start from.
Running a session on a disk shows everything that it does: what it prints, what
it leaves on the disk, and how it ends.
-/

namespace Syllogistic.Command

/-- Where something is, from the root of the disk. -/
abbrev Place := List String

/-- What is at a place. -/
inductive Entry where
  | directory
  | file (contents : List UInt8)
  deriving DecidableEq, Repr

/-- A disk; the root is always a directory. -/
structure Disk where
  entries : List (Place × Entry)
  /-- Where relative paths start. -/
  start : Place

/-- A path, taken apart. -/
structure Path where
  absolute : Bool
  names : List String
  /-- Whether a slash follows the last name, so that only a directory is meant. -/
  closed : Bool
  deriving DecidableEq, Repr

/-- Takes a path apart; several slashes in a row are as good as one. -/
def Path.of (text : String) : Path where
  absolute := text.toList.head? = some '/'
  names := ((Text.splitAtEach '/' text.toList).filter (!·.isEmpty)).map String.ofList
  closed := text.toList.getLast? = some '/'

/-- The last name of a path; without names it is the directory it starts from. -/
def Path.last (path : Path) : String := path.names.getLastD "."

/-- The greatest number of bytes in a name. -/
def longestName : Nat := 255

/-- The number of bytes from which on a path is too long. -/
def pathLimit : Nat := 4096

namespace Disk

/-- What is at a place. -/
def at? (disk : Disk) (place : Place) : Option Entry :=
  if place.isEmpty then some .directory else disk.entries.lookup place

/-- The disk with something else at a place. -/
def set (disk : Disk) (place : Place) (entry : Entry) : Disk :=
  { disk with entries := (place, entry) :: disk.entries.filter (·.1 != place) }

/-- The place of a name in a directory; `.` and `..` are the directory itself and
the one above it. -/
def child (directory : Place) (name : String) : Except FileFault Place :=
  if name = "." then .ok directory
  else if name = ".." then .ok directory.dropLast
  else if longestName < name.utf8ByteSize then .error .nameTooLong
  else .ok (directory ++ [name])

/-- Follows names through directories. -/
def follow (disk : Disk) (directory : Place) : List String → Except FileFault Place
  | [] => .ok directory
  | name :: rest =>
    match child directory name with
    | .error fault => .error fault
    | .ok place =>
      match disk.at? place with
      | none => .error .missing
      | some (.file _) => .error .notDirectory
      | some .directory => disk.follow place rest

/-- Takes a path apart that can be one. -/
def pathOf (text : String) : Except FileFault Path :=
  if text.toList.contains '\x00' then .error .nulInPath
  else if text.isEmpty then .error .missing
  else if pathLimit ≤ text.utf8ByteSize then .error .nameTooLong
  else .ok (Path.of text)

/-- Where a path starts. -/
def origin (disk : Disk) (path : Path) : Place :=
  if path.absolute then [] else disk.start

/-- The path that a text spells and the directory that its last name is looked up
in. -/
def locate (disk : Disk) (text : String) : Except FileFault (Path × Place) := do
  let path ← pathOf text
  return (path, ← disk.follow (disk.origin path) path.names.dropLast)

/-- The place that a path leads to, whether there is anything or not. -/
def place (disk : Disk) (text : String) : Except FileFault Place := do
  let (path, directory) ← disk.locate text
  child directory path.last

/-- The contents of the file at a path. -/
def read (disk : Disk) (text : String) : Except FileFault (List UInt8) := do
  let (path, directory) ← disk.locate text
  match disk.at? (← child directory path.last) with
  | none => throw .missing
  | some .directory => throw .directory
  | some (.file contents) => if path.closed then throw .notDirectory else return contents

/-- The disk with a file at a path. The directory it is in has to be there. -/
def write (disk : Disk) (text : String) (contents : List UInt8) : Except FileFault Disk := do
  let (path, directory) ← disk.locate text
  if path.closed then throw .directory
  let place ← child directory path.last
  match disk.at? place with
  | some .directory => throw .directory
  | none | some (.file _) => return disk.set place (.file contents)

/-- The disk with the directories that names lead through from a directory, and the
place where they lead. A name that is too long is passed over. -/
def makeWay (disk : Disk) (directory : Place) : List String → Disk × Place
  | [] => (disk, directory)
  | name :: rest =>
    let next := (child directory name).toOption.getD directory
    let disk := if (disk.at? next).isSome then disk else disk.set next .directory
    disk.makeWay next rest

/-- The disk with the directories on the way to a path and a file at its end. -/
def provide (disk : Disk) (text : String) (contents : List UInt8) : Disk :=
  let path := Path.of text
  let (disk, directory) := disk.makeWay (disk.origin path) path.names.dropLast
  match child directory path.last with
  | .ok place => disk.set place (.file contents)
  | .error _ => disk

end Disk

/-- What a session leaves behind. -/
structure Trace (α : Type) where
  disk : Disk
  printed : String
  result : α

/-- Runs a session on a disk, after what is already printed. -/
def Session.runOn {α : Type} (disk : Disk) (printed : String) : Session α → Trace α
  | done result => ⟨disk, printed, result⟩
  | print text next => next.runOn disk (printed ++ text)
  | read path next => (next (disk.read path)).runOn disk printed
  | write path contents next =>
    match disk.write path contents with
    | .error fault => (next (.error fault)).runOn disk printed
    | .ok disk => (next (.ok ())).runOn disk printed

end Syllogistic.Command
