import CaseScript.Path
import CaseScript.Text.Utf8
import Std.Data.ExtTreeMap.Lemmas

/-!
# Disks

A disk is a tree of directories and files, with one directory, `home`, at which relative paths
start.  Files are read and written whole.

A path is walked segment by segment, and every segment, also an empty one or a dot, needs a
directory to be taken from.  So a slash after the name of a file is a fault.

* `Disk.read` and `Disk.readText`: the content of a file.
* `Disk.write`: a file with new content in an existing directory.
* `Disk.put` and `Disk.filesNotIn` set a disk up and tell what was written.
-/

namespace CaseScript

open CaseScript.Text (Bytes)

/-- Why a file cannot be read or written. -/
inductive DiskFault where
  | notFound
  | notDirectory
  | isDirectory
  | nameTooLong
  /-- The path holds the character with the number 0. -/
  | nulInPath
  /-- The content is no text. -/
  | notText
  deriving DecidableEq, Repr

/-- The report of a fault. -/
def DiskFault.message : DiskFault → String
  | notFound => "No such file or directory (os error 2)"
  | notDirectory => "Not a directory (os error 20)"
  | isDirectory => "Is a directory (os error 21)"
  | nameTooLong => "File name too long (os error 36)"
  | nulInPath => "file name contained an unexpected NUL byte"
  | notText => "stream did not contain valid UTF-8"

/-- A place on a disk: the names on the way from the root, the innermost one first. -/
abbrev Location := List String

/-- What stands at a place. -/
inductive DiskEntry where
  | directory
  | file (content : Bytes)
  deriving DecidableEq, Repr

/-- Directories and files by place, and the directory where relative paths start. -/
structure Disk where
  entries : Std.ExtTreeMap Location DiskEntry
  home : Location

namespace Disk

/-- What stands at a place; the root is always a directory. -/
def entry? (disk : Disk) : Location → Option DiskEntry
  | [] => some .directory
  | place => disk.entries[place]?

/-- The disk with a directory and those around it. -/
def makeDirectory (disk : Disk) : Location → Disk
  | [] => disk
  | name :: outer =>
    let disk := disk.makeDirectory outer
    { disk with entries := disk.entries.insert (name :: outer) .directory }

/-- The disk with nothing but its home. -/
def withHome (home : Location) : Disk := makeDirectory ⟨∅, home⟩ home

/-- The most bytes that a name may take. -/
def maxNameLength : Nat := 255

/-- The most bytes that a path may take. -/
def maxPathLength : Nat := 4095

/-- The name is too long for an entry. -/
def isTooLong (name : String) : Bool := maxNameLength < name.utf8ByteSize

/-- The path is fit to be walked. -/
def checkPath (path : Path) : Except DiskFault Unit :=
  if path.text.toList.contains '\x00' then .error .nulInPath
  else if path.text.isEmpty then .error .notFound
  else if maxPathLength < path.text.utf8ByteSize then .error .nameTooLong
  else .ok ()

/-- The place is a directory. -/
def checkDirectory (disk : Disk) (place : Location) : Except DiskFault Unit :=
  match disk.entry? place with
  | some .directory => .ok ()
  | some (.file _) => .error .notDirectory
  | none => .error .notFound

/-- The place that a segment leads to. -/
def step (disk : Disk) (place : Location) (segment : String) : Except DiskFault Location := do
  disk.checkDirectory place
  match Path.Component.ofSegment? segment with
  | some (.name name) =>
    if isTooLong name then .error .nameTooLong
    else if (disk.entry? (name :: place)).isSome then return name :: place
    else .error .notFound
  | some _ => return place.tail
  | none => return place

/-- The place where a path starts. -/
def start (disk : Disk) (path : Path) : Location := if path.isAbsolute then [] else disk.home

/-- The content of a file. -/
def read (disk : Disk) (path : Path) : Except DiskFault Bytes := do
  checkPath path
  let place ← path.segments.foldlM disk.step (disk.start path)
  match disk.entry? place with
  | some (.file content) => return content
  | some .directory => .error .isDirectory
  | none => .error .notFound

/-- The content of a file that has to be text. -/
def readText (disk : Disk) (path : Path) : Except DiskFault String := do
  match Text.decode? (← disk.read path) with
  | some text => return String.ofList text
  | none => .error .notText

/-- The segments of a path on the way to the file that it is to name, and the name of that file;
there is no name where the path ends with a slash or with dots. -/
def target (path : Path) : List String × Option String :=
  let segments := path.segments.reverse
  match segments.dropWhile (· == "") with
  | [] => ([], none)
  | last :: outer =>
    match Path.Component.ofSegment? last with
    | some (.name name) =>
      (outer.reverse, if segments.head? == some "" then none else some name)
    | _ => (outer.reverse, none)

/-- The disk with a file of the given content. -/
def write (disk : Disk) (path : Path) (content : Bytes) : Except DiskFault Disk := do
  checkPath path
  let (way, name?) := target path
  let place ← way.foldlM disk.step (disk.start path)
  disk.checkDirectory place
  match name? with
  | none => .error .isDirectory
  | some name =>
    if isTooLong name then .error .nameTooLong
    else if disk.entry? (name :: place) = some .directory then .error .isDirectory
    else return { disk with entries := disk.entries.insert (name :: place) (.file content) }

/-- The place of a path under the home directory that is all names. -/
def placeUnderHome (disk : Disk) (path : Path) : Location :=
  let names := path.segments.filter fun segment => (Path.Component.ofSegment? segment).isSome
  names.reverse ++ disk.home

/-- The disk with a file, or with a directory where the path ends with a slash, and with the
directories around it. -/
def put (disk : Disk) (path : Path) (content : Bytes) : Disk :=
  let place := disk.placeUnderHome path
  if path.segments.getLast? == some "" then disk.makeDirectory place
  else
    let disk := disk.makeDirectory place.tail
    { disk with entries := disk.entries.insert place (.file content) }

/-- The path from the home directory to a place under it. -/
def pathFromHome? (disk : Disk) (place : Location) : Option Path :=
  if disk.home.isSuffixOf place then
    some ⟨"/".intercalate (place.take (place.length - disk.home.length)).reverse⟩
  else none

/-- The files under the home directory that another disk does not have with the same content. -/
def filesNotIn (disk other : Disk) : List (Path × Bytes) :=
  disk.entries.toList.filterMap fun (place, entry) =>
    match entry with
    | .directory => none
    | .file content =>
      if other.entry? place = some entry then none
      else (disk.pathFromHome? place).map (·, content)

end Disk

end CaseScript
