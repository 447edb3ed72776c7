/-
**Trees of files.**

A tree holds files and directories below its root, and one of the directories is where a run takes
place.  A path is followed part by part; every part but the last must lead through a directory.

Main definitions:

* `FileTree`, `FileTree.stands?` — what stands at a place of a tree;
* `FileTree.Refusal` — why a file cannot be read or written;
* `FileTree.checkPath`, `FileTree.seek` — the limits of paths and of names;
* `FileTree.follow` — the place that a path leads to;
* `FileTree.read`, `FileTree.place`, `FileTree.write` — reading, and writing where a file may be;
* `FileTree.create`, `FileTree.overwrite` — what opening a file does, and what writing to it does;
* `FileTree.changes` — the files that differ from those of another tree.
-/

import Compliance.Path

set_option relaxedAutoImplicit false
set_option autoImplicit false

namespace Compliance

/-- Files and directories by the names that lead to them from the root. -/
structure FileTree where
  /-- The directory where relative paths start. -/
  here : List String
  /-- The directories other than the root. -/
  directories : List (List String)
  /-- The files with their bytes. -/
  files : List (List String × List UInt8)
  deriving DecidableEq, Repr

namespace FileTree

/-- What stands at a place. -/
inductive Entry
  | file (bytes : List UInt8)
  | directory
  deriving DecidableEq, Repr

/-- A place, by the names that lead to it from the root. -/
abbrev Place := List String

/-- Why a file cannot be read or written. -/
inductive Refusal
  | notFound
  | notDirectory
  | isDirectory
  | nameTooLong
  | nulInName
  deriving DecidableEq, Repr

/-- The wording of a refusal. -/
def Refusal.message : Refusal → String
  | notFound => "No such file or directory (os error 2)"
  | notDirectory => "Not a directory (os error 20)"
  | isDirectory => "Is a directory (os error 21)"
  | nameTooLong => "File name too long (os error 36)"
  | nulInName => "file name contained an unexpected NUL byte"

/-- What stands at a place. -/
def stands? (t : FileTree) : Place → Option Entry
  | [] => some .directory
  | place =>
    match t.files.lookup place with
    | some bytes => some (.file bytes)
    | none => if place ∈ t.directories then some .directory else none

/-! ### Following paths -/

/-- The directory that a place is in; the root is in itself. -/
def Place.parent (place : Place) : Place := place.dropLast

/-- The place of a name in a directory. -/
def Place.child (place : Place) (name : String) : Place := place ++ [name]

/-- The greatest number of bytes of a name in a directory. -/
def nameLimit : Nat := 255

/-- The greatest number of bytes of a path. -/
def pathLimit : Nat := 4095

/-- Refuses a path that no file can be sought by: one with a NUL character, or one that is too
long. -/
def checkPath (path : String) : Except Refusal Unit :=
  if '\x00' ∈ path.toList then .error .nulInName
  else if pathLimit < path.utf8ByteSize then .error .nameTooLong
  else .ok ()

/-- The place of a name in a directory, unless the name is too long for one. -/
def seek (here : Place) (name : String) : Except Refusal Place :=
  if nameLimit < name.utf8ByteSize then .error .nameTooLong else .ok (here.child name)

/-- Follows one part of a path. -/
def followPart (t : FileTree) (here : Place) (part : String) : Except Refusal Place :=
  match t.stands? here with
  | none => .error .notFound
  | some (.file _) => .error .notDirectory
  | some .directory =>
    if part = "" || part = "." then .ok here
    else if part = ".." then .ok here.parent
    else seek here part

/-- Where a path starts. -/
def startOf (t : FileTree) (path : String) : Place :=
  if path.toList.head? = some '/' then [] else t.here

/-- Follows the parts of a path from a place. -/
def followParts (t : FileTree) (here : Place) (parts : List String) : Except Refusal Place :=
  parts.foldlM t.followPart here

/-- The place that a path leads to. -/
def follow (t : FileTree) (path : String) : Except Refusal Place := do
  checkPath path
  t.followParts (t.startOf path) (Path.parts path)

/-! ### Reading and writing -/

/-- The bytes of the file that a path leads to. -/
def read (t : FileTree) (path : String) : Except Refusal (List UInt8) := do
  match t.stands? (← t.follow path) with
  | some (.file bytes) => return bytes
  | some .directory => throw .isDirectory
  | none => throw .notFound

/-- The place of the file that is to be written under a name in a directory.  A name before a slash
is that of a directory, and so are `.` and `..`. -/
def placeIn (t : FileTree) (dir : Place) (name : String) (beforeSlash : Bool) :
    Except Refusal Place :=
  match t.stands? dir with
  | none => .error .notFound
  | some (.file _) => .error .notDirectory
  | some .directory =>
    if name = "." || name = ".." || beforeSlash then .error .isDirectory
    else do
      let found ← seek dir name
      if t.stands? found = some .directory then throw .isDirectory else return found

/-- The place of the file that is to be written at a path. -/
def place (t : FileTree) (path : String) : Except Refusal Place := do
  checkPath path
  let parts := Path.parts path
  match parts.reverse.dropWhile (· = "") with
  | [] => throw .isDirectory
  | name :: before =>
    let dir ← t.followParts (t.startOf path) before.reverse
    t.placeIn dir name (parts.getLast? = some "")

/-- The tree with the given bytes in the file at a place. -/
def write (t : FileTree) (place : Place) (bytes : List UInt8) : FileTree :=
  { t with files := (place, bytes) :: t.files.filter (·.1 ≠ place) }

/-- The tree with an empty file at a place, whatever was in it before. -/
def create (t : FileTree) (place : Place) : FileTree := t.write place []

/-- The tree with the given bytes over the front of the file at a place.  What the file holds behind
them stays. -/
def overwrite (t : FileTree) (place : Place) (bytes : List UInt8) : FileTree :=
  t.write place (bytes ++ ((t.files.lookup place).getD []).drop bytes.length)

/-! ### Building and comparing -/

/-- The tree with an empty directory where a run takes place. -/
def empty : FileTree where
  here := ["tmp", "work"]
  directories := [["tmp"], ["tmp", "work"]]
  files := []

/-- The names that lead to a relative path. -/
def namesOf (path : String) : List String := (Path.parts path).filter Path.leadsOn

/-- The tree with the directories along the given names. -/
def addDirectory (t : FileTree) (names : List String) : FileTree :=
  { t with
    directories := t.directories ++
      (List.range names.length).map fun n => t.here ++ names.take (n + 1) }

/-- The tree with a file, and the directories that lead to it. -/
def addFile (t : FileTree) (names : List String) (bytes : List UInt8) : FileTree :=
  (t.addDirectory names.dropLast).write (t.here ++ names) bytes

/-- The files of a tree that differ from those of an earlier one, with their paths from the directory
of the run.  Files elsewhere are left out. -/
def changes (before after : FileTree) : List (String × List UInt8) :=
  (after.files.filter fun (place, bytes) =>
    before.here.isPrefixOf place && before.files.lookup place ≠ some bytes).map
      fun (place, bytes) => ("/".intercalate (place.drop before.here.length), bytes)

end FileTree

end Compliance
