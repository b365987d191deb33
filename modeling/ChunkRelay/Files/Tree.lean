import ChunkRelay.Failure
import ChunkRelay.Files.Path
import ChunkRelay.Text.Utf8

/-! # Files

The files and directories that a run finds and makes. Directories are there as far as something is
in them, and so are the working directory, the root and the directories on the way up. Every system
has a file that is always empty.
-/

namespace ChunkRelay

inductive FileEntry where
  | file (bytes : List UInt8)
  | directory
  | missing
  deriving Repr, DecidableEq

structure FileTree where
  files : List (Place × List UInt8)
  directories : List Place
  deriving Repr, DecidableEq

namespace FileTree

def empty : FileTree := ⟨[], []⟩

/-- The file that is always empty. -/
def emptyDevice : Place := ⟨none, ["dev", "null"]⟩

/-- The directories that every system has. -/
def systemDirectories : List Place := [⟨none, ["dev"]⟩, ⟨none, ["tmp"]⟩]

/-- How many bytes a path takes at most. -/
def maxPathLength : Nat := 4095

/-- How many bytes a name takes at most. -/
def maxNameLength : Nat := 255

def isTooLong (name : String) : Bool := maxNameLength < (Utf8.encode name).length

def entryAt (tree : FileTree) (place : Place) : FileEntry :=
  match tree.files.lookup place with
  | some bytes => .file bytes
  | none =>
    if place = emptyDevice then .file []
    else
      let known := tree.files.map (·.1) ++ tree.directories ++ systemDirectories
      if place.names.isEmpty || known.any place.contains then .directory else .missing

/-- What the remaining parts of a path lead to from a place. Every place on the way has to be a
directory. -/
def follow (tree : FileTree) (place : Place) : List String → Except Defect FileEntry
  | [] => .ok (tree.entryAt place)
  | part :: rest =>
    match tree.entryAt place with
    | .directory =>
      if isTooLong part then .error .pathTooLong else follow tree (place.step part) rest
    | .file _ => .error .partNotDirectory
    | .missing => .ok .missing

/-- A written path, which may not hold a NUL character. -/
def path (text : String) : Except Defect Path :=
  if text.toList.contains (Char.ofNat 0) then .error .pathHoldsNul else .ok (.ofText text)

/-- A path that is not too long. -/
def checkLength (path : Path) : Except Defect Unit :=
  if maxPathLength < (Utf8.encode path.text).length then .error .pathTooLong else .ok ()

def find (tree : FileTree) (text : String) : Except Defect FileEntry := do
  let path ← path text
  checkLength path
  tree.follow (.ofStart path.start) path.parts

/-- Go through directories, making those that are missing. A file on the way is an obstacle. -/
def makeDirectories (tree : FileTree) (place : Place) : List String → Except Defect FileTree
  | [] =>
    match tree.entryAt place with
    | .file _ => .error .fileInTheWay
    | _ => .ok tree
  | part :: rest =>
    match tree.entryAt place with
    | .file _ => .error .partNotDirectory
    | _ =>
      if isTooLong part then .error .pathTooLong
      else
        let next := place.step part
        let tree :=
          if tree.entryAt next = .missing then { tree with directories := next :: tree.directories }
          else tree
        makeDirectories tree next rest

/-- Make the directories that a file is to be in. -/
def makeRoom (tree : FileTree) (path : Path) : Except Defect FileTree := do
  checkLength path.parent
  tree.makeDirectories (.ofStart path.start) path.parent.parts

/-- Open a file to write to it, in a directory that is there. A missing file is made. -/
def openFile (tree : FileTree) (place : Place) : Except Defect FileTree := do
  if place.names.any isTooLong || maxPathLength < (Utf8.encode place.text).length then
    throw .pathTooLong
  match tree.entryAt place with
  | .directory => throw .pathIsDirectory
  | .file _ => pure tree
  | .missing => pure { tree with files := (place, []) :: tree.files }

end FileTree

end ChunkRelay
