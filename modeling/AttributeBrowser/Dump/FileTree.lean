import AttributeBrowser.Csv.Reader
import AttributeBrowser.Dump.Load

/-!
# File trees

Files in directories, held in memory. A path is walked component by component
from the root or from the working directory; each step says what stands in the
way. A file holds bytes, or a frame stored in a format of its own.
-/

namespace AttributeBrowser

/-- What a file holds. -/
inductive FileContent
  | bytes (content : List UInt8)
  /-- A frame stored in a binary format. -/
  | stored (format : FileFormat) (frame : Frame)

namespace FileContent

/-- The number of bytes, where it is known. -/
def size : FileContent → Nat
  | .bytes content => content.length
  | .stored _ _ => 0

/-- What a reader of a format makes of a file. -/
def read : FileContent → FileFormat → Except FrameReason Frame
  | .bytes content, .csv => Csv.read content
  | .bytes _, _ => .error .unknownFormat
  | .stored format frame, wanted => if format = wanted then .ok frame else .error .unknownFormat

end FileContent

/-- Files and directories by their components from the root, and the directory in
which relative paths start. -/
structure FileTree where
  files : List (List (List UInt8) × FileContent) := []
  directories : List (List (List UInt8)) := []
  working : List (List UInt8) := []

namespace FileTree

/-- What stands at a place of the tree. -/
inductive Node
  | file (content : FileContent)
  | directory

/-- The length of the longest name in a directory, in bytes. -/
def nameLimit : Nat := 255

/-- The length of the longest path, in bytes. -/
def pathLimit : Nat := 4095

/-- What stands at a place: a file, or a directory that is there in its own right or
because something is in it. -/
def node? (tree : FileTree) (place : List (List UInt8)) : Option Node :=
  match tree.files.lookup place with
  | some content => some (.file content)
  | none =>
    if (tree.working :: tree.directories ++ tree.files.map (·.1)).any (place.isPrefixOf ·) then
      some .directory
    else none

/-- Where a path leads and what is in the way. -/
inductive Walk
  | at (place : List (List UInt8)) (node : Node)
  /-- All but the last component is there. -/
  | free (place : List (List UInt8))
  | failed (failure : StatFailure)

/-- Walks on from a place, kept in reverse. -/
def walkFrom (tree : FileTree) : List (List UInt8) → List (List UInt8) → Walk
  | place, parts =>
    match tree.node? place.reverse with
    | none =>
      if parts.all fun part => part.isEmpty then .free place.reverse
      else .failed .notFound
    | some (.file content) =>
      if parts.isEmpty then .at place.reverse (.file content)
      else .failed (.other .notADirectory)
    | some .directory =>
      match parts with
      | [] => .at place.reverse .directory
      | part :: rest =>
        if part.isEmpty ∨ part = [Path.dot] then tree.walkFrom place rest
        else if part = [Path.dot, Path.dot] then tree.walkFrom (place.drop 1) rest
        else if nameLimit < part.length then .failed (.other .nameTooLong)
        else tree.walkFrom (part :: place) rest

/-- Where a path leads. -/
def walk (tree : FileTree) (path : Path) : Walk :=
  if path.bytes.contains 0 then .failed (.other .nulInName)
  else if path.bytes.isEmpty then .failed .notFound
  else if pathLimit < path.bytes.length then .failed (.other .nameTooLong)
  else
    tree.walkFrom (if path.isAbsolute then [] else tree.working.reverse)
      (Path.splitAt Path.slash path.bytes)

/-- What is known of a path. -/
def stat (tree : FileTree) (path : Path) : Except StatFailure Metadata :=
  match tree.walk path with
  | .at _ (.file content) => .ok { isFile := true, size := content.size }
  | .at _ .directory => .ok { isFile := false, size := 0 }
  | .free _ => .error .notFound
  | .failed failure => .error failure

/-- What a reader of a format makes of the file at a path. -/
def read (tree : FileTree) (format : FileFormat) (path : Path) : Except FrameReason Frame :=
  match tree.walk path with
  | .at _ (.file content) => content.read format
  | _ => .error .unknownFormat

/-- The tree as a disk. -/
def disk (tree : FileTree) : Disk where
  stat := tree.stat
  read := tree.read

/-- The tree with an empty file at a path, in place of one that is there. -/
def create (tree : FileTree) (path : Path) : Except IoReason FileTree :=
  match tree.walk path with
  | .at _ .directory => .error .isADirectory
  | .at place (.file _) => .ok { tree with files := (place, .bytes []) :: tree.files }
  | .free place =>
    if path.bytes.getLast? = some Path.slash then .error .isADirectory
    else .ok { tree with files := (place, .bytes []) :: tree.files }
  | .failed .notFound => .error .missing
  | .failed .permissionDenied => .error (.stated "Permission denied (os error 13)")
  | .failed (.other reason) => .error reason

end FileTree

end AttributeBrowser
