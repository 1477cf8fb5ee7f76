import AttributeBrowser.Dump.Path
import AttributeBrowser.Frame.Basic
import AttributeBrowser.Text.Uppercase

/-!
# Loading a dump

A file is judged before it is read: first whether it is there, then whether it is
a file at all, then by its extension, in capitals, which of three formats it has.
-/

namespace AttributeBrowser

/-- The formats of a dump. -/
inductive FileFormat
  | csv
  | parquet
  | arrow
deriving DecidableEq, Repr

/-- The format of an extension in capital letters. -/
def FileFormat.ofCapitals? : String → Option FileFormat
  | "CSV" => some .csv
  | "PARQUET" => some .parquet
  | "PQ" => some .parquet
  | "ARROW" => some .arrow
  | "IPC" => some .arrow
  | "FEATHER" => some .arrow
  | _ => none

/-- The format that a path promises. -/
def FileFormat.ofPath? (path : Path) : Option FileFormat :=
  match path.extension?.bind Utf8.decode? with
  | some extension => ofCapitals? (Uppercase.ofString extension)
  | none => none

/-- Why nothing is known of a file. -/
inductive StatFailure
  | notFound
  | permissionDenied
  | other (reason : IoReason)
deriving DecidableEq, Repr

/-- A file that is missing or closed to us has an error of its own. -/
def StatFailure.error : StatFailure → Error
  | .notFound => .fileNotFound
  | .permissionDenied => .permissionDenied
  | .other reason => .io reason

/-- What is known of a file before it is read. -/
structure Metadata where
  isFile : Bool
  size : Nat
deriving DecidableEq, Repr

/-- A file that can be read. -/
structure FileInfo where
  path : Path
  size : Nat
  format : FileFormat
deriving DecidableEq, Repr

/-- The verdict on a file. -/
def FileInfo.judge (path : Path) (metadata : Except StatFailure Metadata) :
    Except Error FileInfo :=
  match metadata with
  | .error failure => .error failure.error
  | .ok metadata =>
    if metadata.isFile then
      match FileFormat.ofPath? path with
      | some format => .ok { path, size := metadata.size, format }
      | none => .error .unknownFileType
    else .error (.loadingFailed .notAFile)

/-- Files to judge and to read: what is known of a path, and what a reader of a
format makes of the file there. -/
structure Disk where
  stat : Path → Except StatFailure Metadata
  read : FileFormat → Path → Except FrameReason Frame

/-- The frame in a file. -/
def Disk.load (disk : Disk) (path : Path) : Except Error Frame :=
  match FileInfo.judge path (disk.stat path) with
  | .error error => .error error
  | .ok info =>
    match disk.read info.format info.path with
    | .error reason => .error (.frame reason)
    | .ok frame => .ok frame

end AttributeBrowser
