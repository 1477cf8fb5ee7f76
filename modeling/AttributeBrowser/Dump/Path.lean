import AttributeBrowser.Text.Utf8

/-!
# Paths

Paths as the bytes that the file system sees, with the name of the file they lead
to and its extension. Slashes separate the components; empty components and single
dots lead nowhere.
-/

namespace AttributeBrowser

/-- The way to a file. -/
structure Path where
  bytes : List UInt8
deriving DecidableEq, Repr

namespace Path

def slash : UInt8 := 0x2f

def dot : UInt8 := 0x2e

/-- The path that a text writes. -/
def ofString (text : String) : Path := ⟨text.toUTF8.toList⟩

/-- The parts of a list between separators. -/
def splitAt (separator : UInt8) : List UInt8 → List (List UInt8)
  | [] => [[]]
  | byte :: rest =>
    match splitAt separator rest with
    | [] => [[byte]]
    | part :: parts => if byte = separator then [] :: part :: parts else (byte :: part) :: parts

/-- The components that lead somewhere. -/
def components (path : Path) : List (List UInt8) :=
  (splitAt slash path.bytes).filter fun part => !part.isEmpty && part != [dot]

/-- The name of the file that a path ends in; a path that ends upwards has none. -/
def fileName? (path : Path) : Option (List UInt8) :=
  match path.components.getLast? with
  | some name => if name = [dot, dot] then none else some name
  | none => none

/-- What stands behind the last dot of a file name. A name without a dot, or with
none but the first of its bytes, has no extension. -/
def extension? (path : Path) : Option (List UInt8) :=
  match path.fileName? with
  | none => none
  | some name =>
    let reversed := name.reverse
    let extension := (reversed.takeWhile (· != dot)).reverse
    let before := (reversed.dropWhile (· != dot)).drop 1
    if before.isEmpty then none else some extension

/-- Whether the path starts at the root. -/
def isAbsolute (path : Path) : Bool := path.bytes.head? == some slash

/-- The name shown for the file that a path leads to. -/
def displayName (path : Path) : String :=
  ((path.fileName?).bind Utf8.decode?).getD "???"

end Path

end AttributeBrowser
