import AttributeBrowser.Error
import AttributeBrowser.Number.FloatFormat

/-!
# Frames

A loaded dump: named columns of one length, each with cells of one kind, any of
which may be empty. No two columns of a frame have the same name.
-/

namespace AttributeBrowser

/-- The kinds of whole numbers a column can hold. -/
inductive IntegerKind
  | int32
  | int64
  | uint32
  | uint64
deriving DecidableEq, Repr

/-- A kind of values that only the frame library knows, such as moments, spans of time and
lists: why a column of the kind does not convert, if it does not. -/
structure OtherKind where
  noTexts : Option FrameReason
  noNumbers : Option FrameReason
deriving DecidableEq, Repr

/-- What the frame library makes of a value of such a kind: the text that it prints, and the
text and the whole number that the value converts to. -/
structure OtherValue where
  printed : String
  text? : Option String
  number? : Option Int
deriving DecidableEq, Repr

/-- The cells of a column. -/
inductive ColumnCells
  | integers (kind : IntegerKind) (cells : Array (Option Int))
  | floats (format : FloatFormat) (cells : Array (Option FloatValue))
  | booleans (cells : Array (Option Bool))
  | texts (cells : Array (Option String))
  /-- Days counted from the first of January 1970. -/
  | dates (cells : Array (Option Int))
  | binaries (cells : Array (Option ByteArray))
  | others (kind : OtherKind) (cells : Array (Option OtherValue))
  /-- Nothing but empty cells. -/
  | empties (count : Nat)

/-- The number of cells. -/
def ColumnCells.size : ColumnCells → Nat
  | .integers _ cells => cells.size
  | .floats _ cells => cells.size
  | .booleans cells => cells.size
  | .texts cells => cells.size
  | .dates cells => cells.size
  | .binaries cells => cells.size
  | .others _ cells => cells.size
  | .empties count => count

/-- A named column. -/
structure Column where
  name : String
  cells : ColumnCells

/-- Columns of one length with different names. -/
structure Frame where
  columns : Array Column
  height : Nat
  size_eq : ∀ column ∈ columns.toList, column.cells.size = height
  nodup : (columns.toList.map Column.name).Nodup

namespace Frame

/-- The frame of some columns; without columns it has no rows. -/
def ofColumns (columns : Array Column) : Except FrameReason Frame :=
  let height := (columns[0]?.map (·.cells.size)).getD 0
  if hs : ∀ column ∈ columns.toList, column.cells.size = height then
    if hn : (columns.toList.map Column.name).Nodup then
      .ok { columns, height, size_eq := hs, nodup := hn }
    else .error .repeatedName
  else .error .unequalColumns

/-- The column of a name. -/
def column? (frame : Frame) (name : String) : Option Column :=
  frame.columns.find? (·.name == name)

end Frame

end AttributeBrowser
