import AttributeBrowser.Frame.Conversion
import AttributeBrowser.Table.Source

/-!
# Frames as sources

A frame shown as it is, column by column. The widths are measured once: the
longest of the name and of the cells converted to text, and a margin.
-/

namespace AttributeBrowser

namespace Frame

/-- What a width has beyond the longest text. -/
def margin : Nat := 2

/-- The largest width of a column. -/
def widthLimit : Nat := 65535

/-- The number of characters that an empty cell counts. -/
def emptyWidth : Nat := 1

/-- The length of the longest cell. -/
def longest (texts : Array (Option String)) : Nat :=
  texts.foldl (fun width text => max width ((text.map String.length).getD emptyWidth)) 0

/-- The width of a column. -/
def measure (maxWidth : Nat) (column : Column) : Except FrameReason Nat :=
  match column.cells.toTexts with
  | .error reason => .error reason
  | .ok texts =>
    .ok (min (min (max column.name.length (longest texts) + margin) maxWidth) widthLimit)

/-- The width of the row number column. -/
def numberWidth (height : Nat) : Nat :=
  min (max ((max height 1).repr.length + margin) 4) widthLimit

/-- Numbers stand in columns of numbers, all else in columns of text. -/
def columnType (column : Column) : ColumnType :=
  match column.cells with
  | .integers _ _ => .number
  | .floats _ _ => .number
  | _ => .text

/-- A frame as a source, with no column wider than `maxWidth`. -/
def source (frame : Frame) (maxWidth : Nat) : Except FrameReason Source :=
  match frame.columns.mapM (measure maxWidth) with
  | .error reason => .error reason
  | .ok widths =>
    let numbers := numberWidth frame.height
    .ok {
      rowCount := frame.height
      columnCount := frame.columns.size
      valueAt := fun row column =>
        match frame.columns[column]? with
        | some column => .ok (column.cells.cell row)
        | none => .error .columnOutOfRange
      columnName := fun column =>
        match frame.columns[column]? with
        | some column => .ok column.name
        | none => .error .columnOutOfRange
      columnType := fun column =>
        match frame.columns[column]? with
        | some column => .ok (columnType column)
        | none => .error .columnOutOfRange
      columnWidth := fun column =>
        match column with
        | 0 => .ok numbers
        | column + 1 =>
          match widths[column]? with
          | some width => .ok width
          | none => .error .columnOutOfRange }

end Frame

end AttributeBrowser
