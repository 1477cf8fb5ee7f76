import AttributeBrowser.Table.Cell
import AttributeBrowser.Fault

/-!
# Sources

What a table shows: rows and columns of cells with names, types and widths, and
the links between them and the class file. A source answers the same question
always the same way, and may refuse a row or column that it does not have.
-/

namespace AttributeBrowser

/-- Data that can be shown. Columns of a source do not count the row number
column that a table puts in front: column `c` of the source is column `c + 1`
of its table. -/
structure Source where
  rowCount : Nat
  columnCount : Nat
  /-- The cell of a row and a column of the source. -/
  valueAt : Nat → Nat → Except Fault Cell
  /-- The name of a column of the source. -/
  columnName : Nat → Except Fault String
  /-- The type of a column of the source. -/
  columnType : Nat → Except Fault ColumnType
  /-- The width of a column of the *table*, the row number column included. -/
  columnWidth : Nat → Except Fault Nat
  /-- Where the cell of a row and a column of the source leads. -/
  linkTarget : Nat → Nat → Except Fault (Option LinkTarget) := fun _ _ => .ok none

end AttributeBrowser
