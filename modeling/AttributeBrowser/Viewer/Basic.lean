import AttributeBrowser.Table.View
import AttributeBrowser.Viewer.Clipboard
import AttributeBrowser.Viewer.Message

/-!
# The viewer

A cursor on a table and the window of it that is shown. The cursor stands at a row
below the first row of the window and at a column of the table; the window shows as
many rows as its height has, and the row number column with as many columns as fit.
Every message that changes the cursor or the window shows the window anew. `update`
applies a message, `run` a list of them; both stop at the first fault.
-/

namespace AttributeBrowser

/-- A column as it is shown. -/
structure ShownColumn where
  name : String
  width : Nat
  type : ColumnType
  texts : List String
deriving DecidableEq, Repr

/-- All that is drawn of a viewer. -/
structure Window where
  name : String := ""
  columns : List ShownColumn := []
  rowCount : Nat := 0
  /-- The row of the cursor, counted from the first row shown. -/
  selectedRow : Nat := 0
  /-- The place of the cursor column among the columns shown. -/
  selectedColumn : Nat := 0
  /-- The row of the cursor in the table. -/
  absoluteRow : Nat := 0
  message : String := ""
deriving DecidableEq, Repr

/-- Whether the viewer goes on. -/
inductive Status
  | ready
  | quitting
deriving DecidableEq, Repr

/-- A cursor on a table and the window around it. Columns are those of the table, so
column 0 holds the row numbers. -/
structure Viewer where
  status : Status := .ready
  name : String
  table : TableView
  numbers : RowNumbers
  /-- The row of the cursor, counted from the first row of the window. -/
  cursorRow : Nat := 0
  cursorColumn : Nat := 1
  /-- The first row and, behind the row numbers, the first column of the window. -/
  offsetRow : Nat := 0
  offsetColumn : Nat := 1
  /-- The columns shown. -/
  shown : List Nat := []
  width : Nat := 0
  height : Nat := 0
  window : Window := {}
  clipboard : Option Clipboard := none
  /-- The targets of the links followed, latest first. -/
  followed : List LinkTarget := []

namespace Viewer

/-! ## Showing the window -/

/-- The columns from `column` on that fit behind `used` cells, each with a blank; at
most so many columns remain. -/
def columnsFrom (table : TableView) (width : Nat) :
    Nat → Nat → Nat → Except Fault (List Nat)
  | 0, _, _ => .ok []
  | remaining + 1, column, used => do
    let columnWidth ← table.columnWidth column
    let used ← Size.add used (columnWidth + 1)
    if width < used then return []
    let columns ← columnsFrom table width remaining (column + 1) used
    return column :: columns

/-- The row number column, the first column of the window whatever its width, and the
columns behind it that fit. -/
def layout (table : TableView) (width offset : Nat) : Except Fault (List Nat) := do
  let numbers ← table.columnWidth 0
  let count ← table.columnCount
  if count ≤ offset then return [0]
  let first ← table.columnWidth offset
  let used ← Size.add (numbers + 1) (first + 1)
  let columns ← columnsFrom table width (count - (offset + 1)) (offset + 1) used
  return 0 :: offset :: columns

/-- One column of the window. -/
def showColumn (numbers : RowNumbers) (rows : List Nat) (table : TableView) (column : Nat) :
    Except Fault (ShownColumn × TableView) :=
  match table.texts numbers (rows.map (·, column)) with
  | (.error fault, _) => .error fault
  | (.ok texts, table) => do
    let name ← table.columnName column
    let width ← table.columnWidth column
    let type ← table.columnType column
    return ({ name, width, type, texts }, table)

/-- The columns of the window, from left to right. -/
def showColumns (numbers : RowNumbers) (rows : List Nat) :
    List Nat → TableView → Except Fault (List ShownColumn × TableView)
  | [], table => .ok ([], table)
  | column :: columns, table => do
    let (first, table) ← showColumn numbers rows table column
    let (rest, table) ← showColumns numbers rows columns table
    return (first :: rest, table)

/-- The row of the cursor in the table. -/
def selectedRow (viewer : Viewer) : Except Fault Nat :=
  Size.add viewer.offsetRow viewer.cursorRow

/-- The rows of the window. -/
def windowRows (viewer : Viewer) : Except Fault (List Nat) := do
  let bottom ← Size.add viewer.offsetRow viewer.height
  let stop := min bottom viewer.table.rowCount
  return List.range' viewer.offsetRow (stop - viewer.offsetRow)

/-- Shows the window anew. -/
def refresh (viewer : Viewer) : Except Fault Viewer := do
  let shown ← layout viewer.table viewer.width viewer.offsetColumn
  let rows ← viewer.windowRows
  let (columns, table) ← showColumns viewer.numbers rows shown viewer.table
  let absoluteRow ← viewer.selectedRow
  return { viewer with
    shown
    table
    window :=
      { name := viewer.name
        columns
        rowCount := viewer.table.rowCount
        selectedRow := viewer.cursorRow
        selectedColumn := (shown.idxOf? viewer.cursorColumn).getD 0
        absoluteRow
        message := viewer.window.message } }

theorem refresh_offsetColumn {viewer next : Viewer} (h : viewer.refresh = .ok next) :
    next.offsetColumn = viewer.offsetColumn := by
  unfold refresh at h
  simp only [bind, Except.bind] at h
  split at h <;> try contradiction
  split at h <;> try contradiction
  split at h <;> try contradiction
  split at h <;> try contradiction
  simp only [pure, Except.pure, Except.ok.injEq] at h
  rw [← h]

/-- Moves the window to the right until the cursor column is shown. -/
def scrollToCursor (viewer : Viewer) : Except Fault Viewer := do
  let count ← viewer.table.columnCount
  if viewer.cursorColumn < count ∧ viewer.cursorColumn ∉ viewer.shown then
    if viewer.offsetColumn + 1 < Size.limit then
      match _h : Viewer.refresh { viewer with offsetColumn := viewer.offsetColumn + 1 } with
      | .error fault => .error fault
      | .ok next => next.scrollToCursor
    else .error .overflow
  else return viewer
termination_by Size.limit - viewer.offsetColumn
decreasing_by
  have := refresh_offsetColumn _h
  simp only at this
  omega

/-! ## Messages -/

/-- The lines of a screen that show no rows: the column names and the status line. -/
def frameHeight : Nat := 2

/-- Puts a message into the status line. -/
def say (viewer : Viewer) (message : String) : Viewer :=
  { viewer with window := { viewer.window with message } }

/-- A screen of another size. A cursor below the window moves the window down. -/
def resize (viewer : Viewer) (width height : Nat) : Except Fault Viewer := do
  let viewer := { viewer with width, height := height - frameHeight }
  let viewer ←
    if 0 < viewer.height ∧ viewer.height ≤ viewer.cursorRow then do
      let below ← Size.add viewer.cursorRow 1
      let hidden ← Size.sub below viewer.height
      let offsetRow ← Size.add viewer.offsetRow hidden
      let cursorRow ← Size.sub viewer.height 1
      pure { viewer with offsetRow, cursorRow }
    else pure viewer
  let viewer ← viewer.refresh
  viewer.scrollToCursor

/-- The first row. -/
def moveBeginning (viewer : Viewer) : Except Fault Viewer :=
  Viewer.refresh { viewer with cursorRow := 0, offsetRow := 0 }

/-- The last row, at the bottom of the window. -/
def moveEnd (viewer : Viewer) : Except Fault Viewer := do
  let rows := viewer.table.rowCount
  if rows = 0 then return viewer
  if rows < viewer.height then
    let cursorRow ← Size.sub rows 1
    Viewer.refresh { viewer with offsetRow := 0, cursorRow }
  else
    let offsetRow ← Size.sub rows viewer.height
    Viewer.refresh { viewer with offsetRow, cursorRow := viewer.height - 1 }

/-- So many rows up, or the first row. -/
def moveUp (viewer : Viewer) (rows : Nat) : Except Fault Viewer := do
  let selected ← viewer.selectedRow
  let target := selected - rows
  if viewer.offsetRow ≤ target then
    let cursorRow ← Size.sub target viewer.offsetRow
    Viewer.refresh { viewer with cursorRow }
  else Viewer.refresh { viewer with offsetRow := target, cursorRow := 0 }

/-- So many rows down, or the last row. Nothing moves in a window without rows. -/
def moveDown (viewer : Viewer) (rows : Nat) : Except Fault Viewer := do
  let count := viewer.table.rowCount
  if viewer.height = 0 then return viewer
  let selected ← viewer.selectedRow
  let below ← Size.add selected 1
  if count ≤ below then return viewer
  let wanted ← Size.add selected rows
  let last ← Size.sub count 1
  let target := min wanted last
  let bottom ← Size.add viewer.offsetRow viewer.height
  if target < bottom then
    let cursorRow ← Size.sub target viewer.offsetRow
    Viewer.refresh { viewer with cursorRow }
  else
    let next ← Size.add target 1
    let offsetRow ← Size.sub next viewer.height
    let cursorRow ← Size.sub viewer.height 1
    Viewer.refresh { viewer with offsetRow, cursorRow }

/-- The column to the left, but never the row numbers. -/
def moveLeft (viewer : Viewer) : Except Fault Viewer := do
  if viewer.cursorColumn ≤ 1 then return viewer
  let cursorColumn ← Size.sub viewer.cursorColumn 1
  Viewer.refresh { viewer with cursorColumn, offsetColumn := min cursorColumn viewer.offsetColumn }

/-- The column to the right. -/
def moveRight (viewer : Viewer) : Except Fault Viewer := do
  let next ← Size.add viewer.cursorColumn 1
  let count ← viewer.table.columnCount
  if count ≤ next then return viewer
  let viewer ← Viewer.refresh { viewer with cursorColumn := next }
  viewer.scrollToCursor

/-- What the cursor stands on, if there is such a place in the table. -/
def selection? (viewer : Viewer) : Except Fault (Option (Nat × Nat)) := do
  let row ← viewer.selectedRow
  if viewer.table.rowCount ≤ row then return none
  let count ← viewer.table.columnCount
  return if count ≤ viewer.cursorColumn then none else some (row, viewer.cursorColumn)

/-- Follows the link under the cursor. -/
def followLink (viewer : Viewer) : Except Fault Viewer := do
  match ← viewer.selection? with
  | none => return viewer
  | some (row, column) =>
    let (done, followed) ← viewer.table.follow (· :: ·) row column viewer.followed
    let viewer := { viewer with followed }
    if done then
      return viewer.say ("Followed link to " ++ (followed.head?.map LinkTarget.text).getD "")
    else return viewer.say "No link in this cell"

/-- Copies the text of the cell under the cursor. -/
def copyCell (viewer : Viewer) : Except Fault Viewer := do
  match ← viewer.selection? with
  | none => return viewer
  | some (row, column) =>
    match viewer.table.cell viewer.numbers row column with
    | (.error fault, _) => .error fault
    | (.ok cell, table) =>
      let (outcome, clipboard) := Clipboard.copy cell.display viewer.clipboard
      return Viewer.say { viewer with table, clipboard } outcome.message

/-- Applies a message. -/
def update (viewer : Viewer) : Message → Except Fault Viewer
  | .quit => .ok { viewer with status := .quitting }
  | .moveUp rows => viewer.moveUp rows
  | .moveDown rows => viewer.moveDown rows
  | .pageUp => viewer.moveUp (max viewer.height 1)
  | .pageDown => viewer.moveDown (max viewer.height 1)
  | .moveLeft => viewer.moveLeft
  | .moveRight => viewer.moveRight
  | .moveBeginning => viewer.moveBeginning
  | .moveEnd => viewer.moveEnd
  | .followLink => viewer.followLink
  | .copyCell => viewer.copyCell
  | .resize width height => viewer.resize width height

/-- A viewer of a table on a screen of a size. -/
def init (name : String) (table : TableView) (numbers : RowNumbers) (width height : Nat)
    (clipboard : Option Clipboard := none) : Except Fault Viewer := do
  let viewer ← Viewer.resize { name, table, numbers, clipboard } width height
  let count ← viewer.table.columnCount
  let columns ← Size.sub count 1
  return viewer.say (viewer.table.rowCount.repr ++ " rows, " ++ columns.repr ++ " columns")

/-- Applies messages one after the other. -/
def run (viewer : Viewer) : List Message → Except Fault Viewer
  | [] => .ok viewer
  | message :: messages => do
    let next ← viewer.update message
    next.run messages

end Viewer

end AttributeBrowser
