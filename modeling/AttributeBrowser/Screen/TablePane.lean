import AttributeBrowser.Screen.Columns
import AttributeBrowser.Viewer.Basic

/-!
# The table on the screen

A pane of the screen shows the column names in its first line and rows below it. It
keeps a selection and the first row shown between drawings: a selection behind the
end becomes the last row or column, and the pane scrolls if the selected row would
not be seen.
-/

namespace AttributeBrowser

/-- What a pane keeps between drawings. -/
structure PaneState where
  offset : Nat := 0
  selectedRow : Option Nat := none
  selectedColumn : Option Nat := none
deriving DecidableEq, Repr

namespace TablePane

/-! ## What is seen -/

/-- A selection among `count` things. -/
def clamp (count : Nat) (selected : Option Nat) : Option Nat :=
  if count = 0 then none else selected.map (min · (count - 1))

/-- The first row shown, where `room` rows are seen. -/
def firstRow (rows room : Nat) (state : PaneState) : Nat :=
  let start := min state.offset (rows - 1)
  match state.selectedRow with
  | none => start
  | some selected =>
    let start := min start selected
    if selected < start + room then start else selected + 1 - room

/-! ## Lines -/

/-- The first line of a text. -/
def firstLine (text : String) : String := String.ofList (text.toList.takeWhile (· ≠ '\n'))

/-- A column name in so many squares. -/
def nameSquares (room : Nat) (name : String) : List Square :=
  Line.writeLeft room (Grapheme.drawn (firstLine name))

/-- A cell in so many squares. -/
def cellSquares (room : Nat) (type : ColumnType) (text : String) : List Square :=
  let graphemes := Grapheme.drawn (firstLine text)
  match type with
  | .number => Line.writeRight room graphemes
  | _ => Line.writeLeft room graphemes

/-- The style of the cells of a column; the first column is dim. -/
def cellStyle (index : Nat) (type : ColumnType) : Style where
  color := if type = .link then .blue else .plain
  underlined := type = .link
  dim := index = 0

/-- The line of the column names: underlined, and the names bold. -/
def header (width : Nat) (areas : List Area) (columns : List ShownColumn) : List Square :=
  let squares := Line.arrange width 0 <|
    (areas.zip columns).map fun (area, column) =>
      (area, (nameSquares (area.stop - area.start) column.name))
  let squares := Line.styleArea ⟨0, width⟩ { underlined := true } squares
  areas.foldl (fun squares area => Line.styleArea area { bold := true } squares) squares

/-- The line of a row. -/
def row (width : Nat) (areas : List Area) (columns : List ShownColumn) (index : Nat) :
    List Square :=
  let squares := Line.arrange width 0 <|
    (areas.zip columns).map fun (area, column) =>
      (area, cellSquares (area.stop - area.start) column.type (column.texts.getD index ""))
  ((areas.zip columns).zipIdx).foldl
    (fun squares ((area, column), index) =>
      Line.styleArea area (cellStyle index column.type) squares)
    squares

/-- The line of the selected row: bold, and its selected cell reversed. -/
def highlight (width : Nat) (areas : List Area) (selectedColumn : Option Nat)
    (line : List Square) : List Square :=
  let line := Line.styleArea ⟨0, width⟩ { bold := true } line
  match selectedColumn.bind (areas[·]?) with
  | some area => Line.styleArea area { reversed := true } line
  | none => line

/-! ## Drawing -/

/-- Draws columns into a pane of the given size. -/
def draw (width height : Nat) (columns : List ShownColumn) (state : PaneState) :
    List (List Square) × PaneState :=
  if width = 0 ∨ height = 0 then (List.replicate height [], state)
  else
    let rows := (columns.head?.map (·.texts.length)).getD 0
    let state :=
      { state with
        selectedRow := clamp rows state.selectedRow
        selectedColumn := clamp columns.length state.selectedColumn }
    let areas := Columns.areas width (columns.map (·.width))
    let names := header width areas columns
    let room := height - 1
    if rows = 0 then (names :: List.replicate room (Line.blanks width), state)
    else
      let first := firstRow rows room state
      let lines := (List.range' first (min room (rows - first))).map fun index =>
        let line := row width areas columns index
        if state.selectedRow = some index then highlight width areas state.selectedColumn line
        else line
      (names :: lines ++ List.replicate (room - lines.length) (Line.blanks width),
        { state with offset := first })

end TablePane

end AttributeBrowser
