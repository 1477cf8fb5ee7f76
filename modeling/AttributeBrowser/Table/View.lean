import AttributeBrowser.Table.CellMemo
import AttributeBrowser.Table.RowNumbers
import AttributeBrowser.Table.Source

/-!
# Table views

A table over a source: a column of row numbers in front, then the columns of the
source. The view asks the source for a cell the first time it is wanted and
remembers the answer; `asked` is the list of the places it has asked for. A view
keeps what it learnt also when a request ends with a fault.
-/

namespace AttributeBrowser

/-- A table over `source`. -/
structure TableView where
  source : Source
  /-- The computed cells; made at the first request for a cell of the source. -/
  memo : Option CellMemo := none
  /-- The places (row and source column) the source was asked for, latest first. -/
  asked : List (Nat × Nat) := []

namespace TableView

/-- The name of the row number column. -/
def numberColumnName : String := "Nr."

/-- A new view, and the row numbers it needs. -/
def openOn (source : Source) (numbers : RowNumbers) : Except Fault (TableView × RowNumbers) :=
  match numbers.ensure source.rowCount with
  | .error fault => .error fault
  | .ok numbers => .ok ({ source }, numbers)

/-- The number of rows is the one of the source. -/
def rowCount (view : TableView) : Nat := view.source.rowCount

/-- The row number column counts too. -/
def columnCount (view : TableView) : Except Fault Nat := Size.add view.source.columnCount 1

/-- The row numbers have a name of their own. -/
def columnName (view : TableView) : Nat → Except Fault String
  | 0 => .ok numberColumnName
  | column + 1 => view.source.columnName column

/-- Row numbers are numbers. -/
def columnType (view : TableView) : Nat → Except Fault ColumnType
  | 0 => .ok .number
  | column + 1 => view.source.columnType column

/-- The source knows the width of the row numbers too. -/
def columnWidth (view : TableView) (column : Nat) : Except Fault Nat :=
  view.source.columnWidth column

/-- No cell of a table can be edited. -/
def isEditable (_ : TableView) (_row _column : Nat) : Bool := false

/-- The memo of the view, an empty one if there is none yet. -/
def memoOrNew (source : Source) : Option CellMemo → Except Fault CellMemo
  | some memo => .ok memo
  | none => CellMemo.create source.rowCount source.columnCount

/-- A cell of the source: remembered, or asked for and remembered. -/
def sourceCell (view : TableView) (row column : Nat) : Except Fault Cell × TableView :=
  match view with
  | ⟨source, memo, asked⟩ =>
    match memoOrNew source memo with
    | .error fault => (.error fault, ⟨source, memo, asked⟩)
    | .ok memo =>
      match memo.get? row column with
      | some cell => (.ok cell, ⟨source, some memo, asked⟩)
      | none =>
        match source.valueAt row column with
        | .error fault => (.error fault, ⟨source, some memo, (row, column) :: asked⟩)
        | .ok cell =>
          (.ok cell, ⟨source, some (memo.set row column cell), (row, column) :: asked⟩)

/-- A cell of the table. -/
def cell (view : TableView) (numbers : RowNumbers) (row : Nat) :
    Nat → Except Fault Cell × TableView
  | 0 => (.ok (.text (numbers.text row)), view)
  | column + 1 => view.sourceCell row column

/-- The texts of several cells, asked for in the order given, up to the first fault. -/
def texts (numbers : RowNumbers) :
    List (Nat × Nat) → TableView → Except Fault (List String) × TableView
  | [], view => (.ok [], view)
  | (row, column) :: places, view =>
    match view.cell numbers row column with
    | (.error fault, view) => (.error fault, view)
    | (.ok cell, view) =>
      match texts numbers places view with
      | (.error fault, view) => (.error fault, view)
      | (.ok rest, view) => (.ok (cell.display :: rest), view)

/-- The texts of whole rows, from the row number column on. -/
def rowTexts (numbers : RowNumbers) (columns : Nat) :
    List Nat → TableView → Except Fault (List (List String)) × TableView
  | [], view => (.ok [], view)
  | row :: rows, view =>
    match view.texts numbers ((List.range columns).map (row, ·)) with
    | (.error fault, view) => (.error fault, view)
    | (.ok line, view) =>
      match rowTexts numbers columns rows view with
      | (.error fault, view) => (.error fault, view)
      | (.ok lines, view) => (.ok (line :: lines), view)

/-- Hands the target of a cell's link to `navigate`, and says whether there was one. -/
def follow {σ : Type} (view : TableView) (navigate : LinkTarget → σ → σ) (row : Nat)
    (column : Nat) (state : σ) : Except Fault (Bool × σ) :=
  match column with
  | 0 => .ok (false, state)
  | column + 1 =>
    match view.source.linkTarget row column with
    | .error fault => .error fault
    | .ok (some target) => .ok (true, navigate target state)
    | .ok none => .ok (false, state)

end TableView

end AttributeBrowser
