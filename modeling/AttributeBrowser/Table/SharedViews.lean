import AttributeBrowser.Table.View

/-!
# Views that share their row numbers

Any number of tables over several sources, several on one source too, with one
store of row numbers for all. `step` answers one request and gives the state
after it; a request that ends with a fault leaves everything as it was, the cells
computed on the way and the calls counted for them apart.
-/

namespace AttributeBrowser

/-- The sources, the views opened on them and the links followed in any view. -/
structure SharedViews where
  sources : Array Source
  numbers : RowNumbers := {}
  /-- Each view with the number of its source, in the order opened. -/
  views : Array (Nat × TableView) := #[]
  /-- The targets of the links followed, latest first. -/
  followed : List LinkTarget := []

namespace SharedViews

/-- What can be asked of the views. -/
inductive Request
  /-- Open a view on a source. -/
  | openView (source : Nat)
  /-- Have row numbers for so many rows. -/
  | grow (rows : Nat)
  /-- The state of the row numbers. -/
  | numbers
  /-- The numbers of rows and columns of a view. -/
  | size (view : Nat)
  | name (view column : Nat)
  | type (view column : Nat)
  | width (view column : Nat)
  | editable (view row column : Nat)
  | cell (view row column : Nat)
  /-- How often the source of a view was asked for a cell. -/
  | calls (view : Nat)
  /-- Follow the link of a cell. -/
  | link (view row column : Nat)
  /-- The texts of all cells. -/
  | dump (view : Nat)
deriving DecidableEq, Repr

/-- What a request is answered with. -/
inductive Answer
  | numbers (rows growths : Nat)
  | size (rows columns : Nat)
  | name (name : String)
  | type (type : ColumnType)
  | width (width : Nat)
  | editable (flag : Bool)
  | cell (cell : Cell) (calls : Nat)
  | calls (count : Nat)
  | link (followed : Bool) (count : Nat) (last : Option LinkTarget)
  | dump (lines : List (List String)) (calls : Nat)
deriving DecidableEq, Repr

/-- How often a source was asked for a cell, all views of it together. -/
def callCount (shared : SharedViews) (source : Nat) : Nat :=
  ((shared.views.filter (·.1 == source)).map (·.2.asked.length)).foldr (· + ·) 0

/-- The state of the row numbers, as an answer. -/
def numbersAnswer (shared : SharedViews) : Answer :=
  .numbers shared.numbers.size shared.numbers.growths

/-- The answer made from a view alone. -/
def ask (shared : SharedViews) (view : Nat) (answer : TableView → Except Fault Answer) :
    Except Fault Answer × SharedViews :=
  match shared.views[view]? with
  | none => (.error .unknownView, shared)
  | some (_, table) => (answer table, shared)

/-- Puts a view that has computed cells back, and makes the answer with the new
number of calls. -/
def put (shared : SharedViews) (view source : Nat) {α : Type} (result : Except Fault α × TableView)
    (answer : α → Nat → Answer) : Except Fault Answer × SharedViews :=
  let shared := { shared with views := shared.views.setIfInBounds view (source, result.2) }
  (result.1.map (answer · (shared.callCount source)), shared)

/-- Answers one request. -/
def step (shared : SharedViews) : Request → Except Fault Answer × SharedViews
  | .openView source =>
    match shared.sources[source]? with
    | none => (.error .unknownView, shared)
    | some data =>
      match TableView.openOn data shared.numbers with
      | .error fault => (.error fault, shared)
      | .ok (table, numbers) =>
        let shared := { shared with numbers, views := shared.views.push (source, table) }
        (.ok shared.numbersAnswer, shared)
  | .grow rows =>
    match shared.numbers.ensure rows with
    | .error fault => (.error fault, shared)
    | .ok numbers =>
      let shared := { shared with numbers }
      (.ok shared.numbersAnswer, shared)
  | .numbers => (.ok shared.numbersAnswer, shared)
  | .size view => shared.ask view fun table => table.columnCount.map (.size table.rowCount ·)
  | .name view column => shared.ask view fun table => (table.columnName column).map .name
  | .type view column => shared.ask view fun table => (table.columnType column).map .type
  | .width view column => shared.ask view fun table => (table.columnWidth column).map .width
  | .editable view row column =>
    shared.ask view fun table => .ok (.editable (table.isEditable row column))
  | .cell view row column =>
    match shared.views[view]? with
    | none => (.error .unknownView, shared)
    | some (source, table) =>
      shared.put view source (table.cell shared.numbers row column) .cell
  | .calls view =>
    match shared.views[view]? with
    | none => (.error .unknownView, shared)
    | some (source, _) => (.ok (.calls (shared.callCount source)), shared)
  | .link view row column =>
    match shared.views[view]? with
    | none => (.error .unknownView, shared)
    | some (_, table) =>
      match table.follow (· :: ·) row column shared.followed with
      | .error fault => (.error fault, shared)
      | .ok (done, followed) =>
        (.ok (.link done followed.length followed.head?), { shared with followed })
  | .dump view =>
    match shared.views[view]? with
    | none => (.error .unknownView, shared)
    | some (source, table) =>
      match table.columnCount with
      | .error fault => (.error fault, shared)
      | .ok columns =>
        shared.put view source
          (table.rowTexts shared.numbers columns (List.range table.rowCount)) .dump

/-- Answers the requests one after the other. -/
def run (shared : SharedViews) : List Request → List (Except Fault Answer)
  | [] => []
  | request :: requests =>
    let (answer, shared) := shared.step request
    answer :: shared.run requests

end SharedViews

end AttributeBrowser
