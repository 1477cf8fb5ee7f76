import AttributeBrowser.Screen.TablePane

/-!
# The screen of a viewer

The table takes all lines but the last; the last one is the status line, with the
name of the dump, the position of the cursor, a message and the keys.
-/

namespace AttributeBrowser

/-- A screen, line by line. -/
structure Screen where
  lines : List (List Square)
deriving DecidableEq, Repr

namespace Screen

/-- The texts of the lines. -/
def texts (screen : Screen) : List String := screen.lines.map Line.text

/-- The runs of styles other than the plain one: line, first square, number of squares
and style. -/
def runs (screen : Screen) : List (Nat × Nat × Nat × Style) :=
  screen.lines.zipIdx.flatMap fun (line, y) => (Line.runs line).map fun run => (y, run)

end Screen

namespace StatusLine

/-- The keys that a user is told of. -/
def help : String :=
  " Quit <q> | Move <←↓↑→> | Top/Bottom <g/G> | Follow link <Enter> | Copy cell <y> "

/-- The row of the cursor, counted from one, and the number of rows. -/
def position (window : Window) : String :=
  if window.rowCount = 0 then "0/0"
  else (window.absoluteRow + 1).repr ++ "/" ++ window.rowCount.repr

/-- The pieces of the status line. -/
def pieces (window : Window) : List (String × Style) :=
  [(" " ++ window.name ++ " ", { bold := true, reversed := true }),
   (" " ++ position window ++ " ", { color := .yellow }),
   (" " ++ window.message ++ " ", {}),
   (help, { color := .darkGray })]

/-- Writes styled graphemes, in reverse, up to the first one that does not fit. One
without a width is left out, and so is one wider than the line. -/
def write (width : Nat) : Nat → List (String × Nat × Style) → List Square → List Square
  | _, [], done => done
  | used, (symbol, size, style) :: rest, done =>
    if size = 0 ∨ width < size then write width used rest done
    else if width < used + size then done
    else
      write width (used + size) rest
        (Line.blanks (size - 1) ++ { symbol, width := size, style } :: done)

/-- The status line. -/
def line (width : Nat) (window : Window) : List Square :=
  let graphemes := (pieces window).flatMap fun (text, style) =>
    (Grapheme.drawn text).map fun (symbol, size) => (symbol, size, style)
  Line.pad width (write width 0 graphemes []).reverse

end StatusLine

/-- Draws a viewer on a screen of the given size. The pane is told the selection of the
window and starts at its first row. -/
def Viewer.draw (viewer : Viewer) (width height : Nat) (state : PaneState) : Screen × PaneState :=
  let window := viewer.window
  let state : PaneState :=
    { state with
      selectedRow := some window.selectedRow
      selectedColumn := some window.selectedColumn
      offset := 0 }
  let (lines, state) := TablePane.draw width (height - 1) window.columns state
  let status := if height = 0 then [] else [StatusLine.line width window]
  ({ lines := lines ++ status }, state)

end AttributeBrowser
