import AttributeBrowser.Proofs.Screen.WindowLines
import AttributeBrowser.Proofs.Viewer.Sessions
import AttributeBrowser.Screen.Session

/-!
# Drawings one after the other

The pane of a table goes on from drawing to drawing with a selection and a first row, and each
drawing changes them: a selection behind the end is moved or cleared, and the pane may scroll.
What a drawing leaves is told by that drawing alone (`Drawing.left`), and it does not show later:
the pane is told all that it keeps before it is drawn again. So the screens of a session are
those of its viewers, each drawn as if it were the first.
-/

namespace AttributeBrowser

/-- A viewer drawn on a screen of a size. -/
structure Drawing where
  viewer : Viewer
  width : Nat
  height : Nat

namespace PaneState

/-- The pane after one more drawing. -/
def draw (state : PaneState) (drawing : Drawing) : PaneState :=
  (drawing.viewer.draw drawing.width drawing.height state).2

/-- A new pane after some drawings. -/
def after (drawings : List Drawing) : PaneState := drawings.foldl draw {}

theorem after_concat (drawings : List Drawing) (last : Drawing) :
    after (drawings ++ [last]) = (after drawings).draw last := by
  simp only [after, List.foldl_append, List.foldl_cons, List.foldl_nil]

end PaneState

/-- What a drawing leaves in a pane. A pane without squares keeps what it was told. Else a
selection without rows is cleared, one behind the last row is moved there, and the pane has
scrolled as far as the selected row is out of its `height - 2` lines of rows. -/
def Drawing.left (drawing : Drawing) : PaneState :=
  let window := drawing.viewer.window
  let rows := TablePane.rowCount window.columns
  let last := min window.selectedRow (rows - 1)
  if drawing.width = 0 ∨ drawing.height ≤ 1 then
    { selectedRow := some window.selectedRow, selectedColumn := some window.selectedColumn }
  else
    { offset := if rows = 0 then 0 else last + 1 - (drawing.height - 2)
      selectedRow := if rows = 0 then none else some last
      selectedColumn := TablePane.clamp window.columns.length (some window.selectedColumn) }

/-! ## What a pane keeps -/

namespace TablePane

variable {width height : Nat} {columns : List ShownColumn} {state : PaneState}

/-- A pane with squares keeps a selection among its rows and columns, and its first row. -/
theorem state_draw (hwidth : 0 < width) (hheight : 0 < height) :
    (draw width height columns state).2 =
      { offset :=
          if rowCount columns = 0 then state.offset
          else firstRow (rowCount columns) (height - 1)
            { state with selectedRow := clamp (rowCount columns) state.selectedRow }
        selectedRow := clamp (rowCount columns) state.selectedRow
        selectedColumn := clamp columns.length state.selectedColumn } := by
  have hsize : ¬(width = 0 ∨ height = 0) := by omega
  rw [draw, if_neg hsize]
  simp only [show (columns.head?.map (·.texts.length)).getD 0 = rowCount columns from rfl]
  by_cases hrows : rowCount columns = 0
  · simp only [if_pos hrows]
  · simp only [if_neg hrows]
    rfl

end TablePane

/-! ## One drawing -/

namespace Viewer

theorem draw_eq_pane (viewer : Viewer) (width height : Nat) (state : PaneState) :
    viewer.draw width height state =
      ({ lines :=
          (TablePane.draw width (height - 1) viewer.window.columns (viewer.pane state)).1 ++
            if height = 0 then [] else [StatusLine.line width viewer.window] },
        (TablePane.draw width (height - 1) viewer.window.columns (viewer.pane state)).2) := rfl

/-- A pane is told all that it keeps. -/
theorem pane_eq (viewer : Viewer) (state other : PaneState) :
    viewer.pane state = viewer.pane other := by
  cases state with
  | mk offset selectedRow selectedColumn =>
    cases other with
    | mk offset' selectedRow' selectedColumn' => rfl

/-- **What was left in a pane does not show.** -/
theorem draw_eq (viewer : Viewer) (width height : Nat) (state other : PaneState) :
    viewer.draw width height state = viewer.draw width height other := by
  rw [draw_eq_pane, viewer.pane_eq state other, ← draw_eq_pane]

end Viewer

/-- A drawing leaves a pane with any past alike. -/
theorem PaneState.draw_eq_left (state : PaneState) (drawing : Drawing) :
    state.draw drawing = drawing.left := by
  obtain ⟨viewer, width, height⟩ := drawing
  simp only [PaneState.draw, Viewer.draw_eq_pane, Drawing.left]
  by_cases hsquares : width = 0 ∨ height ≤ 1
  · rw [if_pos hsquares, TablePane.draw, if_pos (by omega)]
    rfl
  · rw [if_neg hsquares, TablePane.state_draw (by omega) (by omega)]
    by_cases hrows : TablePane.rowCount viewer.window.columns = 0
    · simp only [if_pos hrows, TablePane.clamp]
      rfl
    · have hclamp : TablePane.clamp (TablePane.rowCount viewer.window.columns)
          (viewer.pane state).selectedRow =
            some (min viewer.window.selectedRow (TablePane.rowCount viewer.window.columns - 1)) :=
        if_neg hrows
      rw [if_neg hrows, if_neg hrows, if_neg hrows, TablePane.firstRow_of_top rfl hclamp, hclamp]
      rfl

/-! ## Many drawings -/

/-- Each of several screens is drawn as it would be on any other pane. -/
theorem Screen.sequence_eq_map (width height : Nat) (state other : PaneState)
    (viewers : List Viewer) :
    sequence width height state viewers =
      viewers.map fun viewer => (viewer.draw width height other).1 := by
  induction viewers generalizing state with
  | nil => rfl
  | cons viewer rest ih =>
    simp only [sequence, List.map_cons]
    rw [ih, viewer.draw_eq width height state other]

namespace Viewer

/-- **Drawing has no memory.** Let two panes be used for any drawings, of any viewers and on
screens of any sizes. A viewer is then drawn alike on both, on screens of one size, and what the
drawing leaves is its own. Nor do viewers remember that they were drawn: on a pane with any past,
drawing `k` of a session shows the viewer to which nothing but the messages of the first `k`
events has led, as that is drawn on a pane with any other past. -/
theorem drawing_has_no_memory (earlier others : List Drawing) (viewer : Viewer)
    (width height : Nat) :
    (viewer.draw width height (.after earlier)).1 = (viewer.draw width height (.after others)).1 ∧
    PaneState.after (earlier ++ [⟨viewer, width, height⟩]) =
      Drawing.left ⟨viewer, width, height⟩ ∧
    ∀ (events : List Event) (k : Nat),
      (Screen.sequence width height (.after earlier) (Session.run viewer events).drawn)[k]? =
        if k ≤ events.length then
          (Session.viewerAfter viewer (events.take k)).map fun shown =>
            (shown.draw width height (.after others)).1
        else none := by
  refine ⟨?_, ?_, ?_⟩
  · rw [viewer.draw_eq width height (.after earlier) (.after others)]
  · rw [PaneState.after_concat, PaneState.draw_eq_left]
  · intro events k
    rw [Screen.sequence_eq_map width height (.after earlier) (.after others), List.getElem?_map,
      Session.getElem?_drawn]
    by_cases hk : k ≤ events.length
    · rw [if_pos hk, if_pos hk]
    · rw [if_neg hk, if_neg hk]
      rfl

/-- A viewer with one cell on the screen, which is selected. -/
def oneCell : Viewer where
  name := ""
  table := { source := .grid 1 1 }
  numbers := {}
  window := { columns := [⟨"", 1, .number, [""]⟩], rowCount := 1 }

/-- A pane that is not told anything shows what was left in it. -/
example : (TablePane.draw 1 2 oneCell.window.columns (.after [⟨oneCell, 1, 3⟩])).1 ≠
    (TablePane.draw 1 2 oneCell.window.columns (.after [])).1 := by decide

end Viewer

end AttributeBrowser
