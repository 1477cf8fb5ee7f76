import AttributeBrowser.Proofs.Screen.RowLines
import AttributeBrowser.Proofs.Screen.StatusTexts
import AttributeBrowser.Proofs.Viewer.Selection

/-!
# The window on the screen

A viewer takes two lines of its screen for other things than rows, and the screen is laid
out in lines by others: the status line takes the last one and the pane of the table the
rest, with the column names in its first line. Both agree on every screen of the size that
the viewer was told last: the rows of the window fit in the pane, which therefore does not
scroll, and each stands where the window has it (`Shown`).
-/

namespace AttributeBrowser

/-! ## The height of the screen -/

/-- The height of the screen, once a message has come. -/
def Message.screenHeight (height : Nat) : Message → Nat
  | .resize _ height => height
  | _ => height

/-- The height of a screen that had this one at first, after some messages. -/
def screenHeight (height : Nat) (messages : List Message) : Nat :=
  messages.foldl Message.screenHeight height

theorem screenHeight_concat (height : Nat) (messages : List Message) (message : Message) :
    screenHeight height (messages ++ [message]) =
      message.screenHeight (screenHeight height messages) := by
  simp only [screenHeight, List.foldl_append, List.foldl_cons, List.foldl_nil]

/-- The rows that fit are told by the screen as it is now. -/
theorem bodyHeight_eq (height : Nat) (messages : List Message) :
    bodyHeight height messages = screenHeight height messages - Viewer.frameHeight := by
  induction messages using List.reverseRecOn with
  | nil => rfl
  | append_singleton messages message ih =>
    rw [bodyHeight_concat, screenHeight_concat]
    cases message with
    | resize width height => rfl
    | _ => exact ih

namespace TablePane

/-! ## What a pane draws -/

/-- The number of rows that columns hand to a pane. -/
def rowCount (columns : List ShownColumn) : Nat := (columns.head?.map (·.texts.length)).getD 0

/-- A pane without squares draws no line, and neither would its lines have any. -/
theorem rowLine_zero (columns : List ShownColumn) (selectedRow : Nat)
    (selectedColumn : Option Nat) (index : Nat) :
    rowLine 0 columns selectedRow selectedColumn index = [] :=
  List.eq_nil_of_length_eq_zero (length_of_unstyled (unstyled_rowLine 0 columns _ _ index))

variable {width height room selected : Nat} {columns : List ShownColumn} {state : PaneState}

theorem length_draw (width height : Nat) (columns : List ShownColumn) (state : PaneState) :
    (draw width height columns state).1.length = height := by
  unfold draw
  split
  · exact List.length_replicate
  · rename_i hsize
    simp only
    split
    · simp only [List.length_cons, List.length_replicate]
      omega
    · simp only [List.length_cons, List.length_append, List.length_map, List.length_range',
        List.length_replicate]
      omega

/-- A pane without rows does not scroll. -/
theorem offset_draw_of_empty (hrows : rowCount columns = 0) :
    (draw width height columns state).2.offset = state.offset := by
  unfold draw
  split
  · rfl
  · simp only [if_pos (show (columns.head?.map (·.texts.length)).getD 0 = 0 from hrows)]

/-- A pane that starts at the first row scrolls as far as the selected row is out of sight. -/
theorem firstRow_of_top {rows : Nat} (hoffset : state.offset = 0)
    (hselected : state.selectedRow = some selected) :
    firstRow rows room state = selected + 1 - room := by
  simp only [firstRow, hoffset, hselected, Nat.zero_min, Nat.zero_add]
  by_cases hroom : selected < room
  · rw [if_pos hroom]
    omega
  · rw [if_neg hroom]

theorem clamp_of_lt {count : Nat} (h : selected < count) :
    clamp count (some selected) = some selected := by
  rw [clamp, if_neg (by omega), Option.map_some, Nat.min_eq_left (by omega)]

/-- **Rows that fit are drawn in their order**, below the line of the column names. -/
theorem draw_of_fits (width : Nat) (state : PaneState) (hoffset : state.offset = 0)
    (hselected : state.selectedRow = some selected)
    (hlt : selected < rowCount columns) (hfits : rowCount columns ≤ room) :
    (draw width (room + 1) columns state).2.offset = 0 ∧
      ∀ index < rowCount columns, (draw width (room + 1) columns state).1[1 + index]? =
        some (rowLine width columns selected (clamp columns.length state.selectedColumn)
          index) := by
  rcases Nat.eq_zero_or_pos width with rfl | hwidth
  · refine ⟨hoffset, fun index hindex => ?_⟩
    rw [rowLine_zero]
    exact List.getElem?_replicate_of_lt (by omega)
  · have hsize : ¬(width = 0 ∨ room + 1 = 0) := by omega
    have hrows : rowCount columns ≠ 0 := by omega
    rw [draw, if_neg hsize]
    simp only [show (columns.head?.map (·.texts.length)).getD 0 = rowCount columns from rfl,
      if_neg hrows, hselected, clamp_of_lt hlt, Nat.add_sub_cancel]
    have hfirst : firstRow (rowCount columns) room
        ⟨state.offset, some selected, clamp columns.length state.selectedColumn⟩ =
          selected + 1 - room := firstRow_of_top hoffset rfl
    have hinside : selected + 1 - room = 0 := by omega
    rw [hfirst, hinside, Nat.sub_zero, Nat.min_eq_right hfits]
    refine ⟨rfl, fun index hindex => ?_⟩
    rw [Nat.add_comm 1 index, List.cons_append, List.getElem?_cons_succ,
      List.getElem?_append_left (by rwa [List.length_map, List.length_range']), List.getElem?_map,
      List.getElem?_range' hindex, Option.map_some]
    simp only [rowLine, Option.some.injEq, Nat.zero_add, Nat.one_mul, eq_comm]

end TablePane

/-! ## The screen of a viewer -/

namespace Viewer

variable {viewer : Viewer} {source : Source}

/-- The screen has the status line at its end, and all rows of the window one after the other
below the line of the column names, each with the texts that the window has for it. If it has
lines for rows, the selected row is one of them, above the status line; it alone is bold, with
its selected cell reversed. The status line reads as the name, the position of the cursor, the
message and the keys, as far as they fit: the position is there behind the name on every screen
that is wide enough for both. -/
structure Shown (viewer : Viewer) (width height : Nat) (screen : Screen) : Prop where
  lineCount : screen.lines.length = height
  status : 0 < height → screen.lines[height - 1]? = some (StatusLine.line width viewer.window)
  fits : TablePane.rowCount viewer.window.columns ≤ height - frameHeight
  rows : ∀ index < TablePane.rowCount viewer.window.columns, screen.lines[1 + index]? =
    some (TablePane.rowLine width viewer.window.columns viewer.window.selectedRow
      (some viewer.window.selectedColumn) index)
  texts : ∀ index < TablePane.rowCount viewer.window.columns, ∃ line,
    screen.lines[1 + index]? = some line ∧
      TablePane.HoldsRow width viewer.window.columns index line ∧
      TablePane.Marked width viewer.window.columns viewer.window.selectedRow
        (some viewer.window.selectedColumn) index line
  selected : frameHeight < height →
    viewer.window.selectedRow < TablePane.rowCount viewer.window.columns ∧
      1 + viewer.window.selectedRow < height - 1
  reads : 0 < height → ∃ line front back, screen.lines[height - 1]? = some line ∧
    Line.Fits width (StatusLine.graphemes width viewer.window) front back ∧
      Line.text line = String.join (front.map (·.1)) ++ Line.spaces (width - Line.places front)
  position : 0 < height → Line.places (Grapheme.drawn (" " ++ viewer.window.name ++ " ")) +
      (" " ++ StatusLine.position viewer.window ++ " ").length ≤ width →
    ∃ line rest, screen.lines[height - 1]? = some line ∧
      Line.text line = Grapheme.seen (" " ++ viewer.window.name ++ " ") ++
        (" " ++ StatusLine.position viewer.window ++ " ") ++ rest

theorem Exact.rowCount_columns (h : Exact source viewer) :
    TablePane.rowCount viewer.window.columns = viewer.shownRows := by
  obtain ⟨numbers, others, hcolumns, -, -⟩ := h.exists_numbers
  have hlength := h.length_texts numbers (by rw [hcolumns]; exact List.mem_cons_self)
  rw [TablePane.rowCount, hcolumns]
  exact hlength

/-- The selected column is one of those shown. -/
theorem Exact.selectedColumn_lt (h : Exact source viewer) :
    viewer.window.selectedColumn < viewer.window.columns.length := by
  obtain ⟨others, hothers⟩ := h.numbersFirst
  rw [h.selectedColumn, ← h.columns.length_eq]
  cases hat : viewer.shown.idxOf? viewer.cursorColumn with
  | none =>
    rw [hothers]
    exact Nat.succ_pos _
  | some place => exact (List.idxOf?_eq_some_iff.mp hat).1

/-- The state in which the pane of a viewer is drawn. -/
def pane (viewer : Viewer) (state : PaneState) : PaneState :=
  { state with
    selectedRow := some viewer.window.selectedRow
    selectedColumn := some viewer.window.selectedColumn
    offset := 0 }

theorem lines_draw (viewer : Viewer) (width height : Nat) (state : PaneState) :
    (viewer.draw width height state).1.lines =
      (TablePane.draw width (height - 1) viewer.window.columns (viewer.pane state)).1 ++
        if height = 0 then [] else [StatusLine.line width viewer.window] := rfl

theorem offset_draw (viewer : Viewer) (width height : Nat) (state : PaneState) :
    (viewer.draw width height state).2.offset =
      (TablePane.draw width (height - 1) viewer.window.columns (viewer.pane state)).2.offset := rfl

theorem length_lines_draw (viewer : Viewer) (width height : Nat) (state : PaneState) :
    (viewer.draw width height state).1.lines.length = height := by
  rw [lines_draw, List.length_append, TablePane.length_draw]
  split
  · simp only [List.length_nil]
    omega
  · simp only [List.length_singleton]
    omega

/-- The status line is the last one. -/
theorem status_draw (viewer : Viewer) (width : Nat) {height : Nat} (hheight : 0 < height)
    (state : PaneState) : (viewer.draw width height state).1.lines[height - 1]? =
      some (StatusLine.line width viewer.window) := by
  have hlength := TablePane.length_draw width (height - 1) viewer.window.columns (viewer.pane state)
  rw [lines_draw, if_neg (by omega), List.getElem?_append_right (by omega), hlength, Nat.sub_self]
  rfl

/-- A line of the pane is that line of the screen. -/
theorem getElem?_lines_draw (viewer : Viewer) (width height : Nat) (state : PaneState) {index : Nat}
    (hindex : index < height - 1) : (viewer.draw width height state).1.lines[index]? =
      (TablePane.draw width (height - 1) viewer.window.columns (viewer.pane state)).1[index]? := by
  rw [lines_draw, List.getElem?_append_left]
  rwa [TablePane.length_draw]

/-- A viewer that selects a row of its table and knows its screen shows its rows there. -/
theorem Exact.shown_draw (hexact : Exact source viewer) (width : Nat) {height : Nat}
    (hheight : viewer.height = height - frameHeight)
    (hinside : viewer.rowWindow.Inside source.rowCount) (state : PaneState) :
    viewer.Shown width height (viewer.draw width height state).1 ∧
      (viewer.draw width height state).2.offset = 0 := by
  have hcount := hexact.rowCount_columns
  have hrow := hinside.row
  have hcursor := hinside.cursor
  simp only [rowWindow, RowWindow.selected] at hrow hcursor
  rw [shownRows, TableView.rowCount, hexact.table] at hcount
  have hfits : TablePane.rowCount viewer.window.columns ≤ height - frameHeight := by omega
  have hselected : frameHeight < height →
      viewer.window.selectedRow < TablePane.rowCount viewer.window.columns ∧
        1 + viewer.window.selectedRow < height - 1 := by
    intro hroom
    rw [hexact.selectedRow]
    simp only [frameHeight] at *
    omega
  have hstatus : 0 < height → (viewer.draw width height state).1.lines[height - 1]? =
      some (StatusLine.line width viewer.window) :=
    fun hheight => viewer.status_draw width hheight state
  have hdrawn : (∀ index < TablePane.rowCount viewer.window.columns,
      (viewer.draw width height state).1.lines[1 + index]? =
        some (TablePane.rowLine width viewer.window.columns viewer.window.selectedRow
          (some viewer.window.selectedColumn) index)) ∧
      (viewer.draw width height state).2.offset = 0 := by
    by_cases hroom : frameHeight < height
    · obtain ⟨hoffset, hrows⟩ := TablePane.draw_of_fits width (viewer.pane state) rfl rfl
        (hselected hroom).1 hfits
      have hpane : height - frameHeight + 1 = height - 1 := by
        simp only [frameHeight] at hroom ⊢
        omega
      rw [hpane] at hoffset hrows
      refine ⟨fun index hindex => ?_, hoffset⟩
      rw [getElem?_lines_draw _ _ _ _ (by omega), hrows index hindex, pane,
        TablePane.clamp_of_lt hexact.selectedColumn_lt]
    · -- no line is left for rows, and the pane has none
      have hempty : TablePane.rowCount viewer.window.columns = 0 := by omega
      refine ⟨fun index hindex => by omega, ?_⟩
      rw [offset_draw, TablePane.offset_draw_of_empty hempty]
      rfl
  obtain ⟨hrows, hoffset⟩ := hdrawn
  have htexts : ∀ index < TablePane.rowCount viewer.window.columns,
      ∀ column ∈ viewer.window.columns, index < column.texts.length := by
    intro index hindex column hcolumn
    rwa [hexact.length_texts column hcolumn, ← hexact.rowCount_columns]
  refine ⟨⟨viewer.length_lines_draw width height state, hstatus, hfits, hrows,
    fun index hindex => ?_, hselected, fun hheight => ?_, fun hheight hwidth => ?_⟩, hoffset⟩
  · exact ⟨_, hrows index hindex, TablePane.holdsRow_rowLine width _ _ (htexts index hindex),
      TablePane.marked_rowLine width _ _ index⟩
  · obtain ⟨front, back, hfront, hread⟩ := StatusLine.text_line width viewer.window
    exact ⟨_, front, back, hstatus hheight, hfront, hread⟩
  · obtain ⟨rest, hread⟩ := StatusLine.text_line_position hwidth
    exact ⟨_, rest, hstatus hheight, hread⟩

/-- **The height of a viewer and the layout of its screen agree.** Take a viewer after a run
that does not fault, with its cursor on a row of the table, and draw it on a screen of the
size that it was told last, whatever was drawn before. The window has no more rows than the
screen has lines beside the column names and the status line; they stand below each other
from the second line on, with the selected one among them; the pane does not scroll; and the
last line says which dump is shown and where the cursor is. -/
theorem draw_shows_window {name : String} {clipboard : Option Clipboard} {earlier : List Nat}
    {width height : Nat} {messages : List Message}
    (h : browse name clipboard source earlier width height messages = .ok viewer)
    (hrow : viewer.window.absoluteRow < viewer.window.rowCount) (state : PaneState) :
    viewer.Shown (screenWidth width messages) (screenHeight height messages)
      (viewer.draw (screenWidth width messages) (screenHeight height messages) state).1 ∧
    (viewer.draw (screenWidth width messages) (screenHeight height messages) state).2.offset = 0 ∧
    viewer.window.name = name ∧ StatusLine.position viewer.window =
      (viewer.window.absoluteRow + 1).repr ++ "/" ++ source.rowCount.repr := by
  obtain ⟨hs, hc⟩ := current_browse h
  have hexact := hc.exact hs
  have hrows := rowWindow_browse h
  rw [hexact.rowCount] at hrow
  obtain ⟨hbeyond, hinside⟩ :=
    RowWindow.beyond_or_inside_after height (Nat.zero_lt_of_lt hrow) messages
  have hheight : viewer.height = screenHeight height messages - frameHeight := by
    rw [← bodyHeight_eq, ← RowWindow.height_after source.rowCount, ← hrows]
    rfl
  have hnot : ¬Stranded height messages := by
    intro hstranded
    obtain ⟨hoffset, -⟩ := hbeyond hstranded
    rw [hexact.absoluteRow] at hrow
    rw [← hrows] at hoffset
    simp only [rowWindow] at hoffset
    omega
  have hin := hinside hnot
  rw [← hrows] at hin
  obtain ⟨hshown, hoffset⟩ :=
    hexact.shown_draw (screenWidth width messages) hheight hin state
  refine ⟨hshown, hoffset, windowName_browse h, ?_⟩
  rw [StatusLine.position, hexact.rowCount, if_neg (Nat.ne_of_gt (Nat.zero_lt_of_lt hrow))]

/-- The last rows of a table on a screen that has got lower, on a pane that was scrolled. -/
theorem draw_shows_window_lower :
    ∃ viewer, browse "" none (.grid 9 2) [] 80 6 [.moveEnd, .resize 40 5] = .ok viewer ∧
      viewer.window.absoluteRow < viewer.window.rowCount ∧
      viewer.Shown 40 5 (viewer.draw 40 5 { offset := 7, selectedRow := some 8 }).1 ∧
      (viewer.draw 40 5 { offset := 7, selectedRow := some 8 }).2.offset = 0 ∧
      StatusLine.position viewer.window = "9/9" ∧
      ∃ line rest, (viewer.draw 40 5 { offset := 7, selectedRow := some 8 }).1.lines[4]? =
        some line ∧ Line.text line = "   9/9 " ++ rest := by
  have hok : (browse "" none (.grid 9 2) [] 80 6 [.moveEnd, .resize 40 5]).isOk = true := by cbv
  obtain ⟨viewer, h⟩ := exists_eq_ok_of_isOk hok
  obtain ⟨hs, hc⟩ := current_browse h
  have hexact := hc.exact hs
  have habsolute : viewer.window.absoluteRow = 8 := by
    have hselected := congrArg RowWindow.selected (rowWindow_browse h)
    rw [hexact.absoluteRow]
    exact hselected.trans (by decide)
  have hrow : viewer.window.absoluteRow < viewer.window.rowCount := by
    rw [habsolute, hexact.rowCount]
    decide
  obtain ⟨hshown, hoffset, hname, hposition⟩ :=
    draw_shows_window h hrow { offset := 7, selectedRow := some 8 }
  have hlast : StatusLine.position viewer.window = "9/9" := by
    rw [hposition, habsolute]
    decide
  have hstatus := hshown.position (by decide)
  simp only [hlast, hname] at hstatus
  exact ⟨viewer, h, hrow, hshown, hoffset, hlast, hstatus (by decide)⟩

end Viewer

end AttributeBrowser
