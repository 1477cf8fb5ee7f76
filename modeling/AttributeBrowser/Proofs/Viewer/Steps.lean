import AttributeBrowser.Proofs.Table.RowNumbers
import AttributeBrowser.Proofs.Viewer.Rows

/-!
# What a message can do to a viewer

`refresh_eq_ok_iff` and `scrollToCursor_while_induct` say what showing the window and
scrolling to the cursor column do, and `Step` lists everything that an answered
message can do, with the conditions under which it does it. What holds of runs is
drawn from `Step.of_update` and `run_induct`, without opening `update` again.
-/

namespace AttributeBrowser

/-- The message says which row to go to. -/
def Message.IsVertical : Message → Prop
  | .moveUp _ | .moveDown _ | .pageUp | .pageDown | .moveBeginning | .moveEnd => True
  | .quit | .moveLeft | .moveRight | .followLink | .copyCell | .resize _ _ => False

namespace Viewer

variable {viewer next : Viewer}

/-! ## Showing the window -/

/-- The number of rows that are shown: those of the window that the table has. -/
def shownRows (viewer : Viewer) : Nat :=
  min (viewer.offsetRow + viewer.height) viewer.table.rowCount - viewer.offsetRow

/-- The rows that are shown. -/
def rowsShown (viewer : Viewer) : List Nat := List.range' viewer.offsetRow viewer.shownRows

theorem lt_of_mem_rowsShown {row : Nat} (h : row ∈ viewer.rowsShown) :
    row < viewer.table.source.rowCount := by
  obtain ⟨hlo, hhi⟩ := List.mem_range'_1.mp h
  simp only [shownRows, TableView.rowCount] at hhi
  omega

/-- The viewer that shows these columns. -/
def showing (viewer : Viewer) (shown : List Nat) (columns : List ShownColumn) (table : TableView) :
    Viewer :=
  { viewer with
    shown
    table
    window :=
      { name := viewer.name
        columns
        rowCount := viewer.table.rowCount
        selectedRow := viewer.cursorRow
        selectedColumn := (shown.idxOf? viewer.cursorColumn).getD 0
        absoluteRow := viewer.offsetRow + viewer.cursorRow
        message := viewer.window.message } }

/-- Showing the window anew is answered exactly if the columns can be laid out, the
rows of the window and of the cursor are counts, and every cell can be read. -/
theorem refresh_eq_ok_iff : viewer.refresh = .ok next ↔
    ∃ shown columns table,
      layout viewer.table viewer.width viewer.offsetColumn = .ok shown ∧
      viewer.offsetRow + viewer.height < Size.limit ∧
      showColumns viewer.numbers viewer.rowsShown shown viewer.table = .ok (columns, table) ∧
      viewer.offsetRow + viewer.cursorRow < Size.limit ∧
      next = viewer.showing shown columns table := by
  simp only [refresh, windowRows, selectedRow, bind_eq_ok_iff, Size.add_eq_ok_iff, Prod.exists]
  constructor
  · rintro ⟨shown, hshown, rows, ⟨bottom, ⟨hbottom, rfl⟩, hrows⟩, columns, table, hcolumns,
      absolute, ⟨habsolute, rfl⟩, hnext⟩
    cases hrows
    cases hnext
    exact ⟨shown, columns, table, hshown, hbottom, hcolumns, habsolute, rfl⟩
  · rintro ⟨shown, columns, table, hshown, hbottom, hcolumns, habsolute, rfl⟩
    exact ⟨shown, hshown, _, ⟨_, ⟨hbottom, rfl⟩, rfl⟩, columns, table, hcolumns, _,
      ⟨habsolute, rfl⟩, rfl⟩

/-- What showing the window leaves as it was: all but the columns shown, the memo and
the window itself. -/
structure SamePlace (viewer next : Viewer) : Prop where
  status : next.status = viewer.status
  name : next.name = viewer.name
  numbers : next.numbers = viewer.numbers
  rows : next.rowWindow = viewer.rowWindow
  cursorColumn : next.cursorColumn = viewer.cursorColumn
  width : next.width = viewer.width
  clipboard : next.clipboard = viewer.clipboard
  followed : next.followed = viewer.followed

theorem SamePlace.refl (viewer : Viewer) : SamePlace viewer viewer :=
  ⟨rfl, rfl, rfl, rfl, rfl, rfl, rfl, rfl⟩

theorem SamePlace.trans {first second third : Viewer} (h : SamePlace first second)
    (h' : SamePlace second third) : SamePlace first third :=
  ⟨h'.status.trans h.status, h'.name.trans h.name, h'.numbers.trans h.numbers,
    h'.rows.trans h.rows, h'.cursorColumn.trans h.cursorColumn, h'.width.trans h.width,
    h'.clipboard.trans h.clipboard, h'.followed.trans h.followed⟩

theorem samePlace_refresh (h : viewer.refresh = .ok next) : SamePlace viewer next := by
  obtain ⟨shown, columns, table, -, -, -, -, rfl⟩ := refresh_eq_ok_iff.mp h
  exact ⟨rfl, rfl, rfl, rfl, rfl, rfl, rfl, rfl⟩

theorem bottom_lt_of_refresh (h : viewer.refresh = .ok next) :
    viewer.offsetRow + viewer.height < Size.limit := by
  obtain ⟨-, -, -, -, hbottom, -⟩ := refresh_eq_ok_iff.mp h
  exact hbottom

theorem columnCount_eq_ok_iff {table : TableView} {count : Nat} :
    table.columnCount = .ok count ↔
      table.source.columnCount + 1 < Size.limit ∧ count = table.source.columnCount + 1 :=
  Size.add_eq_ok_iff

/-- The cursor column is one of the table, and is not shown. -/
def CursorHidden (viewer : Viewer) : Prop :=
  viewer.cursorColumn ≤ viewer.table.source.columnCount ∧ viewer.cursorColumn ∉ viewer.shown

theorem scrollToCursor_of_not_hidden (hcount : viewer.table.source.columnCount + 1 < Size.limit)
    (hshown : ¬viewer.CursorHidden) : viewer.scrollToCursor = .ok viewer := by
  rw [scrollToCursor]
  refine bind_eq_ok_iff.mpr ⟨_, columnCount_eq_ok_iff.mpr ⟨hcount, rfl⟩, if_neg ?_⟩
  rintro ⟨hcolumn, hmem⟩
  exact hshown ⟨Nat.le_of_lt_succ hcolumn, hmem⟩

theorem scrollToCursor_of_hidden {middle : Viewer}
    (hcount : viewer.table.source.columnCount + 1 < Size.limit) (hhidden : viewer.CursorHidden)
    (hlimit : viewer.offsetColumn + 1 < Size.limit)
    (hshow : Viewer.refresh { viewer with offsetColumn := viewer.offsetColumn + 1 } = .ok middle)
    (h : middle.scrollToCursor = .ok next) : viewer.scrollToCursor = .ok next := by
  obtain ⟨hcolumn, hmem⟩ := hhidden
  rw [scrollToCursor]
  refine bind_eq_ok_iff.mpr ⟨_, columnCount_eq_ok_iff.mpr ⟨hcount, rfl⟩, ?_⟩
  rw [if_pos ⟨Nat.lt_succ_of_le hcolumn, hmem⟩, if_pos hlimit]
  split
  · rename_i heq
    rw [hshow] at heq
    cases heq
  · rename_i heq
    rw [hshow] at heq
    cases heq
    exact h

/-- **Scrolling to the cursor column** keeps what every pass keeps and ends with the cursor
column shown: a pass is made while it is hidden, moves the window one column to the right
and shows it anew. -/
theorem scrollToCursor_while_induct {P : Viewer → Prop}
    (hpass : ∀ viewer next : Viewer, P viewer → viewer.CursorHidden →
      Viewer.refresh { viewer with offsetColumn := viewer.offsetColumn + 1 } = .ok next → P next)
    (h : viewer.scrollToCursor = .ok next) (hstart : P viewer) : P next ∧ ¬next.CursorHidden := by
  induction viewer using scrollToCursor.induct with
  | case1 viewer ih =>
    rw [scrollToCursor] at h
    obtain ⟨count, hcount, h⟩ := bind_eq_ok_iff.mp h
    obtain ⟨-, rfl⟩ := columnCount_eq_ok_iff.mp hcount
    split at h
    · rename_i hhidden
      split at h
      · rename_i hlimit
        split at h
        · cases h
        · rename_i middle hshow
          have hstill : viewer.CursorHidden := ⟨Nat.le_of_lt_succ hhidden.1, hhidden.2⟩
          exact ih (viewer.table.source.columnCount + 1) hlimit middle hshow h
            (hpass viewer middle hstart hstill hshow)
      · cases h
    · rename_i hshown
      cases h
      exact ⟨hstart, fun hhidden => hshown ⟨Nat.lt_succ_of_le hhidden.1, hhidden.2⟩⟩

theorem scrollToCursor_induct {P : Viewer → Prop}
    (hpass : ∀ viewer next : Viewer, P viewer →
      Viewer.refresh { viewer with offsetColumn := viewer.offsetColumn + 1 } = .ok next → P next)
    (h : viewer.scrollToCursor = .ok next) (hstart : P viewer) : P next :=
  (scrollToCursor_while_induct (fun viewer next hP _ => hpass viewer next hP) h hstart).1

theorem samePlace_scrollToCursor (h : viewer.scrollToCursor = .ok next) :
    SamePlace viewer next := by
  refine scrollToCursor_induct (P := SamePlace viewer) ?_ h (.refl viewer)
  intro middle last hplace hshow
  have hlast := samePlace_refresh hshow
  exact hplace.trans ⟨hlast.status, hlast.name, hlast.numbers, hlast.rows, hlast.cursorColumn,
    hlast.width, hlast.clipboard, hlast.followed⟩

/-! ## The handlers

Each handler of a message is told by the rows it goes to and the window shown there. Of
its own checks only those are left that the window does not make again. -/

/-- A move up needs the row of the cursor to be a count. -/
theorem moveUp_eq_ok_iff {rows : Nat} : viewer.moveUp rows = .ok next ↔
    viewer.rowWindow.selected < Size.limit ∧
      (viewer.withRows (viewer.rowWindow.moveUp rows)).refresh = .ok next := by
  simp only [moveUp, selectedRow, bind_eq_ok_iff, Size.add_eq_ok_iff, and_assoc,
    exists_and_left, exists_eq_left]
  refine and_congr_right fun _ => ?_
  split
  · rename_i htarget
    rw [Size.sub_of_le htarget, show viewer.rowWindow.moveUp rows = ⟨viewer.offsetRow,
      viewer.offsetRow + viewer.cursorRow - rows - viewer.offsetRow, viewer.height⟩ from by
      simp only [RowWindow.moveUp, RowWindow.selected, rowWindow, Nat.min_eq_left htarget]]
    rfl
  · rename_i htarget
    rw [show viewer.rowWindow.moveUp rows =
      ⟨viewer.offsetRow + viewer.cursorRow - rows, 0, viewer.height⟩ from by
      simp only [RowWindow.moveUp, RowWindow.selected, rowWindow, RowWindow.mk.injEq, and_true]
      omega]
    rfl

/-- There is no row to go to; it is looked for if the window has rows. -/
theorem moveDown_eq_ok_iff_of_not_canMoveDown {rows : Nat}
    (h : ¬viewer.rowWindow.CanMoveDown viewer.table.rowCount) :
    viewer.moveDown rows = .ok next ↔
      (0 < viewer.height → viewer.rowWindow.selected + 1 < Size.limit) ∧ next = viewer := by
  simp only [moveDown]
  split
  · rename_i hheight
    simp [hheight, pure, Except.pure, eq_comm]
  · rename_i hheight
    have hlast : viewer.table.rowCount ≤ viewer.offsetRow + viewer.cursorRow + 1 :=
      Nat.le_of_not_lt fun hlt => h ⟨Nat.pos_of_ne_zero hheight, hlt⟩
    simp only [selectedRow, bind_eq_ok_iff, Size.add_eq_ok_iff, and_assoc, exists_and_left,
      exists_eq_left, if_pos hlast]
    constructor
    · rintro ⟨-, hbelow, hnext⟩
      cases hnext
      exact ⟨fun _ => hbelow, rfl⟩
    · rintro ⟨hbelow, rfl⟩
      have hbelow := hbelow (Nat.pos_of_ne_zero hheight)
      exact ⟨Nat.lt_of_succ_lt hbelow, hbelow, rfl⟩

/-- The row asked for has to be a count, also where it is cut to the last one. -/
theorem moveDown_eq_ok_iff {rows : Nat} (h : viewer.rowWindow.CanMoveDown viewer.table.rowCount) :
    viewer.moveDown rows = .ok next ↔
      viewer.rowWindow.selected + 1 < Size.limit ∧
      viewer.rowWindow.selected + rows < Size.limit ∧
      viewer.offsetRow + viewer.height < Size.limit ∧
      (viewer.withRows (viewer.rowWindow.moveDown viewer.table.rowCount rows)).refresh =
        .ok next := by
  obtain ⟨hheight, hbelow⟩ := h
  have hfirst : 1 ≤ viewer.table.rowCount := Nat.lt_of_le_of_lt (Nat.zero_le _) hbelow
  rw [RowWindow.moveDown_of_canMoveDown ⟨hheight, hbelow⟩]
  simp only [RowWindow.selected, rowWindow] at hheight hbelow ⊢
  simp only [moveDown, if_neg (Nat.ne_of_gt hheight), selectedRow, bind_eq_ok_iff,
    Size.add_eq_ok_iff, and_assoc, exists_and_left, exists_eq_left,
    if_neg (Nat.not_le_of_lt hbelow), Size.sub_of_le hfirst, Except.ok.injEq, exists_eq_left']
  have htarget : viewer.offsetRow ≤ min (viewer.offsetRow + viewer.cursorRow + rows)
      (viewer.table.rowCount - 1) := by omega
  generalize min (viewer.offsetRow + viewer.cursorRow + rows) (viewer.table.rowCount - 1) = target
    at htarget ⊢
  split
  · rename_i hin
    rw [Size.sub_of_le htarget, Nat.max_eq_left (by omega)]
    constructor
    · rintro ⟨-, h⟩
      exact h
    · rintro ⟨hnext, h⟩
      exact ⟨Nat.lt_of_succ_lt hnext, hnext, h⟩
  · -- the target is below the window and becomes its last row
    rename_i hout
    rw [Nat.max_eq_right (by omega),
      show target - (target + 1 - viewer.height) = viewer.height - 1 from by omega]
    simp only [bind_eq_ok_iff, Size.add_eq_ok_iff, Size.sub_eq_ok_iff, and_assoc, exists_and_left,
      exists_eq_left]
    constructor
    · rintro ⟨-, hnext, hrows, hbottom, -, -, -, h⟩
      exact ⟨hnext, hrows, hbottom, h⟩
    · rintro ⟨hnext, hrows, hbottom, h⟩
      have hshown := bottom_lt_of_refresh h
      simp only [withRows] at hshown
      exact ⟨Nat.lt_of_succ_lt hnext, hnext, hrows, hbottom, by omega, by omega, hheight, h⟩

theorem moveEnd_eq : viewer.moveEnd =
    if viewer.table.rowCount = 0 then .ok viewer
    else (viewer.withRows (viewer.rowWindow.moveEnd viewer.table.rowCount)).refresh := by
  simp only [moveEnd]
  split
  · rfl
  · rename_i hrows
    rw [RowWindow.moveEnd, if_neg hrows]
    simp only [rowWindow]
    split
    · rename_i hshort
      rw [Nat.min_eq_left (Nat.le_of_lt hshort), Nat.sub_eq_zero_of_le (Nat.le_of_lt hshort),
        Size.sub_of_le (Nat.one_le_iff_ne_zero.mpr hrows)]
      rfl
    · rename_i hlong
      rw [Nat.min_eq_right (Nat.le_of_not_lt hlong), Size.sub_of_le (Nat.le_of_not_lt hlong)]
      rfl

theorem moveLeft_eq : viewer.moveLeft =
    if viewer.cursorColumn ≤ 1 then .ok viewer
    else Viewer.refresh
      { viewer with
        cursorColumn := viewer.cursorColumn - 1
        offsetColumn := min (viewer.cursorColumn - 1) viewer.offsetColumn } := by
  unfold moveLeft
  split
  · rfl
  · rename_i hcolumn
    rw [Size.sub_of_le (Nat.le_of_not_le hcolumn)]
    rfl

theorem moveRight_eq_ok_iff : viewer.moveRight = .ok next ↔
    viewer.cursorColumn + 1 < Size.limit ∧ viewer.table.source.columnCount + 1 < Size.limit ∧
      if viewer.table.source.columnCount ≤ viewer.cursorColumn then next = viewer
      else ∃ middle,
        Viewer.refresh { viewer with cursorColumn := viewer.cursorColumn + 1 } = .ok middle ∧
          middle.scrollToCursor = .ok next := by
  simp only [moveRight, bind_eq_ok_iff, Size.add_eq_ok_iff, columnCount_eq_ok_iff, and_assoc,
    exists_and_left, exists_eq_left, Nat.add_le_add_iff_right]
  refine and_congr_right fun _ => and_congr_right fun _ => ?_
  split
  · exact ⟨fun h => (Except.ok.inj h).symm, fun h => h ▸ rfl⟩
  · exact bind_eq_ok_iff

/-- The cursor stands on a place of the table. -/
def OnTable (viewer : Viewer) : Prop :=
  viewer.rowWindow.selected < viewer.table.rowCount ∧
    viewer.cursorColumn ≤ viewer.table.source.columnCount

instance : Decidable viewer.OnTable := inferInstanceAs (Decidable (_ ∧ _))

/-- The place of the cursor, if the table has it. -/
theorem selection?_eq_ok_iff {place : Option (Nat × Nat)} : viewer.selection? = .ok place ↔
    viewer.rowWindow.selected < Size.limit ∧
      (viewer.rowWindow.selected < viewer.table.rowCount →
        viewer.table.source.columnCount + 1 < Size.limit) ∧
      place = if viewer.OnTable then some (viewer.rowWindow.selected, viewer.cursorColumn)
        else none := by
  simp only [selection?, selectedRow, bind_eq_ok_iff, Size.add_eq_ok_iff, and_assoc,
    exists_and_left, exists_eq_left]
  refine and_congr_right fun _ => ?_
  split
  · rename_i hrow
    have hout : ¬viewer.OnTable := fun hplace => absurd hplace.1 (Nat.not_lt_of_le hrow)
    rw [if_neg hout]
    simp [rowWindow, RowWindow.selected, Nat.not_lt_of_le hrow, pure, Except.pure, eq_comm]
  · rename_i hrow
    have hrow : viewer.rowWindow.selected < viewer.table.rowCount := Nat.lt_of_not_le hrow
    simp only [bind_eq_ok_iff, columnCount_eq_ok_iff, and_assoc, exists_and_left, exists_eq_left,
      pure, Except.pure, Except.ok.injEq, OnTable, hrow, true_and, forall_const]
    refine and_congr_right fun _ => ?_
    rw [eq_comm]
    split
    · rename_i hcolumn
      rw [if_neg (Nat.not_le_of_lt hcolumn)]
    · rename_i hcolumn
      rw [if_pos (Nat.le_of_lt_succ (Nat.lt_of_not_le hcolumn))]
      rfl

/-- A resized viewer that can be shown at its new place scrolls from there on. -/
theorem resize_of_refresh {width height : Nat} {start : Viewer}
    (hshow : Viewer.refresh
      { viewer.withRows (viewer.rowWindow.resize (height - frameHeight)) with width } =
        .ok start) : viewer.resize width height = start.scrollToCursor := by
  simp only [Viewer.resize]
  split
  · rename_i hbelow
    rw [RowWindow.resize_of_below hbelow] at hshow
    -- the window ends right below the cursor, and its end is a count
    have hbottom := bottom_lt_of_refresh hshow
    simp only [withRows, rowWindow] at hbottom hbelow
    have hnext : viewer.cursorRow + 1 < Size.limit := by omega
    have hhidden : height - frameHeight ≤ viewer.cursorRow + 1 := by omega
    have hoffset : viewer.offsetRow + (viewer.cursorRow + 1 - (height - frameHeight)) <
        Size.limit := by omega
    simp only [Size.add_of_lt hnext, Size.sub_of_le hhidden, Size.add_of_lt hoffset,
      Size.sub_of_le hbelow.1, bind, Except.bind]
    exact congrArg (· >>= Viewer.scrollToCursor) hshow
  · rename_i hfits
    rw [RowWindow.resize_of_not_below hfits] at hshow
    exact congrArg (· >>= Viewer.scrollToCursor) hshow

theorem resize_eq_ok_iff {width height : Nat} : viewer.resize width height = .ok next ↔
    ∃ middle,
      Viewer.refresh { viewer.withRows (viewer.rowWindow.resize (height - frameHeight)) with
        width } = .ok middle ∧ middle.scrollToCursor = .ok next := by
  constructor
  · intro h
    simp only [Viewer.resize] at h
    split at h
    · rename_i hbelow
      rw [show viewer.rowWindow.resize (height - frameHeight) = _ from
        RowWindow.resize_of_below hbelow]
      simp only [bind_eq_ok_iff, Size.add_eq_ok_iff, Size.sub_eq_ok_iff, pure, Except.pure,
        Except.ok.injEq, and_assoc, exists_and_left, exists_eq_left, exists_eq_left'] at h
      obtain ⟨-, -, -, -, h⟩ := h
      exact h
    · rename_i hfits
      rw [show viewer.rowWindow.resize (height - frameHeight) = _ from
        RowWindow.resize_of_not_below hfits]
      exact bind_eq_ok_iff.mp h
  · rintro ⟨middle, hshow, hscroll⟩
    rw [resize_of_refresh hshow]
    exact hscroll

/-! ## One message -/

/-- What the status line says after following a link, or trying to. -/
def followMessage (done : Bool) (followed : List LinkTarget) : String :=
  if done then "Followed link to " ++ (followed.head?.map LinkTarget.text).getD ""
  else "No link in this cell"

/-- **Everything an answered message can do.** -/
inductive Step (viewer : Viewer) : Message → Viewer → Prop
  | quit : Step viewer .quit { viewer with status := .quitting }
  /-- The rows are elsewhere and shown anew. -/
  | rows {message : Message} {next : Viewer} (hmessage : message.IsVertical)
      (hshow : (viewer.withRows
        (viewer.rowWindow.step viewer.table.rowCount message)).refresh = .ok next) :
      Step viewer message next
  /-- There is no row to go to. -/
  | sameRows {message : Message} (hmessage : message.IsVertical)
      (hrows : viewer.rowWindow.step viewer.table.rowCount message = viewer.rowWindow) :
      Step viewer message viewer
  | left {next : Viewer} (hcolumn : 1 < viewer.cursorColumn)
      (hshow : Viewer.refresh
        { viewer with
          cursorColumn := viewer.cursorColumn - 1
          offsetColumn := min (viewer.cursorColumn - 1) viewer.offsetColumn } = .ok next) :
      Step viewer .moveLeft next
  /-- The cursor is in the first column. -/
  | firstColumn (hcolumn : viewer.cursorColumn ≤ 1) : Step viewer .moveLeft viewer
  | right {middle next : Viewer} (hcolumn : viewer.cursorColumn < viewer.table.source.columnCount)
      (hshow : Viewer.refresh { viewer with cursorColumn := viewer.cursorColumn + 1 } = .ok middle)
      (hscroll : middle.scrollToCursor = .ok next) : Step viewer .moveRight next
  /-- The cursor is in the last column. -/
  | lastColumn (hcolumn : viewer.table.source.columnCount ≤ viewer.cursorColumn) :
      Step viewer .moveRight viewer
  | follow {done : Bool} {followed : List LinkTarget} (hplace : viewer.OnTable)
      (hfollow : viewer.table.follow (· :: ·) viewer.rowWindow.selected viewer.cursorColumn
        viewer.followed = .ok (done, followed)) :
      Step viewer .followLink
        (Viewer.say { viewer with followed } (followMessage done followed))
  /-- The text of the cell is given to the clipboard, if there is one. -/
  | copy {cell : Cell} {table : TableView} {outcome : CopyOutcome}
      {clipboard : Option Clipboard} (hplace : viewer.OnTable)
      (hcell : viewer.table.cell viewer.numbers viewer.rowWindow.selected viewer.cursorColumn =
        (.ok cell, table))
      (hcopy : Clipboard.copy cell.display viewer.clipboard = (outcome, clipboard)) :
      Step viewer .copyCell (Viewer.say { viewer with table, clipboard } outcome.message)
  /-- There is nothing under the cursor. -/
  | noPlace {message : Message} (hplace : ¬viewer.OnTable)
      (hmessage : message = .followLink ∨ message = .copyCell) : Step viewer message viewer
  | resize {width height : Nat} {middle next : Viewer}
      (hshow : Viewer.refresh
        { viewer.withRows (viewer.rowWindow.resize (height - frameHeight)) with width } =
          .ok middle)
      (hscroll : middle.scrollToCursor = .ok next) : Step viewer (.resize width height) next

theorem Step.of_moveUp {message : Message} {rows : Nat} (hmessage : message.IsVertical)
    (hrows : viewer.rowWindow.step viewer.table.rowCount message = viewer.rowWindow.moveUp rows)
    (h : viewer.moveUp rows = .ok next) : Step viewer message next := by
  obtain ⟨-, hshow⟩ := moveUp_eq_ok_iff.mp h
  rw [← hrows] at hshow
  exact .rows hmessage hshow

theorem Step.of_moveDown {message : Message} {rows : Nat} (hmessage : message.IsVertical)
    (hrows : viewer.rowWindow.step viewer.table.rowCount message =
      viewer.rowWindow.moveDown viewer.table.rowCount rows)
    (h : viewer.moveDown rows = .ok next) : Step viewer message next := by
  by_cases hmoves : viewer.rowWindow.CanMoveDown viewer.table.rowCount
  · obtain ⟨-, -, -, hshow⟩ := (moveDown_eq_ok_iff hmoves).mp h
    rw [← hrows] at hshow
    exact .rows hmessage hshow
  · obtain ⟨-, rfl⟩ := (moveDown_eq_ok_iff_of_not_canMoveDown hmoves).mp h
    exact .sameRows hmessage (hrows.trans (RowWindow.moveDown_of_not_canMoveDown hmoves rows))

theorem Step.of_moveEnd (h : viewer.moveEnd = .ok next) : Step viewer .moveEnd next := by
  rw [moveEnd_eq] at h
  split at h
  · rename_i hempty
    cases h
    exact .sameRows trivial (if_pos hempty)
  · exact .rows trivial h

theorem Step.of_moveLeft (h : viewer.moveLeft = .ok next) : Step viewer .moveLeft next := by
  rw [moveLeft_eq] at h
  split at h
  · rename_i hcolumn
    cases h
    exact .firstColumn hcolumn
  · rename_i hcolumn
    exact .left (Nat.lt_of_not_le hcolumn) h

theorem Step.of_moveRight (h : viewer.moveRight = .ok next) : Step viewer .moveRight next := by
  obtain ⟨-, -, h⟩ := moveRight_eq_ok_iff.mp h
  split at h
  · rename_i hcolumn
    cases h
    exact .lastColumn hcolumn
  · rename_i hcolumn
    obtain ⟨middle, hshow, hscroll⟩ := h
    exact .right (Nat.lt_of_not_le hcolumn) hshow hscroll

theorem Step.of_followLink (h : viewer.followLink = .ok next) : Step viewer .followLink next := by
  obtain ⟨place, hselection, h⟩ := bind_eq_ok_iff.mp h
  obtain ⟨-, -, rfl⟩ := selection?_eq_ok_iff.mp hselection
  by_cases hplace : viewer.OnTable
  · rw [if_pos hplace] at h
    obtain ⟨⟨done, followed⟩, hfollow, h⟩ := bind_eq_ok_iff.mp h
    have hstep : Step viewer .followLink _ := .follow hplace hfollow
    cases done <;> cases h <;> exact hstep
  · rw [if_neg hplace] at h
    cases h
    exact .noPlace hplace (.inl rfl)

theorem Step.of_copyCell (h : viewer.copyCell = .ok next) : Step viewer .copyCell next := by
  obtain ⟨place, hselection, h⟩ := bind_eq_ok_iff.mp h
  obtain ⟨-, -, rfl⟩ := selection?_eq_ok_iff.mp hselection
  by_cases hplace : viewer.OnTable
  · simp only [if_pos hplace] at h
    split at h
    · cases h
    · rename_i cell table hcell
      cases h
      exact .copy hplace hcell rfl
  · rw [if_neg hplace] at h
    cases h
    exact .noPlace hplace (.inr rfl)

theorem Step.of_resize {width height : Nat} (h : viewer.resize width height = .ok next) :
    Step viewer (.resize width height) next := by
  obtain ⟨middle, hshow, hscroll⟩ := resize_eq_ok_iff.mp h
  exact .resize hshow hscroll

theorem Step.of_update {message : Message} (h : viewer.update message = .ok next) :
    Step viewer message next := by
  cases message with
  | quit =>
    cases h
    exact .quit
  | moveUp rows => exact .of_moveUp trivial rfl h
  | pageUp => exact .of_moveUp trivial rfl h
  | moveDown rows => exact .of_moveDown trivial rfl h
  | pageDown => exact .of_moveDown trivial rfl h
  | moveBeginning => exact .rows trivial h
  | moveEnd => exact .of_moveEnd h
  | moveLeft => exact .of_moveLeft h
  | moveRight => exact .of_moveRight h
  | followLink => exact .of_followLink h
  | copyCell => exact .of_copyCell h
  | resize width height => exact .of_resize h

/-- Resizing shows the window anew at its new place, and then the cursor column. -/
theorem Step.exists_of_resize {width height : Nat} (h : Step viewer (.resize width height) next) :
    ∃ middle,
      Viewer.refresh { viewer.withRows (viewer.rowWindow.resize (height - frameHeight)) with
        width } = .ok middle ∧ middle.scrollToCursor = .ok next := by
  cases h with
  | rows hmessage _ => exact absurd hmessage id
  | sameRows hmessage _ => exact absurd hmessage id
  | noPlace _ hmessage => rcases hmessage with hmessage | hmessage <;> cases hmessage
  | resize hshow hscroll => exact ⟨_, hshow, hscroll⟩

/-- **The rows go where the message says**, and nothing else moves them. -/
theorem Step.rowWindow {message : Message} (h : Step viewer message next) :
    next.rowWindow = viewer.rowWindow.step viewer.table.rowCount message := by
  cases h with
  | quit => rfl
  | rows _ hshow => exact (samePlace_refresh hshow).rows
  | sameRows _ hrows => exact hrows.symm
  | left _ hshow => exact (samePlace_refresh hshow).rows
  | firstColumn _ => rfl
  | right _ hshow hscroll =>
    exact (samePlace_scrollToCursor hscroll).rows.trans (samePlace_refresh hshow).rows
  | lastColumn _ => rfl
  | follow _ _ => rfl
  | copy _ _ _ => rfl
  | noPlace _ hmessage => rcases hmessage with rfl | rfl <;> rfl
  | resize hshow hscroll =>
    exact (samePlace_scrollToCursor hscroll).rows.trans (samePlace_refresh hshow).rows

/-! ## Runs -/

theorem run_concat (viewer : Viewer) (messages : List Message) (message : Message) :
    viewer.run (messages ++ [message]) = viewer.run messages >>= (·.update message) := by
  induction messages generalizing viewer with
  | nil =>
    simp only [List.nil_append, run]
    show _ = viewer.update message
    cases viewer.update message <;> rfl
  | cons first rest ih =>
    simp only [List.cons_append, run]
    cases viewer.update first with
    | error fault => rfl
    | ok middle => exact ih middle

/-- What holds at first and is kept by every answered message holds after a run. -/
theorem run_induct {P : List Message → Viewer → Prop} {first : Viewer} (hstart : P [] first)
    (hstep : ∀ (messages : List Message) (viewer next : Viewer) (message : Message),
      P messages viewer → Step viewer message next → P (messages ++ [message]) next)
    {messages : List Message} (h : first.run messages = .ok viewer) : P messages viewer := by
  -- from the right: the viewer that `P` speaks of is the one the last message leaves
  induction messages using List.reverseRecOn generalizing viewer with
  | nil =>
    cases h
    exact hstart
  | append_singleton messages message ih =>
    rw [run_concat] at h
    obtain ⟨middle, hrun, hlast⟩ := bind_eq_ok_iff.mp h
    exact hstep messages middle viewer message (ih hrun) (.of_update hlast)

/-- A viewer that does not know its screen yet. -/
def unshown (name : String) (clipboard : Option Clipboard) (source : Source)
    (numbers : RowNumbers) : Viewer :=
  { name, clipboard, table := { source }, numbers }

/-- A viewer of a source on a screen of a size, after some messages. The row numbers are
shared with other tables, which may have made requests before. -/
def browse (name : String) (clipboard : Option Clipboard) (source : Source) (earlier : List Nat)
    (width height : Nat) (messages : List Message) : Except Fault Viewer := do
  let (table, numbers) ← TableView.openOn source (RowNumbers.after earlier)
  let viewer ← init name table numbers width height clipboard
  viewer.run messages

/-- What a viewer says when it has just learnt its screen. -/
def greeting (table : TableView) : String :=
  table.rowCount.repr ++ " rows, " ++ table.source.columnCount.repr ++ " columns"

/-- A viewer of a source is answered exactly if there is room for the row numbers, the
columns of the table are a count, and it can be resized to its screen. -/
theorem browse_eq_ok_iff {name : String} {clipboard : Option Clipboard} {source : Source}
    {earlier : List Nat} {width height : Nat} {messages : List Message} :
    browse name clipboard source earlier width height messages = .ok viewer ↔
      ∃ numbers sized, (RowNumbers.after earlier).ensure source.rowCount = .ok numbers ∧
        (unshown name clipboard source numbers).resize width height = .ok sized ∧
        sized.table.source.columnCount + 1 < Size.limit ∧
        (sized.say (greeting sized.table)).run messages = .ok viewer := by
  simp only [browse, TableView.openOn, init, bind_eq_ok_iff, columnCount_eq_ok_iff,
    Size.sub_eq_ok_iff, Prod.exists]
  constructor
  · rintro ⟨table, numbers, hopen, first, ⟨sized, hresize, _, ⟨hcount, rfl⟩, _, ⟨-, rfl⟩,
      hfirst⟩, hrun⟩
    split at hopen
    · cases hopen
    · rename_i hensure
      cases hopen
      cases hfirst
      exact ⟨numbers, sized, hensure, hresize, hcount, hrun⟩
  · rintro ⟨numbers, sized, hensure, hresize, hcount, hrun⟩
    rw [hensure]
    exact ⟨_, _, rfl, _, ⟨sized, hresize, _, ⟨hcount, rfl⟩, _, ⟨Nat.le_add_left 1 _, rfl⟩, rfl⟩,
      hrun⟩

/-- What holds of every viewer that has just learnt its screen, and is kept by every
answered message, holds of every viewer after every run. -/
theorem browse_induct {P : List Message → Viewer → Prop} {name : String}
    {clipboard : Option Clipboard} {source : Source} {earlier : List Nat} {width height : Nat}
    (hstart : ∀ (numbers : RowNumbers) (first : Viewer) (message : String),
      numbers.Counting → source.rowCount ≤ numbers.size →
      Step (unshown name clipboard source numbers) (.resize width height) first →
      P [] (first.say message))
    (hstep : ∀ (messages : List Message) (viewer next : Viewer) (message : Message),
      P messages viewer → Step viewer message next → P (messages ++ [message]) next)
    {messages : List Message}
    (h : browse name clipboard source earlier width height messages = .ok viewer) :
    P messages viewer := by
  obtain ⟨numbers, sized, hensure, hresize, -, hrun⟩ := browse_eq_ok_iff.mp h
  refine run_induct (hstart numbers sized _ ((RowNumbers.Counting.after earlier).ensure hensure) ?_
    (.of_resize hresize)) hstep hrun
  rw [RowNumbers.size_ensure hensure]
  exact Nat.le_max_right _ _

end Viewer

end AttributeBrowser
