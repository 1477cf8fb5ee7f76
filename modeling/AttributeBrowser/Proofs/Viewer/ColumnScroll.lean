import AttributeBrowser.Proofs.Viewer.Progress
import AttributeBrowser.Proofs.Viewer.Ready

/-!
# The column scroll ends

Scrolling to the cursor column is a loop that goes on as long as the cursor column is not
among the columns shown, and these are laid out anew at every pass; no counter ends it. It
ends because the first column of a layout is shown whatever its width: a window that
begins at the cursor column shows it, and no pass moves the window past that place
(`Placed.pass`). So the distance between the two bounds the passes.
-/

namespace AttributeBrowser

namespace Viewer

variable {source : Source} {viewer start middle next : Viewer} {message : Message}

/-! ## Passes -/

/-- Moves the window one column to the right and shows it there. -/
def advance (viewer : Viewer) : Except Fault Viewer :=
  Viewer.refresh { viewer with offsetColumn := viewer.offsetColumn + 1 }

/-- Moves the window so many columns to the right, one after the other. -/
def advanceBy (viewer : Viewer) : Nat → Except Fault Viewer
  | 0 => .ok viewer
  | count + 1 => do
    let next ← viewer.advance
    next.advanceBy count

/-- So many passes are what a viewer needs to show its cursor column: before each of them it
is hidden, and after the last it is not, unless that one faults. -/
structure Needs (viewer : Viewer) (passes : Nat) : Prop where
  hidden : ∀ count < passes, ∃ middle, viewer.advanceBy count = .ok middle ∧ middle.CursorHidden
  shown : ∀ next, viewer.advanceBy passes = .ok next → ¬next.CursorHidden

theorem Needs.zero (h : ¬viewer.CursorHidden) : viewer.Needs 0 where
  hidden count hlt := absurd hlt (Nat.not_lt_zero count)
  shown next hnext := by
    cases hnext
    exact h

theorem Needs.one_of_error {fault : Fault} (hhidden : viewer.CursorHidden)
    (h : viewer.advance = .error fault) : viewer.Needs 1 where
  hidden count hlt := by
    rw [Nat.lt_one_iff.mp hlt]
    exact ⟨viewer, rfl, hhidden⟩
  shown next hnext := by
    simp only [advanceBy, h] at hnext
    cases hnext

theorem Needs.succ {passes : Nat} (hhidden : viewer.CursorHidden)
    (h : viewer.advance = .ok middle) (hneeds : middle.Needs passes) :
    viewer.Needs (passes + 1) where
  hidden count hlt := by
    cases count with
    | zero => exact ⟨viewer, rfl, hhidden⟩
    | succ count =>
      simp only [advanceBy, h]
      exact hneeds.hidden count (Nat.lt_of_succ_lt_succ hlt)
  shown next hnext := by
    simp only [advanceBy, h] at hnext
    exact hneeds.shown next hnext

/-- Passes move the window and nothing else. -/
theorem advanceBy_keeps {passes : Nat} (h : viewer.advanceBy passes = .ok next) :
    SamePlace viewer next ∧ next.offsetColumn = viewer.offsetColumn + passes := by
  induction passes generalizing viewer with
  | zero =>
    cases h
    exact ⟨.refl _, rfl⟩
  | succ passes ih =>
    obtain ⟨middle, hpass, hrest⟩ := bind_eq_ok_iff.mp h
    obtain ⟨hplace, hoffset⟩ := ih hrest
    have hfirst := samePlace_refresh hpass
    have hmoved : SamePlace viewer middle :=
      ⟨hfirst.status, hfirst.name, hfirst.numbers, hfirst.rows, hfirst.cursorColumn, hfirst.width,
        hfirst.clipboard, hfirst.followed⟩
    have hcolumn : middle.offsetColumn = viewer.offsetColumn + 1 := (refresh_offsetColumn hpass :)
    exact ⟨hmoved.trans hplace, by omega⟩

/-! ## The loop -/

theorem counted_of_layout {view : TableView} {width offset : Nat} {shown : List Nat}
    (h : layout view width offset = .ok shown) : view.source.columnCount + 1 < Size.limit := by
  obtain ⟨_, -, h⟩ := bind_eq_ok_iff.mp h
  obtain ⟨count, hcount, -⟩ := bind_eq_ok_iff.mp h
  exact (columnCount_eq_ok_iff.mp hcount).1

/-- The loop with a hidden cursor column makes a pass, whether that is answered or not. -/
theorem scrollToCursor_eq_bind (hcount : viewer.table.source.columnCount + 1 < Size.limit)
    (hhidden : viewer.CursorHidden) (hlimit : viewer.offsetColumn + 1 < Size.limit) :
    viewer.scrollToCursor = viewer.advance >>= Viewer.scrollToCursor := by
  rw [scrollToCursor, columnCount_eq_ok_iff.mpr ⟨hcount, rfl⟩]
  show (if _ then _ else _) = _
  rw [if_pos ⟨Nat.lt_succ_of_le hhidden.1, hhidden.2⟩, if_pos hlimit]
  split
  · rename_i fault hshow
    rw [advance, hshow]
    rfl
  · rename_i middle hshow
    rw [advance, hshow]
    rfl

/-- **The loop makes the passes that are needed**, and these are at most as many as there
are columns from the first one of the window to the cursor. -/
theorem Placed.exists_needs (hp : Placed source viewer) (hs : Sound source viewer)
    (hc : Current viewer) :
    ∃ passes, passes ≤ viewer.cursorColumn - viewer.offsetColumn ∧ viewer.Needs passes ∧
      viewer.scrollToCursor = viewer.advanceBy passes := by
  -- along the passes; each leaves the window at or before the cursor column
  induction viewer using scrollToCursor.induct with
  | case1 viewer ih =>
    have hcount := counted_of_layout hc.layout
    by_cases hhidden : viewer.CursorHidden
    · have hmoved := hp.pass hs hc hhidden
      have hoffset : viewer.offsetColumn + 1 ≤ viewer.cursorColumn := hmoved.offset
      have hlimit : viewer.offsetColumn + 1 < Size.limit := by
        have hcolumn := hhidden.1
        omega
      rw [scrollToCursor_eq_bind hcount hhidden hlimit]
      cases hpass : viewer.advance with
      | error fault =>
        refine ⟨1, by omega, .one_of_error hhidden hpass, ?_⟩
        simp only [advanceBy, hpass]
        rfl
      | ok middle =>
        obtain ⟨hs', hc'⟩ := hs.refresh hpass rfl rfl
        obtain ⟨passes, hle, hneeds, hscroll⟩ :=
          ih 0 hlimit middle hpass (hmoved.refresh hpass) hs' hc'
        have hcursor : middle.cursorColumn = viewer.cursorColumn :=
          (samePlace_refresh hpass).cursorColumn
        have hcolumn : middle.offsetColumn = viewer.offsetColumn + 1 :=
          (refresh_offsetColumn hpass :)
        refine ⟨passes + 1, by omega, hneeds.succ hhidden hpass, ?_⟩
        simp only [advanceBy, hpass]
        exact hscroll
    · exact ⟨0, Nat.zero_le _, .zero hhidden, scrollToCursor_of_not_hidden hcount hhidden⟩

/-! ## The messages that scroll -/

/-- The message moves the cursor or the edges of the screen, shows the window there, and then
scrolls from this viewer on. -/
inductive ScrollsFrom (viewer : Viewer) : Message → Viewer → Prop
  | right {start : Viewer} (hcolumn : viewer.cursorColumn < viewer.table.source.columnCount)
      (hshow : Viewer.refresh { viewer with cursorColumn := viewer.cursorColumn + 1 } =
        .ok start) : ScrollsFrom viewer .moveRight start
  | resize {width height : Nat} {start : Viewer}
      (hshow : Viewer.refresh
        { viewer.withRows (viewer.rowWindow.resize (height - frameHeight)) with width } =
          .ok start) : ScrollsFrom viewer (.resize width height) start

theorem moveRight_of_refresh (hcolumn : viewer.cursorColumn < viewer.table.source.columnCount)
    (hshow : Viewer.refresh { viewer with cursorColumn := viewer.cursorColumn + 1 } = .ok start) :
    viewer.moveRight = start.scrollToCursor := by
  obtain ⟨shown, columns, table, hlayout, -⟩ := refresh_eq_ok_iff.mp hshow
  have hcount : viewer.table.source.columnCount + 1 < Size.limit := counted_of_layout hlayout
  rw [moveRight, Size.add_of_lt (by omega), columnCount_eq_ok_iff.mpr ⟨hcount, rfl⟩]
  show (if _ then _ else _) = _
  rw [if_neg (by omega), hshow]
  rfl

theorem ScrollsFrom.update_eq (h : ScrollsFrom viewer message start) :
    viewer.update message = start.scrollToCursor := by
  cases h with
  | right hcolumn hshow => exact moveRight_of_refresh hcolumn hshow
  | resize hshow => exact resize_of_refresh hshow

/-! ## Every viewer that a run has -/

/-- A viewer that a run can have: one that does not know its screen yet, or one after some
messages. -/
inductive Reached (source : Source) : Viewer → Prop
  | unshown {name : String} {clipboard : Option Clipboard} {earlier : List Nat}
      {numbers : RowNumbers}
      (hensure : (RowNumbers.after earlier).ensure source.rowCount = .ok numbers) :
      Reached source (unshown name clipboard source numbers)
  | browse {name : String} {clipboard : Option Clipboard} {earlier : List Nat} {width height : Nat}
      {messages : List Message} {viewer : Viewer}
      (h : browse name clipboard source earlier width height messages = .ok viewer) :
      Reached source viewer

theorem Reached.sound (h : Reached source viewer) : Sound source viewer := by
  cases h with
  | unshown hensure =>
    refine .unshown _ _ ((RowNumbers.Counting.after _).ensure hensure) ?_
    rw [RowNumbers.size_ensure hensure]
    exact Nat.le_max_right _ _
  | browse h => exact (ready_browse h).sound

theorem Reached.placed (h : Reached source viewer) : Placed source viewer := by
  cases h with
  | unshown _ => exact .unshown _ _ source _
  | browse h => exact (ready_browse h).cursor.toPlaced

theorem Reached.row (h : Reached source viewer) : viewer.rowWindow.selected ≤ source.rowCount := by
  cases h with
  | unshown _ => exact Nat.zero_le _
  | browse h => exact (ready_browse h).row

/-- The loop starts with a viewer that has just been shown, with its cursor placed and on no
other row. -/
theorem ScrollsFrom.starts (h : ScrollsFrom viewer message start) (hs : Sound source viewer)
    (hp : Placed source viewer) :
    Sound source start ∧ Current start ∧ Placed source start ∧
      start.rowWindow.selected = viewer.rowWindow.selected := by
  cases h with
  | right hcolumn hshow =>
    obtain ⟨hs', hc'⟩ := hs.refresh hshow rfl rfl
    obtain ⟨hfirst, hle, -⟩ := hp
    rw [hs.table] at hcolumn
    have hmoved : Placed source { viewer with cursorColumn := viewer.cursorColumn + 1 } :=
      ⟨hfirst, Nat.le_succ_of_le hle, Nat.le_trans hcolumn (Nat.le_max_left _ _)⟩
    have hrows : start.rowWindow = viewer.rowWindow := (samePlace_refresh hshow).rows
    exact ⟨hs', hc', hmoved.refresh hshow, congrArg RowWindow.selected hrows⟩
  | @resize width height _ hshow =>
    obtain ⟨hs', hc'⟩ := hs.refresh hshow rfl rfl
    have hmoved : Placed source
        { viewer.withRows (viewer.rowWindow.resize (height - frameHeight)) with width } :=
      hp.congr rfl rfl
    refine ⟨hs', hc', hmoved.refresh hshow, ?_⟩
    rw [(samePlace_refresh hshow).rows]
    exact RowWindow.selected_resize _ _

/-- The column scroll of a viewer of a source ends with this result after so many passes. -/
structure ScrollEnds (source : Source) (start : Viewer) (passes : Nat)
    (result : Except Fault Viewer) : Prop where
  le : passes ≤ start.cursorColumn - start.offsetColumn
  needs : start.Needs passes
  result_eq : result = start.advanceBy passes
  /-- The first column of the window is a count all the way. -/
  counted : start.offsetColumn + passes < Size.limit
  offsetColumn : ∀ next, result = .ok next → next.offsetColumn = start.offsetColumn + passes
  cursorColumn : ∀ next, result = .ok next → next.cursorColumn = start.cursorColumn
  rows : ∀ next, result = .ok next →
    next.cursorRow = start.cursorRow ∧ next.offsetRow = start.offsetRow
  answers : source.Complete → start.width + Source.widthLimit < Size.limit →
    ∃ next, result = .ok next

/-- **The column scroll ends.** From every viewer that a run can have, whatever its source and
the widths of the columns, a message that scrolls to the cursor column makes as many passes as
are needed, and these are at most as many as there are columns from the first one of the
window to the cursor. No pass moves the window further than a count, and all of them leave the
cursor and the rows where they are. Only showing the window may fault, and with a source that
answers for all that it has even that does not. -/
theorem column_scroll_ends (hreached : Reached source viewer)
    (hscroll : viewer.ScrollsFrom message start) :
    ∃ passes, ScrollEnds source start passes (viewer.update message) := by
  obtain ⟨hs, hc, hp, hrow⟩ := hscroll.starts hreached.sound hreached.placed
  obtain ⟨passes, hle, hneeds, heq⟩ := hp.exists_needs hs hc
  have hkeeps (next : Viewer) (h : start.scrollToCursor = .ok next) :
      SamePlace start next ∧ next.offsetColumn = start.offsetColumn + passes :=
    advanceBy_keeps (heq ▸ h)
  rw [hscroll.update_eq]
  refine ⟨passes, hle, hneeds, heq, ?_, fun next h => (hkeeps next h).2,
    fun next h => (hkeeps next h).1.cursorColumn, fun next h => ?_, fun hcomplete hwidth => ?_⟩
  · -- the cursor column is one of the table, or the first place of a table without columns
    have hcount := counted_of_layout hc.layout
    have hoffset := hp.offset
    have hlast := hp.last
    rw [hs.table] at hcount
    have hroom : 1 + 1 < Size.limit := by decide
    omega
  · have hrows := (hkeeps next h).1.rows
    exact ⟨congrArg RowWindow.cursor hrows, congrArg RowWindow.offset hrows⟩
  · exact hp.exists_scrollToCursor hs hc hcomplete (hrow ▸ hreached.row) hwidth

/-- A screen that gets too narrow for two columns, with the cursor in the third: the first two
are passed. -/
theorem column_scroll_ends_narrowed :
    ∃ viewer start, Reached (.grid 2 3) viewer ∧ viewer.ScrollsFrom (.resize 20 12) start ∧
      ScrollEnds (.grid 2 3) start 2 (viewer.update (.resize 20 12)) := by
  have hpasses : (do
      let viewer ← browse "" none (.grid 2 3) [] 80 12 [.moveRight, .moveRight]
      let start ← Viewer.refresh { viewer.withRows (viewer.rowWindow.resize 10) with width := 20 }
      let middle ← start.advance
      return (start.table.source.columnCount, start.offsetColumn, start.cursorColumn, start.shown,
        middle.table.source.columnCount, middle.shown)) = .ok (3, 1, 3, [0, 1], 3, [0, 2]) := by
    cbv
  obtain ⟨viewer, h, hpasses⟩ := bind_eq_ok_iff.mp hpasses
  obtain ⟨start, hshow, hpasses⟩ := bind_eq_ok_iff.mp hpasses
  obtain ⟨middle, hpass, hpasses⟩ := bind_eq_ok_iff.mp hpasses
  simp only [pure, Except.pure, Except.ok.injEq, Prod.mk.injEq] at hpasses
  obtain ⟨hcount, hoffset, hcursor, hshown, hcount', hshown'⟩ := hpasses
  have hscroll : viewer.ScrollsFrom (.resize 20 12) start := .resize hshow
  obtain ⟨passes, hends⟩ := column_scroll_ends (.browse h) hscroll
  refine ⟨viewer, start, .browse h, hscroll, ?_⟩
  have hcursor' : middle.cursorColumn = start.cursorColumn := (samePlace_refresh hpass).cursorColumn
  have hfirst : start.CursorHidden := by
    rw [CursorHidden, hcount, hcursor, hshown]
    decide
  have hsecond : middle.CursorHidden := by
    rw [CursorHidden, hcount', hcursor', hcursor, hshown']
    decide
  have hzero : passes ≠ 0 := by
    rintro rfl
    exact hends.needs.shown start rfl hfirst
  have hone : passes ≠ 1 := by
    rintro rfl
    exact hends.needs.shown middle (bind_eq_ok_iff.mpr ⟨middle, hpass, rfl⟩) hsecond
  have hle := hends.le
  rw [hcursor, hoffset] at hle
  obtain rfl : passes = 2 := by omega
  exact hends

end Viewer

end AttributeBrowser
