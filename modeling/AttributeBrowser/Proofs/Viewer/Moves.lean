import Mathlib.Algebra.GroupWithZero.Nat
import AttributeBrowser.Proofs.Viewer.Alike
import AttributeBrowser.Proofs.Viewer.Asked
import AttributeBrowser.Proofs.Viewer.Faults

/-!
# Moves add up

Several moves up, or several moves down, leave the rows of a viewer where one move by the sum
does, wherever they cross an edge of the window or the end of the table (`RowWindow.AddsUp`).
The window shown there is the same too: it is made of the source, and what the stops on the
way have left in memory does not show.
-/

namespace AttributeBrowser

namespace RowWindow

variable {count : Nat} {window : RowWindow} {message : Nat → Message}

/-- Some of the rows of the table are shown. -/
def ShowsRows (count : Nat) (window : RowWindow) : Prop :=
  0 < window.height ∧ window.offset < count

/-- Moves by a number of rows that add up. -/
structure AddsUp (message : Nat → Message) : Prop where
  vertical : ∀ rows, (message rows).IsVertical
  /-- No move asks for a row further down than its number says. -/
  rowsDown_le : ∀ rows height, (message rows).rowsDown height ≤ rows
  zero : ∀ (count : Nat) {window : RowWindow}, window.CursorFits →
    window.step count (message 0) = window
  add : ∀ (count : Nat) (window : RowWindow) (first second : Nat),
    (window.step count (message first)).step count (message second) =
      window.step count (message (first + second))
  selected_le : ∀ (count : Nat) (window : RowWindow) (rows : Nat),
    (window.step count (message rows)).selected ≤ window.selected + rows
  bottom_le : ∀ (count : Nat) (window : RowWindow) (rows : Nat),
    (window.step count (message rows)).offset + (window.step count (message rows)).height ≤
      max (window.offset + window.height) count
  /-- A stop on the way shows rows only if the start or the end does. -/
  shows : ∀ {count : Nat} {window : RowWindow} {first rows : Nat}, first ≤ rows →
    (window.step count (message first)).ShowsRows count →
      window.ShowsRows count ∨ (window.step count (message rows)).ShowsRows count

theorem AddsUp.wanted_lt (hm : AddsUp message) {rows : Nat}
    (h : window.selected + rows < Size.limit) :
    window.selected + (message rows).rowsDown window.height < Size.limit :=
  Nat.lt_of_le_of_lt (Nat.add_le_add_left (hm.rowsDown_le _ _) _) h

theorem moveUp_moveUp (window : RowWindow) (first second : Nat) :
    (window.moveUp first).moveUp second = window.moveUp (first + second) := by
  have hle : window.selected - (first + second) ≤ window.selected - first := by omega
  simp only [moveUp]
  rw [← moveUp, selected_moveUp, Nat.sub_sub, mk.injEq]
  generalize window.selected - (first + second) = last at hle
  generalize window.selected - first = middle at hle
  refine ⟨?_, ?_, rfl⟩
  · rw [Nat.min_assoc, Nat.min_eq_right hle]
  · rcases Nat.le_total window.offset middle with habove | hbelow
    · rw [Nat.min_eq_left habove]
    · -- the first move has put the cursor at the top of the window, where it stays
      rw [Nat.min_eq_right hbelow, Nat.sub_eq_zero_of_le hle,
        Nat.sub_eq_zero_of_le (Nat.le_trans hle hbelow)]

theorem addsUp_moveUp : AddsUp .moveUp where
  vertical _ := trivial
  rowsDown_le _ _ := Nat.zero_le _
  zero := by
    intro count window _
    simp only [step, moveUp, selected, Nat.sub_zero, Nat.add_sub_cancel_left,
      Nat.min_eq_left (Nat.le_add_right _ _)]
  add _ := moveUp_moveUp
  selected_le _ window rows := by
    rw [step, selected_moveUp]
    exact Nat.le_trans (Nat.sub_le _ _) (Nat.le_add_right _ _)
  bottom_le _ window rows := by
    simp only [step, moveUp]
    omega
  shows := by
    rintro count window first rows hle ⟨hheight, hoffset⟩
    right
    refine ⟨hheight, Nat.lt_of_le_of_lt ?_ hoffset⟩
    simp only [step, moveUp]
    omega

theorem moveDown_zero (hfits : window.CursorFits) : window.moveDown count 0 = window := by
  by_cases hmoves : window.CanMoveDown count
  · rw [moveDown_of_canMoveDown hmoves]
    obtain ⟨hheight, hbelow⟩ := hmoves
    have hcursor := hfits hheight
    obtain ⟨offset, cursor, height⟩ := window
    simp only [selected, mk.injEq, and_true] at hbelow hcursor ⊢
    omega
  · exact moveDown_of_not_canMoveDown hmoves 0

/-- The window with its cursor in a row that is not above it. It follows a cursor past its
bottom. -/
def downTo (window : RowWindow) (row : Nat) : RowWindow :=
  let offset := max window.offset (row + 1 - window.height)
  { window with offset, cursor := row - offset }

/-- Where the cursor stops on the way down does not matter. -/
theorem downTo_downTo (window : RowWindow) {middle last : Nat} (h : middle ≤ last) :
    (window.downTo middle).downTo last = window.downTo last := by
  have hoffset : max (max window.offset (middle + 1 - window.height)) (last + 1 - window.height) =
      max window.offset (last + 1 - window.height) := by
    rw [Nat.max_assoc, Nat.max_eq_right (Nat.sub_le_sub_right (Nat.succ_le_succ h) _)]
  simp only [downTo, hoffset]

theorem moveDown_eq_downTo (h : window.CanMoveDown count) (rows : Nat) :
    window.moveDown count rows = window.downTo (min (window.selected + rows) (count - 1)) :=
  moveDown_of_canMoveDown h rows

theorem selected_moveDown_of_canMoveDown (h : window.CanMoveDown count) (rows : Nat) :
    (window.moveDown count rows).selected = min (window.selected + rows) (count - 1) := by
  obtain ⟨hheight, hbelow⟩ := h
  rw [selected_moveDown (fun _ => by omega), if_pos ⟨hheight, by omega⟩]

theorem moveDown_moveDown (count : Nat) (window : RowWindow) (first second : Nat) :
    (window.moveDown count first).moveDown count second =
      window.moveDown count (first + second) := by
  by_cases hmoves : window.CanMoveDown count
  · have hmiddle := selected_moveDown_of_canMoveDown hmoves first
    have hfirst := moveDown_eq_downTo hmoves first
    rw [moveDown_eq_downTo hmoves (first + second)]
    by_cases hagain : (window.moveDown count first).CanMoveDown count
    · rw [moveDown_eq_downTo hagain, hmiddle, hfirst, downTo_downTo window (by omega)]
      congr 1
      omega
    · -- the first move has reached the last row, and so does the sum
      have hlast : count ≤ (window.moveDown count first).selected + 1 :=
        Nat.le_of_not_lt fun hbelow => hagain ⟨by rw [hfirst]; exact hmoves.1, hbelow⟩
      rw [moveDown_of_not_canMoveDown hagain, hfirst]
      congr 1
      omega
  · simp only [moveDown_of_not_canMoveDown hmoves]

theorem addsUp_moveDown : AddsUp .moveDown where
  vertical _ := trivial
  rowsDown_le _ _ := Nat.le_refl _
  zero _ _ := moveDown_zero
  add := moveDown_moveDown
  selected_le := by
    intro count window rows
    by_cases hmoves : window.CanMoveDown count
    · simp only [step, moveDown_of_canMoveDown hmoves, selected]
      obtain ⟨hheight, -⟩ := hmoves
      omega
    · simp only [step, moveDown_of_not_canMoveDown hmoves, Nat.le_add_right]
  bottom_le := by
    intro count window rows
    by_cases hmoves : window.CanMoveDown count
    · simp only [step, moveDown_of_canMoveDown hmoves]
      obtain ⟨hheight, hbelow⟩ := hmoves
      omega
    · simp only [step, moveDown_of_not_canMoveDown hmoves, Nat.le_max_left]
  shows := by
    intro count window first rows _ hshows
    left
    by_cases hmoves : window.CanMoveDown count
    · simp only [step, moveDown_of_canMoveDown hmoves] at hshows
      obtain ⟨hheight, hoffset⟩ := hshows
      exact ⟨hheight, Nat.lt_of_le_of_lt (Nat.le_max_left _ _) hoffset⟩
    · rwa [step, moveDown_of_not_canMoveDown hmoves] at hshows

end RowWindow

namespace Viewer

variable {source : Source} {viewer other middle next : Viewer} {message : Nat → Message}

/-! ## One move -/

/-- Showing the rows where they are changes nothing. -/
theorem Current.refresh_withRows (h : Current viewer) :
    (viewer.withRows viewer.rowWindow).refresh = .ok viewer := h.refresh

/-- **A message that says which row to go to** shows the window there, as long as the row asked
for is a count. -/
theorem Ready.update_eq_ok_iff (h : Ready source viewer) {message : Message}
    (hvertical : message.IsVertical)
    (hwanted : viewer.rowWindow.selected + message.rowsDown viewer.height < Size.limit) :
    viewer.update message = .ok next ↔
      (viewer.withRows (viewer.rowWindow.step source.rowCount message)).refresh = .ok next := by
  have hbelow := h.selected_lt
  have hselected := Nat.lt_of_succ_lt hbelow
  have hdown : ∀ rows, viewer.rowWindow.selected + rows < Size.limit →
      (viewer.moveDown rows = .ok next ↔
        (viewer.withRows (viewer.rowWindow.moveDown source.rowCount rows)).refresh = .ok next) := by
    intro rows hrows
    by_cases hmoves : viewer.rowWindow.CanMoveDown viewer.table.rowCount
    · rw [moveDown_eq_ok_iff hmoves, h.rowCount_eq]
      simp only [hbelow, hrows, h.current.bottom, true_and]
    · rw [moveDown_eq_ok_iff_of_not_canMoveDown hmoves, ← h.rowCount_eq,
        RowWindow.moveDown_of_not_canMoveDown hmoves, h.current.refresh_withRows, Except.ok.injEq]
      simp only [hbelow, implies_true, true_and, eq_comm]
  cases message with
  | moveUp rows => exact moveUp_eq_ok_iff.trans (and_iff_right hselected)
  | pageUp => exact moveUp_eq_ok_iff.trans (and_iff_right hselected)
  | moveDown rows => exact hdown rows hwanted
  | pageDown => exact hdown _ hwanted
  | moveBeginning => rfl
  | moveEnd =>
    rw [update, moveEnd_eq, h.rowCount_eq]
    split
    · rename_i hempty
      rw [RowWindow.step, RowWindow.moveEnd, if_pos hempty, h.current.refresh_withRows]
    · rfl
  | quit | moveLeft | moveRight | followLink | copyCell | resize width height =>
    exact hvertical.elim

/-- What is shown of the rows elsewhere differs from what was shown in nothing else. -/
theorem Agree.of_refresh {rows : RowWindow} (moved : RowWindow) (hviewer : viewer.table.Faithful)
    (hnext : next.table.Faithful) (hsource : next.table.source = viewer.table.source)
    (h : (viewer.withRows rows).refresh = .ok next) :
    Agree (next.withRows moved) (viewer.withRows moved) := by
  obtain ⟨shown, columns, table, -, -, -, -, rfl⟩ := refresh_eq_ok_iff.mp h
  exact ⟨⟨rfl, rfl, rfl, rfl, rfl, rfl, rfl, rfl⟩, rfl, rfl, hsource.symm, hnext, hviewer⟩

/-- **Two moves end like one by the sum**, once the first is answered. -/
theorem Ready.update_add (h : Ready source viewer) (hm : RowWindow.AddsUp message)
    {first second : Nat} (hsum : viewer.rowWindow.selected + (first + second) < Size.limit)
    (hfirst : viewer.update (message first) = .ok middle) :
    Matched Alike (middle.update (message second)) (viewer.update (message (first + second))) := by
  have hstep := Step.of_update hfirst
  have hmiddle := h.step hstep
  have hrows : middle.rowWindow = viewer.rowWindow.step source.rowCount (message first) := by
    rw [hstep.rowWindow, h.rowCount_eq]
  have hselected := hm.selected_le source.rowCount viewer.rowWindow first
  rw [← hrows] at hselected
  have hshow := (h.update_eq_ok_iff (hm.vertical _) (hm.wanted_lt (by omega))).mp hfirst
  have hagree := Agree.of_refresh (middle.rowWindow.step source.rowCount (message second))
    h.sound.faithful hmiddle.sound.faithful (hmiddle.sound.table.trans h.sound.table.symm) hshow
  refine hagree.refresh.congr
    (fun _ => hmiddle.update_eq_ok_iff (hm.vertical _) (hm.wanted_lt (by omega))) fun _ => ?_
  rw [hrows, hm.add]
  exact h.update_eq_ok_iff (hm.vertical _) (hm.wanted_lt hsum)

/-! ## When a move is answered -/

/-- A column that is shown has a head to show over no rows. -/
theorem Shows.withoutRows {view : TableView} {numbers : RowNumbers} {rows : List Nat}
    {column : Nat} {shown : ShownColumn} (h : Shows view numbers rows column shown) :
    Shows view numbers [] column { shown with texts := [] } :=
  ⟨h.name, h.width, h.type, .nil⟩

theorem rowsShown_eq_nil (h : ¬viewer.rowWindow.ShowsRows viewer.table.rowCount) :
    viewer.rowsShown = [] := by
  have hnone : viewer.shownRows = 0 := by
    simp only [RowWindow.ShowsRows, rowWindow] at h
    unfold shownRows
    omega
  rw [rowsShown, hnone]
  rfl

/-- A viewer that shows rows remembers cells of them, so there is room for a memo. -/
theorem Ready.fitsMemo_of_showsRows (h : Ready source viewer)
    (hshows : viewer.rowWindow.ShowsRows source.rowCount) : source.FitsMemo := by
  obtain ⟨hheight, hbegin⟩ := hshows
  have hfirst := h.cursor.first
  have hoffset := h.cursor.offset
  by_cases hcolumn : viewer.cursorColumn ≤ source.columnCount
  · have hrow : viewer.offsetRow ∈ viewer.rowsShown :=
      mem_rowsShown.mpr ⟨Nat.le_refl _, Nat.lt_add_of_pos_right hheight, h.sound.table ▸ hbegin⟩
    have hplace : viewer.InWindow (viewer.offsetRow, viewer.cursorColumn - 1) := by
      refine ⟨hrow, ?_⟩
      rw [Nat.sub_add_cancel (Nat.le_trans hfirst hoffset)]
      exact h.cursor.mem hcolumn
    obtain ⟨text, cell, hcell, -⟩ := h.current.exists_holds hplace
    cases hmemo : viewer.table.memo with
    | none =>
      rw [TableView.remembered, hmemo] at hcell
      cases hcell
    | some memo => exact h.sound.table ▸ (h.sound.faithful.sized memo hmemo).1
  · -- a memo without columns takes no room
    have hlast := h.cursor.last
    rw [Source.FitsMemo, show source.columnCount = 0 from by omega]
    exact Nat.zero_le _

theorem Ready.complete (h : Ready source viewer) (ha : source.Answers) (hfits : source.FitsMemo) :
    source.Complete := by
  obtain ⟨_, -, hlayout⟩ := bind_eq_ok_iff.mp h.current.layout
  obtain ⟨_, hcount, -⟩ := bind_eq_ok_iff.mp hlayout
  exact ⟨ha, h.rowCount_lt, hfits, h.sound.table ▸ (columnCount_eq_ok_iff.mp hcount).1⟩

/-- **The window can be shown elsewhere** if its end is a count, and there is room for a memo
if rows are shown there. -/
theorem Ready.exists_show (h : Ready source viewer) (ha : source.Answers) {rows : RowWindow}
    (hrow : rows.selected ≤ source.rowCount) (hbottom : rows.offset + rows.height < Size.limit)
    (hfits : rows.ShowsRows source.rowCount → source.FitsMemo) :
    ∃ next, (viewer.withRows rows).refresh = .ok next := by
  have hselected : rows.selected < Size.limit := by
    have hroom : RowNumbers.capacity < Size.limit := by decide
    have hcount := h.rowCount_lt
    omega
  have hcolumns : ∃ columns table, showColumns viewer.numbers (viewer.withRows rows).rowsShown
      viewer.shown viewer.table = .ok (columns, table) := by
    by_cases hshows : rows.ShowsRows source.rowCount
    · obtain ⟨-, hle⟩ := layout_eq_ok h.current.layout
      exact exists_showColumns h.sound.faithful (h.sound.table ▸ h.complete ha (hfits hshows))
        viewer.numbers (fun _ => lt_of_mem_rowsShown) hle
    · -- without rows the columns that are shown lose their texts, and no cell is asked for
      have hnone : (viewer.withRows rows).rowsShown = [] :=
        rowsShown_eq_nil (h.rowCount_eq.symm ▸ hshows)
      have hshown : List.Forall₂ (Shows viewer.table viewer.numbers []) viewer.shown
          (viewer.window.columns.map fun shown => { shown with texts := [] }) := by
        rw [List.forall₂_map_right_iff]
        exact h.current.columns.imp fun _ _ hshown => hshown.withoutRows
      rw [hnone]
      exact ⟨_, viewer.table, showColumns_of_shows hshown⟩
  obtain ⟨columns, table, hcolumns⟩ := hcolumns
  exact ⟨_, refresh_eq_ok_iff.mpr
    ⟨viewer.shown, columns, table, h.current.layout, hbottom, hcolumns, hselected, rfl⟩⟩

/-- Vertical moves do not take the end of the window out of range. -/
theorem Ready.exists_move_iff (h : Ready source viewer) (ha : source.Answers)
    (hm : RowWindow.AddsUp message) {rows : Nat}
    (hrows : viewer.rowWindow.selected + rows < Size.limit) :
    (∃ next, viewer.update (message rows) = .ok next) ↔
      ((viewer.rowWindow.step source.rowCount (message rows)).ShowsRows source.rowCount →
        source.FitsMemo) := by
  constructor
  · rintro ⟨next, hnext⟩ hshows
    have hstep := Step.of_update hnext
    have hrows := hstep.rowWindow
    rw [h.rowCount_eq] at hrows
    exact (h.step hstep).fitsMemo_of_showsRows (hrows ▸ hshows)
  · intro hfits
    have hroom : RowNumbers.capacity < Size.limit := by decide
    have hcount := h.rowCount_lt
    have hend := h.current.bottom
    have hbottom := hm.bottom_le source.rowCount viewer.rowWindow rows
    have hshow := h.exists_show ha (RowWindow.selected_step_le h.row (message rows))
      (Nat.lt_of_le_of_lt hbottom (Nat.max_lt.mpr ⟨hend, by omega⟩)) hfits
    obtain ⟨next, hnext⟩ := hshow
    exact ⟨next, (h.update_eq_ok_iff (hm.vertical _) (hm.wanted_lt hrows)).mpr hnext⟩

/-- A shorter move is answered if a longer one is. -/
theorem Ready.exists_shorter_move (h : Ready source viewer) (ha : source.Answers)
    (hm : RowWindow.AddsUp message) {first rows : Nat} (hle : first ≤ rows)
    (hrows : viewer.rowWindow.selected + rows < Size.limit)
    (hmove : ∃ next, viewer.update (message rows) = .ok next) :
    ∃ next, viewer.update (message first) = .ok next := by
  rw [h.exists_move_iff ha hm hrows] at hmove
  rw [h.exists_move_iff ha hm (by omega)]
  intro hshows
  rcases hm.shows hle hshows with hstart | hend
  · exact h.fitsMemo_of_showsRows hstart
  · exact hmove hend

/-! ## Several moves -/

/-- A move by no rows changes nothing. -/
theorem Ready.update_zero (h : Ready source viewer) (hfits : viewer.rowWindow.CursorFits)
    (hm : RowWindow.AddsUp message) : viewer.update (message 0) = .ok viewer := by
  refine (h.update_eq_ok_iff (hm.vertical 0)
    (hm.wanted_lt (Nat.lt_of_succ_lt h.selected_lt))).mpr ?_
  rw [hm.zero source.rowCount hfits]
  exact h.current.refresh_withRows

/-- What is kept when one of several moves is made. -/
theorem Ready.after_move (h : Ready source viewer) (hfits : viewer.rowWindow.CursorFits)
    (hm : RowWindow.AddsUp message) {first : Nat}
    (hfirst : viewer.update (message first) = .ok middle) :
    Ready source middle ∧ middle.rowWindow.CursorFits ∧
      middle.rowWindow.selected ≤ viewer.rowWindow.selected + first := by
  have hstep := Step.of_update hfirst
  have hrows := hstep.rowWindow
  rw [h.rowCount_eq] at hrows
  refine ⟨h.step hstep, ?_, ?_⟩
  · rw [hrows]
    exact hfits.step source.rowCount (message first)
  · rw [hrows]
    exact hm.selected_le source.rowCount viewer.rowWindow first

/-- **Moves that are answered end like the one by their sum.** -/
theorem Ready.exists_sum_of_run (h : Ready source viewer) (hfits : viewer.rowWindow.CursorFits)
    (hm : RowWindow.AddsUp message) {moves : List Nat} {last : Viewer}
    (hsum : viewer.rowWindow.selected + moves.sum < Size.limit)
    (hrun : viewer.run (moves.map message) = .ok last) :
    ∃ direct, viewer.update (message moves.sum) = .ok direct ∧ Alike last direct := by
  induction moves generalizing viewer with
  | nil =>
    cases hrun
    exact ⟨_, h.update_zero hfits hm, .refl h.sound.faithful⟩
  | cons first rest ih =>
    obtain ⟨middle, hfirst, hrest⟩ := bind_eq_ok_iff.mp hrun
    rw [List.sum_cons] at hsum ⊢
    obtain ⟨h', hfits', hselected⟩ := h.after_move hfits hm hfirst
    obtain ⟨second, hsecond, halike⟩ := ih h' hfits' (by omega) hrest
    have hmatched := h.update_add hm hsum hfirst
    rw [hsecond] at hmatched
    obtain ⟨direct, hdirect, halike'⟩ := hmatched.exists_of_ok
    exact ⟨direct, hdirect, halike.trans halike'⟩

/-- If the source answers for all that it has, moves are answered exactly if the one by their
sum is. -/
theorem Ready.exists_run_of_sum (h : Ready source viewer) (hfits : viewer.rowWindow.CursorFits)
    (ha : source.Answers) (hm : RowWindow.AddsUp message) {moves : List Nat}
    (hsum : viewer.rowWindow.selected + moves.sum < Size.limit)
    (hdirect : ∃ direct, viewer.update (message moves.sum) = .ok direct) :
    ∃ last, viewer.run (moves.map message) = .ok last := by
  induction moves generalizing viewer with
  | nil => exact ⟨_, rfl⟩
  | cons first rest ih =>
    rw [List.sum_cons] at hsum hdirect
    obtain ⟨middle, hfirst⟩ := h.exists_shorter_move ha hm (Nat.le_add_right _ _) hsum hdirect
    obtain ⟨h', hfits', hselected⟩ := h.after_move hfits hm hfirst
    have hmatched := h.update_add hm hsum hfirst
    obtain ⟨direct, hdirect⟩ := hdirect
    rw [hdirect] at hmatched
    obtain ⟨second, hsecond, -⟩ := hmatched.exists_of_ok_right
    obtain ⟨last, hrest⟩ := ih h' hfits' (by omega) ⟨second, hsecond⟩
    exact ⟨last, bind_eq_ok_iff.mpr ⟨middle, hfirst, hrest⟩⟩

/-- **Vertical moves add up.** Wherever a viewer stands after a run, moves in one direction leave
it where one move by their sum does, with the same cursor, offsets and window: if they are
answered, or if the source answers for all that it has, exactly if the one move is. All of
them are answered then if there is room for a memo. Two moves are a list of two, and single
steps a list of ones. -/
theorem vertical_moves_add_up {name : String} {clipboard : Option Clipboard} {earlier : List Nat}
    {width height : Nat} {messages : List Message}
    (h : browse name clipboard source earlier width height messages = .ok viewer)
    {message : Nat → Message} (hmessage : message = .moveDown ∨ message = .moveUp)
    (moves : List Nat) (hsum : viewer.rowWindow.selected + moves.sum < Size.limit) :
    (∀ last, viewer.run (moves.map message) = .ok last →
      ∃ direct, viewer.update (message moves.sum) = .ok direct ∧ Alike last direct) ∧
    (source.Answers →
      Matched Alike (viewer.run (moves.map message)) (viewer.update (message moves.sum))) ∧
    (source.Answers → source.FitsMemo → ∃ last, viewer.run (moves.map message) = .ok last) := by
  have hready := ready_browse h
  have hfits : viewer.rowWindow.CursorFits := by
    rw [rowWindow_browse h]
    exact RowWindow.cursorFits_after _ _ _
  have hm : RowWindow.AddsUp message := by
    rcases hmessage with rfl | rfl
    · exact RowWindow.addsUp_moveDown
    · exact RowWindow.addsUp_moveUp
  refine ⟨fun last hrun => hready.exists_sum_of_run hfits hm hsum hrun, fun ha => ?_,
    fun ha hmemo => ?_⟩
  · exact .of_answers (fun last hrun => hready.exists_sum_of_run hfits hm hsum hrun)
      (hready.exists_run_of_sum hfits ha hm hsum)
  · exact hready.exists_run_of_sum hfits ha hm hsum
      ((hready.exists_move_iff ha hm hsum).mpr fun _ => hmemo)

/-- Single steps out of the window and to the end of the table, and one step behind it. -/
theorem vertical_moves_add_up_past_end :
    ∃ viewer, browse "" none (.grid 9 2) [] 80 6 [.moveDown 2] = .ok viewer ∧
      viewer.rowWindow.selected + (List.replicate 8 1).sum < Size.limit ∧
      ∃ last direct, viewer.run (List.replicate 8 (.moveDown 1)) = .ok last ∧
        viewer.update (.moveDown 8) = .ok direct ∧ last.rowWindow = direct.rowWindow ∧
        last.window = direct.window := by
  have hok : (browse "" none (.grid 9 2) [] 80 6 [.moveDown 2]).isOk = true := by cbv
  obtain ⟨viewer, h⟩ := exists_eq_ok_of_isOk hok
  have hsum : viewer.rowWindow.selected + (List.replicate 8 1).sum < Size.limit := by
    rw [rowWindow_browse h]
    decide
  obtain ⟨halike, -, hanswered⟩ :=
    vertical_moves_add_up h (.inl rfl) (List.replicate 8 1) hsum
  obtain ⟨last, hlast⟩ := hanswered (Source.answers_grid 9 2) (by decide)
  obtain ⟨direct, hdirect, -, hsame⟩ := halike last hlast
  refine ⟨viewer, h, hsum, last, direct, hlast, hdirect, ?_, ?_⟩
  · rw [hsame]
    rfl
  · rw [hsame]

end Viewer

end AttributeBrowser
