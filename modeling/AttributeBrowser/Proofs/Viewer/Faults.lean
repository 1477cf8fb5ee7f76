import AttributeBrowser.Proofs.Viewer.Progress
import AttributeBrowser.Proofs.Viewer.Ready
import AttributeBrowser.Viewer.Session

/-!
# When a viewer faults

A viewer of a source that answers for all that it has stops at a message for one of two
reasons only: the row asked for is no count, or the end of the window is none
(`RowWindow.Overflows`). Everything else that a message computes stays in range, and no
row or column is asked of the source that it does not have. Both reasons take a row or a
height near the largest count, so no run with moderate ones stops, and none that a
terminal drives.
-/

namespace AttributeBrowser

/-- How many rows down a message asks to go, in a window of this height. -/
def Message.rowsDown (height : Nat) : Message → Nat
  | .moveDown rows => rows
  | .pageDown => max height 1
  | _ => 0

/-- The row asked for, or the end of the window that is gone to, is no count. -/
def RowWindow.Overflows (count : Nat) (window : RowWindow) (message : Message) : Prop :=
  (window.CanMoveDown count ∧ Size.limit ≤ window.selected + message.rowsDown window.height) ∨
    Size.limit ≤ (window.step count message).offset + (window.step count message).height

instance (count : Nat) (window : RowWindow) (message : Message) :
    Decidable (window.Overflows count message) :=
  inferInstanceAs (Decidable (_ ∨ _))

/-- A screen that is far enough below the largest count for the source. -/
def Source.FitsScreen (source : Source) (width height : Nat) : Prop :=
  width + widthLimit < Size.limit ∧ height + source.rowCount < Size.limit

instance (source : Source) (width height : Nat) : Decidable (source.FitsScreen width height) :=
  inferInstanceAs (Decidable (_ ∧ _))

/-- The rows asked for, or the screen, are far enough below the largest count. -/
def Message.Fits (source : Source) : Message → Prop
  | .moveDown rows => rows + source.rowCount < Size.limit
  | .resize width height => source.FitsScreen width height
  | _ => True

/-- The sizes that a terminal tells are below this bound, `2 ^ 16`. -/
def Event.sizeLimit : Nat := 0x10000

/-- An event that a terminal can bring. -/
def Event.OfTerminal : Event → Prop
  | .resize width height => width < sizeLimit ∧ height < sizeLimit
  | _ => True

theorem RowWindow.not_overflows_iff {count : Nat} {window : RowWindow} {message : Message} :
    ¬window.Overflows count message ↔
      (window.CanMoveDown count →
        window.selected + message.rowsDown window.height < Size.limit) ∧
      (window.step count message).offset + (window.step count message).height < Size.limit := by
  simp only [Overflows, not_or, not_and, Nat.not_le]

section Moderate

variable {source : Source} {message : Message}

theorem Message.Fits.screen (h : message.Fits source) {width height : Nat}
    (hscreen : source.FitsScreen width height) :
    source.FitsScreen (message.screenWidth width) (message.bodyHeight height) := by
  cases message with
  | resize width height =>
    obtain ⟨hwidth, hheight⟩ := h
    exact ⟨hwidth, Nat.lt_of_le_of_lt (Nat.add_le_add_right (Nat.sub_le _ _) _) hheight⟩
  | _ => exact hscreen

/-- A moderate message does not overflow. -/
theorem Message.Fits.not_overflows (h : message.Fits source) {window : RowWindow} {width : Nat}
    (hrow : window.selected ≤ source.rowCount) (hscreen : source.FitsScreen width window.height) :
    ¬window.Overflows source.rowCount message := by
  obtain ⟨-, hnext⟩ := h.screen hscreen
  obtain ⟨-, hheight⟩ := hscreen
  refine RowWindow.not_overflows_iff.mpr ⟨?_, ?_⟩
  · rintro ⟨hpos, hbelow⟩
    cases message with
    | moveDown rows =>
      simp only [Fits] at h
      simp only [rowsDown]
      omega
    | pageDown =>
      simp only [rowsDown]
      omega
    | _ =>
      simp only [rowsDown]
      omega
  · have hstep := RowWindow.selected_step_le hrow message
    rw [RowWindow.height_step]
    simp only [RowWindow.selected] at hstep
    omega

/-- Keys ask to go one row down at most. -/
theorem Key.fits {key : Key} (hrows : source.rowCount < RowNumbers.capacity)
    (hmessage : key.message? = some message) : message.Fits source := by
  have hroom : 1 + RowNumbers.capacity < Size.limit := by decide
  unfold Key.message? at hmessage
  split at hmessage <;> cases hmessage <;> simp only [Message.Fits]
  all_goals omega

theorem Event.OfTerminal.fits {event : Event} (h : event.OfTerminal)
    (hrows : source.rowCount < RowNumbers.capacity) (hmessage : event.message? = some message) :
    message.Fits source := by
  cases event with
  | timeout => cases hmessage
  | other => cases hmessage
  | key key pressed =>
    cases pressed with
    | false => cases hmessage
    | true => exact Key.fits hrows hmessage
  | resize width height =>
    cases hmessage
    obtain ⟨hwidth, hheight⟩ := h
    have hroom : sizeLimit + Source.widthLimit < Size.limit := by decide
    have hroom' : sizeLimit + RowNumbers.capacity < Size.limit := by decide
    constructor <;> omega

end Moderate

namespace Viewer

variable {source : Source} {viewer next : Viewer} {message : Message}

/-! ## One message -/

theorem Ready.rowCount_eq (h : Ready source viewer) : viewer.table.rowCount = source.rowCount :=
  congrArg Source.rowCount h.sound.table

theorem Ready.rowCount_lt (h : Ready source viewer) : source.rowCount < RowNumbers.capacity :=
  Nat.lt_of_le_of_lt h.sound.numbered h.sound.counting.bounded

theorem Ready.selected_lt (h : Ready source viewer) :
    viewer.rowWindow.selected + 1 < Size.limit := by
  have hroom : RowNumbers.capacity < Size.limit := by decide
  have hcount := h.rowCount_lt
  have hrow := h.row
  omega

/-- The rows that a message goes to can be shown exactly if the end of the window is a
count. -/
theorem Ready.exists_show_iff (h : Ready source viewer) (hc : source.Complete)
    (hwidth : viewer.width + Source.widthLimit < Size.limit) (message : Message) :
    (∃ next, (viewer.withRows
        (viewer.rowWindow.step viewer.table.rowCount message)).refresh = .ok next) ↔
      (viewer.rowWindow.step source.rowCount message).offset +
        (viewer.rowWindow.step source.rowCount message).height < Size.limit := by
  rw [h.rowCount_eq]
  exact h.sound.exists_refresh_iff hc _ rfl rfl (RowWindow.selected_step_le h.row message) hwidth

/-- A message that does not ask to go down overflows only with the end of the window. -/
theorem Ready.not_overflows_iff (h : Ready source viewer)
    (hdown : message.rowsDown viewer.rowWindow.height = 0) :
    ¬viewer.rowWindow.Overflows source.rowCount message ↔
      (viewer.rowWindow.step source.rowCount message).offset +
        (viewer.rowWindow.step source.rowCount message).height < Size.limit := by
  rw [RowWindow.not_overflows_iff, hdown]
  exact and_iff_right fun _ => Nat.lt_of_succ_lt h.selected_lt

/-- A message that leaves the rows as they are does not overflow. -/
theorem Ready.not_overflows (h : Ready source viewer)
    (hdown : message.rowsDown viewer.rowWindow.height = 0)
    (hrows : viewer.rowWindow.step source.rowCount message = viewer.rowWindow) :
    ¬viewer.rowWindow.Overflows source.rowCount message := by
  rw [h.not_overflows_iff hdown, hrows]
  exact h.current.bottom

theorem Ready.exists_moveUp_iff (h : Ready source viewer) (hc : source.Complete)
    (hwidth : viewer.width + Source.widthLimit < Size.limit) {rows : Nat}
    (hrows : ∀ count, viewer.rowWindow.step count message = viewer.rowWindow.moveUp rows)
    (hdown : message.rowsDown viewer.rowWindow.height = 0) :
    (∃ next, viewer.moveUp rows = .ok next) ↔
      ¬viewer.rowWindow.Overflows source.rowCount message := by
  rw [h.not_overflows_iff hdown, ← h.exists_show_iff hc hwidth, hrows]
  simp only [moveUp_eq_ok_iff, exists_and_left]
  exact and_iff_right (Nat.lt_of_succ_lt h.selected_lt)

theorem Ready.exists_moveDown_iff (h : Ready source viewer) (hc : source.Complete)
    (hwidth : viewer.width + Source.widthLimit < Size.limit) {rows : Nat}
    (hrows : ∀ count, viewer.rowWindow.step count message = viewer.rowWindow.moveDown count rows)
    (hdown : message.rowsDown viewer.rowWindow.height = rows) :
    (∃ next, viewer.moveDown rows = .ok next) ↔
      ¬viewer.rowWindow.Overflows source.rowCount message := by
  have hselected := h.selected_lt
  have hbottom := h.current.bottom
  by_cases hmoves : viewer.rowWindow.CanMoveDown viewer.table.rowCount
  · rw [RowWindow.not_overflows_iff, hdown, ← h.exists_show_iff hc hwidth, hrows]
    simp only [moveDown_eq_ok_iff hmoves, exists_and_left]
    rw [h.rowCount_eq] at *
    -- the row below the cursor and the end of the window are counts already
    constructor
    · rintro ⟨-, hwanted, -, hshow⟩
      exact ⟨fun _ => hwanted, hshow⟩
    · rintro ⟨hwanted, hshow⟩
      exact ⟨hselected, hwanted hmoves, hbottom, hshow⟩
  · -- nothing moves, and the window is the one that is shown
    have hstays : ∃ next, viewer.moveDown rows = .ok next :=
      ⟨viewer, (moveDown_eq_ok_iff_of_not_canMoveDown hmoves).mpr ⟨fun _ => hselected, rfl⟩⟩
    rw [h.rowCount_eq] at hmoves
    refine iff_of_true hstays
      (RowWindow.not_overflows_iff.mpr ⟨fun hmove => absurd hmove hmoves, ?_⟩)
    rw [hrows, RowWindow.moveDown_of_not_canMoveDown hmoves]
    exact hbottom

theorem Ready.exists_moveEnd_iff (h : Ready source viewer) (hc : source.Complete)
    (hwidth : viewer.width + Source.widthLimit < Size.limit) :
    (∃ next, viewer.moveEnd = .ok next) ↔
      ¬viewer.rowWindow.Overflows source.rowCount .moveEnd := by
  rw [moveEnd_eq]
  split
  · rename_i hempty
    rw [h.rowCount_eq] at hempty
    exact iff_of_true ⟨viewer, rfl⟩ (h.not_overflows rfl (if_pos hempty))
  · rw [h.not_overflows_iff rfl, ← h.exists_show_iff hc hwidth]
    rfl

/-- The window can be shown with the cursor in any column and any first column. -/
theorem Ready.exists_showColumn (h : Ready source viewer) (hc : source.Complete)
    (hwidth : viewer.width + Source.widthLimit < Size.limit) (cursorColumn offsetColumn : Nat) :
    ∃ next, Viewer.refresh { viewer with cursorColumn, offsetColumn } = .ok next :=
  (h.sound.exists_refresh_iff hc { viewer with cursorColumn, offsetColumn } rfl rfl h.row
    hwidth).mpr h.current.bottom

theorem Ready.exists_moveLeft (h : Ready source viewer) (hc : source.Complete)
    (hwidth : viewer.width + Source.widthLimit < Size.limit) :
    ∃ next, viewer.moveLeft = .ok next := by
  rw [moveLeft_eq]
  split
  · exact ⟨viewer, rfl⟩
  · exact h.exists_showColumn hc hwidth _ _

theorem Ready.exists_moveRight (h : Ready source viewer) (hc : source.Complete)
    (hwidth : viewer.width + Source.widthLimit < Size.limit) :
    ∃ next, viewer.moveRight = .ok next := by
  have hcounted := hc.counted
  have hsource := h.sound.table
  obtain ⟨hfirst, hoffset, hlast⟩ := h.cursor.toPlaced
  have hnext : viewer.cursorColumn + 1 < Size.limit := by
    have hroom : 1 + 1 < Size.limit := by decide
    omega
  by_cases hcolumn : source.columnCount ≤ viewer.cursorColumn
  · refine ⟨viewer, moveRight_eq_ok_iff.mpr ⟨hnext, hsource ▸ hcounted, ?_⟩⟩
    rw [hsource, if_pos hcolumn]
  · obtain ⟨middle, hshow⟩ :=
      h.exists_showColumn hc hwidth (viewer.cursorColumn + 1) viewer.offsetColumn
    have hmoved : Placed source { viewer with cursorColumn := viewer.cursorColumn + 1 } :=
      ⟨hfirst, Nat.le_succ_of_le hoffset,
        Nat.le_trans (Nat.lt_of_not_le hcolumn) (Nat.le_max_left _ _)⟩
    obtain ⟨next, hscroll⟩ :=
      hmoved.exists_scrollToCursor_of_refresh h.sound hc hshow rfl rfl h.row hwidth
    refine ⟨next, moveRight_eq_ok_iff.mpr ⟨hnext, hsource ▸ hcounted, ?_⟩⟩
    rw [hsource, if_neg hcolumn]
    exact ⟨middle, hshow, hscroll⟩

theorem Ready.selection?_eq (h : Ready source viewer) (hc : source.Complete) :
    viewer.selection? = .ok (if viewer.OnTable then
      some (viewer.rowWindow.selected, viewer.cursorColumn) else none) :=
  selection?_eq_ok_iff.mpr ⟨Nat.lt_of_succ_lt h.selected_lt,
    fun _ => h.sound.table ▸ hc.counted, rfl⟩

theorem Ready.exists_followLink (h : Ready source viewer) (hc : source.Complete) :
    ∃ next, viewer.followLink = .ok next := by
  unfold followLink
  rw [h.selection?_eq hc]
  rw [← h.sound.table] at hc
  by_cases hplace : viewer.OnTable
  · rw [if_pos hplace]
    obtain ⟨⟨done, followed⟩, hfollow⟩ :=
      TableView.exists_follow hc.toAnswers (· :: ·) viewer.followed hplace.1 hplace.2
    simp only [bind, Except.bind, hfollow]
    split
    · exact ⟨_, rfl⟩
    · exact ⟨_, rfl⟩
  · rw [if_neg hplace]
    exact ⟨viewer, rfl⟩

theorem Ready.exists_copyCell (h : Ready source viewer) (hc : source.Complete) :
    ∃ next, viewer.copyCell = .ok next := by
  unfold copyCell
  rw [h.selection?_eq hc]
  rw [← h.sound.table] at hc
  by_cases hplace : viewer.OnTable
  · rw [if_pos hplace]
    obtain ⟨cell, table, hcell⟩ :=
      h.sound.faithful.exists_cell hc viewer.numbers hplace.1 hplace.2
    simp only [bind, Except.bind, hcell]
    exact ⟨_, rfl⟩
  · rw [if_neg hplace]
    exact ⟨viewer, rfl⟩

/-- **A message faults exactly if it overflows.** -/
theorem Ready.exists_update_iff (h : Ready source viewer) (hc : source.Complete)
    (hwidth : message.screenWidth viewer.width + Source.widthLimit < Size.limit) :
    (∃ next, viewer.update message = .ok next) ↔
      ¬viewer.rowWindow.Overflows source.rowCount message := by
  cases message with
  | quit => exact iff_of_true ⟨_, rfl⟩ (h.not_overflows rfl rfl)
  | moveUp rows => exact h.exists_moveUp_iff hc hwidth (fun _ => rfl) rfl
  | pageUp => exact h.exists_moveUp_iff hc hwidth (fun _ => rfl) rfl
  | moveDown rows => exact h.exists_moveDown_iff hc hwidth (fun _ => rfl) rfl
  | pageDown => exact h.exists_moveDown_iff hc hwidth (fun _ => rfl) rfl
  | moveBeginning =>
    rw [h.not_overflows_iff rfl, ← h.exists_show_iff hc hwidth]
    rfl
  | moveEnd => exact h.exists_moveEnd_iff hc hwidth
  | moveLeft => exact iff_of_true (h.exists_moveLeft hc hwidth) (h.not_overflows rfl rfl)
  | moveRight => exact iff_of_true (h.exists_moveRight hc hwidth) (h.not_overflows rfl rfl)
  | followLink => exact iff_of_true (h.exists_followLink hc) (h.not_overflows rfl rfl)
  | copyCell => exact iff_of_true (h.exists_copyCell hc) (h.not_overflows rfl rfl)
  | resize width height =>
    rw [h.not_overflows_iff rfl]
    exact h.cursor.exists_resize_iff h.sound hc h.row hwidth height

/-! ## Runs -/

/-- A moderate message is answered, and leaves a viewer that is as ready for the next. -/
theorem Ready.exists_update (h : Ready source viewer) (hc : source.Complete)
    (hscreen : source.FitsScreen viewer.width viewer.height) (hmessage : message.Fits source) :
    ∃ next, viewer.update message = .ok next ∧ Ready source next ∧
      source.FitsScreen next.width next.height := by
  have hnext := hmessage.screen hscreen
  obtain ⟨next, hupdate⟩ :=
    (h.exists_update_iff hc hnext.1).mpr (hmessage.not_overflows h.row hscreen)
  have hstep := Step.of_update hupdate
  have hheight : next.height = message.bodyHeight viewer.height :=
    (congrArg RowWindow.height hstep.rowWindow).trans (RowWindow.height_step _ _ _)
  refine ⟨next, hupdate, h.step hstep, ?_⟩
  rw [hstep.width, hheight]
  exact hnext

theorem Ready.exists_run (h : Ready source viewer) (hc : source.Complete)
    (hscreen : source.FitsScreen viewer.width viewer.height) {messages : List Message}
    (hmessages : ∀ message ∈ messages, message.Fits source) :
    ∃ next, viewer.run messages = .ok next := by
  -- for every viewer that is ready, as the one after the first message is
  induction messages generalizing viewer with
  | nil => exact ⟨viewer, rfl⟩
  | cons message rest ih =>
    obtain ⟨middle, hupdate, hmiddle, hscreen'⟩ :=
      h.exists_update hc hscreen (hmessages message (by simp))
    obtain ⟨next, hrest⟩ :=
      ih hmiddle hscreen' fun message hmem => hmessages message (by simp [hmem])
    exact ⟨next, bind_eq_ok_iff.mpr ⟨middle, hupdate, hrest⟩⟩

theorem Ready.exists_poll (h : Ready source viewer) (hc : source.Complete)
    (hscreen : source.FitsScreen viewer.width viewer.height) {event : Event}
    (hevent : event.OfTerminal) :
    ∃ next, Session.poll viewer event = .ok next ∧ Ready source next ∧
      source.FitsScreen next.width next.height := by
  unfold Session.poll
  cases hmessage : event.message? with
  | none => exact ⟨viewer, rfl, h, hscreen⟩
  | some message => exact h.exists_update hc hscreen (hevent.fits hc.numbered hmessage)

/-- **A session that a terminal drives** does not stop with a fault. -/
theorem Ready.session_answers (h : Ready source viewer) (hc : source.Complete)
    (hscreen : source.FitsScreen viewer.width viewer.height) {events : List Event}
    (hevents : ∀ event ∈ events, event.OfTerminal) (fault : Fault) :
    (Session.run viewer events).outcome ≠ .fault fault := by
  induction events generalizing viewer with
  | nil =>
    unfold Session.run
    split <;> exact SessionEnd.noConfusion
  | cons event rest ih =>
    obtain ⟨next, hpoll, hnext, hscreen'⟩ :=
      h.exists_poll hc hscreen (hevents event (by simp))
    unfold Session.run
    split
    · exact SessionEnd.noConfusion
    · simp only [hpoll]
      exact ih hnext hscreen' fun event hmem => hevents event (by simp [hmem])

/-- A viewer learns its screen exactly if the rows of the screen are a count. -/
theorem exists_browse_nil_iff (hc : source.Complete) {width : Nat}
    (hwidth : width + Source.widthLimit < Size.limit) (name : String)
    (clipboard : Option Clipboard) (earlier : List Nat) (height : Nat) :
    (∃ first, browse name clipboard source earlier width height [] = .ok first) ↔
      height - frameHeight < Size.limit := by
  have hcounting := RowNumbers.Counting.after earlier
  obtain ⟨numbers, hensure⟩ := hcounting.exists_ensure_iff.mpr hc.numbered
  have hnumbered : source.rowCount ≤ numbers.size := by
    rw [RowNumbers.size_ensure hensure]
    exact Nat.le_max_right _ _
  have hs := Sound.unshown name clipboard (hcounting.ensure hensure) hnumbered
  -- the first showing is a resizing, of a window that begins with the first row
  have hresize :=
    (Placed.unshown name clipboard source numbers).exists_resize_iff hs hc (Nat.zero_le _)
      hwidth height
  rw [show (unshown name clipboard source numbers).rowWindow = ⟨0, 0, 0⟩ from rfl,
    RowWindow.resize_start, Nat.zero_add] at hresize
  rw [← hresize]
  constructor
  · rintro ⟨first, h⟩
    obtain ⟨numbers', sized, hensure', hsized, -, -⟩ := browse_eq_ok_iff.mp h
    obtain rfl : numbers' = numbers := Except.ok.inj (hensure'.symm.trans hensure)
    exact ⟨sized, hsized⟩
  · rintro ⟨sized, hsized⟩
    obtain ⟨hs', -⟩ := (Step.of_resize hsized).current_of_resize hs
    exact ⟨_, browse_eq_ok_iff.mpr ⟨numbers, sized, hensure, hsized, hs'.table ▸ hc.counted, rfl⟩⟩

variable {name : String} {clipboard : Option Clipboard} {earlier : List Nat} {width height : Nat}
  {first : Viewer}

theorem fitsScreen_browse_nil (hscreen : source.FitsScreen width height)
    (h : browse name clipboard source earlier width height [] = .ok first) :
    source.FitsScreen first.width first.height := by
  have hheight : first.height = height - frameHeight :=
    congrArg RowWindow.height (rowWindow_browse h)
  obtain ⟨numbers, sized, -, hsized, -, hfirst⟩ := browse_eq_ok_iff.mp h
  cases hfirst
  have hwidth : sized.width = width := (Step.of_resize hsized).width
  rw [hheight, show (sized.say (greeting sized.table)).width = width from hwidth]
  exact ⟨hscreen.1, by have := hscreen.2; omega⟩

theorem exists_browse_nil (hc : source.Complete) (hscreen : source.FitsScreen width height) :
    ∃ first, browse name clipboard source earlier width height [] = .ok first ∧
      source.FitsScreen first.width first.height := by
  obtain ⟨hwidth, hheight⟩ := hscreen
  obtain ⟨first, h⟩ :=
    (exists_browse_nil_iff hc hwidth name clipboard earlier height).mpr (by omega)
  exact ⟨first, h, fitsScreen_browse_nil ⟨hwidth, hheight⟩ h⟩

/-- A run of moderate messages is answered. -/
theorem exists_browse (hc : source.Complete) (hscreen : source.FitsScreen width height)
    {messages : List Message} (hmessages : ∀ message ∈ messages, message.Fits source) :
    ∃ viewer, browse name clipboard source earlier width height messages = .ok viewer := by
  obtain ⟨first, h, hscreen'⟩ := exists_browse_nil hc hscreen
  obtain ⟨viewer, hrun⟩ := (ready_browse h).exists_run hc hscreen' hmessages
  exact ⟨viewer, (browse_append_eq_ok_iff []).mpr ⟨first, h, hrun⟩⟩

/-- **A viewer faults only where a row or the end of the window is no count.** The source
answers for all that it has, and the widths of the columns laid out cannot add up to more
than a count. Then the first showing faults exactly if the rows of the screen are no
count, and a message to a viewer after any run exactly if it overflows; a run of moderate
messages never faults, nor does a session that a terminal drives. -/
theorem faults_on_overflow_only (hc : source.Complete) (name : String)
    (clipboard : Option Clipboard) (earlier : List Nat) (width height : Nat) :
    (width + Source.widthLimit < Size.limit →
      ((∃ fault, browse name clipboard source earlier width height [] = .error fault) ↔
        Size.limit ≤ height - frameHeight)) ∧
    (∀ messages viewer message,
      browse name clipboard source earlier width height messages = .ok viewer →
      message.screenWidth viewer.width + Source.widthLimit < Size.limit →
      ((∃ fault, viewer.update message = .error fault) ↔
        viewer.rowWindow.Overflows source.rowCount message)) ∧
    (source.FitsScreen width height → ∀ messages, (∀ message ∈ messages, message.Fits source) →
      ∃ viewer, browse name clipboard source earlier width height messages = .ok viewer) ∧
    (width < Event.sizeLimit → height < Event.sizeLimit → ∀ events,
      (∀ event ∈ events, event.OfTerminal) →
      ∃ first, browse name clipboard source earlier width height [] = .ok first ∧
        ∀ fault, (Session.run first events).outcome ≠ .fault fault) := by
  refine ⟨fun hwidth => ?_, fun messages viewer message h hwidth => ?_,
    fun hscreen messages hmessages => ?_, fun hwidth hheight events hevents => ?_⟩
  · rw [exists_eq_error_iff, exists_browse_nil_iff hc hwidth, Nat.not_lt]
  · rw [exists_eq_error_iff, (ready_browse h).exists_update_iff hc hwidth, not_not]
  · exact exists_browse hc hscreen hmessages
  · have hresize : (Event.resize width height).OfTerminal := ⟨hwidth, hheight⟩
    obtain ⟨first, h, hscreen⟩ := exists_browse_nil hc (hresize.fits hc.numbered rfl)
    exact ⟨first, h, (ready_browse h).session_answers hc hscreen hevents⟩

/-- A row that is no count is not gone to; a page below the last row is. -/
theorem faults_on_overflow_only_moveDown :
    (Source.grid 3 2).Complete ∧ ∃ viewer,
      browse "" none (.grid 3 2) [] 80 4 [.moveDown 1, .resize 80 3] = .ok viewer ∧
      (∃ fault, viewer.update (.moveDown 0xffffffffffffffff) = .error fault) ∧
      ∀ fault, viewer.update .pageDown ≠ .error fault := by
  have hc : (Source.grid 3 2).Complete := ⟨Source.answers_grid 3 2, by decide, by decide, by decide⟩
  obtain ⟨-, hstep, hrun, -⟩ := faults_on_overflow_only hc "" none [] 80 4
  obtain ⟨viewer, h⟩ := hrun (by decide) [.moveDown 1, .resize 80 3] (by
    simp only [List.mem_cons, List.not_mem_nil, or_false, forall_eq_or_imp, forall_eq, Message.Fits]
    decide)
  have hmap : (browse "" none (.grid 3 2) [] 80 4
      [.moveDown 1, .resize 80 3]).map width = .ok 80 := by
    cbv
  rw [h] at hmap
  have hwidth : viewer.width + Source.widthLimit < Size.limit := by
    rw [Except.ok.inj hmap]
    decide
  have hrows : viewer.rowWindow = ⟨1, 0, 1⟩ := (rowWindow_browse h).trans (by decide)
  refine ⟨hc, viewer, h, ?_, fun fault hfault => ?_⟩
  · rw [hstep _ viewer (.moveDown _) h hwidth, hrows]
    decide
  · have hover := (hstep _ viewer .pageDown h hwidth).mp ⟨fault, hfault⟩
    rw [hrows] at hover
    exact absurd hover (by decide)

/-- Two sources without rows that answer for all that they have. The columns of the first
table are no count; those of the second are, but their widths together are not. Both
stop the first showing, on a screen of ten rows. -/
theorem uncounted_columns_fault :
    ((Source.grid 0 0xffffffffffffffff).Answers ∧
      (Source.grid 0 0xffffffffffffffff).rowCount < RowNumbers.capacity ∧
      (Source.grid 0 0xffffffffffffffff).FitsMemo ∧
      ∃ fault, browse "" none (.grid 0 0xffffffffffffffff) [] 80 12 [] = .error fault) ∧
    ((Source.grid 0 0xfffffffffffffffe).Answers ∧
      (Source.grid 0 0xfffffffffffffffe).rowCount < RowNumbers.capacity ∧
      (Source.grid 0 0xfffffffffffffffe).FitsMemo ∧
      ∃ fault, browse "" none (.grid 0 0xfffffffffffffffe) [] 0xffffffffffffffff 12 [] =
        .error fault) ∧
    ¬Size.limit ≤ 12 - frameHeight := by
  refine ⟨⟨Source.answers_grid _ _, by decide, by decide, .overflow, by cbv⟩,
    ⟨Source.answers_grid _ _, by decide, by decide, ?_⟩, by decide⟩
  rw [exists_eq_error_iff]
  rintro ⟨viewer, h⟩
  obtain ⟨numbers, sized, -, hsized, -, -⟩ := browse_eq_ok_iff.mp h
  obtain ⟨middle, hshow, -⟩ := resize_eq_ok_iff.mp hsized
  obtain ⟨shown, columns, table, hlayout, -⟩ := refresh_eq_ok_iff.mp hshow
  have hover : layout { source := .grid 0 0xfffffffffffffffe } 0xffffffffffffffff 1 =
      .error .overflow :=
    layout_overflow (fun _ => rfl) (by decide) (by decide) (by decide) (by decide)
  have hboth := hover.symm.trans hlayout
  cases hboth

end Viewer

end AttributeBrowser
