import AttributeBrowser.Proofs.Viewer.Window

/-!
# The selected row is in the table and on the screen

A cursor is `Inside` if it stands on a row of the table and, when rows fit, on one that
is shown. Every message keeps it there but one: a move to the end made while no row
fits puts it `Beyond` the last row, where it stays until a message moves it up. So the
cursor of a run is outside exactly if the run is `Stranded`.
-/

namespace AttributeBrowser

namespace RowWindow

variable {count : Nat} {window : RowWindow} {message : Message}

/-- The cursor stands on a row of the table and in the window, if rows fit in it. -/
structure Inside (count : Nat) (window : RowWindow) : Prop where
  row : window.selected < count
  cursor : 0 < window.height → window.cursor < window.height

/-- The window and the cursor stand just behind the last row. -/
structure Beyond (count : Nat) (window : RowWindow) : Prop where
  offset : window.offset = count
  cursor : window.cursor = 0

theorem selected_moveEnd_lt (hcount : 0 < count) (hheight : 0 < window.height) :
    (window.moveEnd count).selected < count := by
  rw [selected_moveEnd hheight, if_pos hcount]
  omega

theorem selected_step_lt (h : window.selected < count)
    (hend : message = .moveEnd → 0 < window.height) :
    (window.step count message).selected < count := by
  have hdown : ∀ rows, (window.moveDown count rows).selected < count := by
    intro rows
    rw [selected_moveDown (fun _ => h)]
    split <;> omega
  cases message with
  | moveUp rows => exact Nat.lt_of_le_of_lt (selected_moveUp window rows ▸ Nat.sub_le _ _) h
  | pageUp => exact Nat.lt_of_le_of_lt (selected_moveUp window _ ▸ Nat.sub_le _ _) h
  | moveDown rows => exact hdown rows
  | pageDown => exact hdown _
  | moveBeginning => exact Nat.zero_lt_of_lt h
  | moveEnd => exact selected_moveEnd_lt (Nat.zero_lt_of_lt h) (hend rfl)
  | resize width height => exact (selected_resize window _).symm ▸ h
  | quit | moveLeft | moveRight | followLink | copyCell => exact h

/-- **A cursor inside stays inside**, unless it goes to the end while no row fits. -/
theorem Inside.step (h : Inside count window) (hend : message = .moveEnd → 0 < window.height) :
    Inside count (window.step count message) where
  row := selected_step_lt h.row hend
  cursor := CursorFits.step h.cursor count message

theorem beyond_moveEnd (hcount : 0 < count) (hheight : window.height = 0) :
    Beyond count (window.moveEnd count) := by
  rw [RowWindow.moveEnd, if_neg (by omega), hheight]
  constructor
  · rfl
  · simp only
    omega

end RowWindow

/-- The message leaves a cursor that is behind the last row there. -/
def Message.KeepsBeyond : Message → Prop
  | .moveUp rows => rows = 0
  | .pageUp | .moveBeginning | .moveEnd => False
  | .quit | .moveDown _ | .pageDown | .moveLeft | .moveRight | .followLink | .copyCell
  | .resize _ _ => True

namespace RowWindow

variable {count : Nat} {window : RowWindow} {message : Message}

theorem Beyond.step (h : Beyond count window) (hkeeps : message.KeepsBeyond) :
    Beyond count (window.step count message) := by
  obtain ⟨hoffset, hcursor⟩ := h
  -- there is no row to go down to from here
  have hlast : ∀ rows, window.moveDown count rows = window := fun rows =>
    if_pos (.inr (by simp only [selected]; omega))
  cases message with
  | moveUp rows =>
    obtain rfl : rows = 0 := hkeeps
    constructor
    · simp only [RowWindow.step, RowWindow.moveUp, selected]
      omega
    · simp only [RowWindow.step, RowWindow.moveUp, selected]
      omega
  | moveDown rows =>
    show Beyond count (window.moveDown count rows)
    rw [hlast]
    exact ⟨hoffset, hcursor⟩
  | pageDown =>
    show Beyond count (window.moveDown count (max window.height 1))
    rw [hlast]
    exact ⟨hoffset, hcursor⟩
  | resize width height =>
    simp only [RowWindow.step, RowWindow.resize]
    split
    · exact ⟨hoffset, hcursor⟩
    · constructor
      · simp only
        omega
      · simp only
        omega
  | quit | moveLeft | moveRight | followLink | copyCell => exact ⟨hoffset, hcursor⟩
  | pageUp | moveBeginning | moveEnd => exact absurd hkeeps id

/-- Every message that does not keep it there brings it back, unless it is such a move to the
end again. -/
theorem Beyond.inside_step (hcount : 0 < count) (h : Beyond count window)
    (hleaves : ¬message.KeepsBeyond) (hend : message = .moveEnd → 0 < window.height) :
    Inside count (window.step count message) where
  row := by
    obtain ⟨hoffset, hcursor⟩ := h
    have hup : ∀ rows, 0 < rows → (window.moveUp rows).selected < count := by
      intro rows hrows
      rw [selected_moveUp, selected]
      omega
    cases message with
    | moveUp rows => exact hup rows (Nat.pos_of_ne_zero hleaves)
    | pageUp => exact hup _ (by omega)
    | moveBeginning => exact hcount
    | moveEnd => exact selected_moveEnd_lt hcount (hend rfl)
    | quit | moveDown _ | pageDown | moveLeft | moveRight | followLink | copyCell | resize _ _ =>
      exact absurd trivial hleaves
  cursor := by
    have hcursor := h.cursor
    exact CursorFits.step (fun hheight => by omega) count message

end RowWindow

/-- A move to the end was made while no row fitted, and nothing since has moved the
cursor up or to the end again. -/
def Stranded (height : Nat) (messages : List Message) : Prop :=
  ∃ before after, messages = before ++ .moveEnd :: after ∧ bodyHeight height before = 0 ∧
    ∀ message ∈ after, message.KeepsBeyond

theorem not_stranded_nil (height : Nat) : ¬Stranded height [] := by
  rintro ⟨before, after, hmessages, -, -⟩
  cases before <;> cases hmessages

/-- A run is stranded by its last message, or was before and stays so. -/
theorem stranded_concat {height : Nat} {messages : List Message} {message : Message} :
    Stranded height (messages ++ [message]) ↔
      (message = .moveEnd ∧ bodyHeight height messages = 0) ∨
        (message.KeepsBeyond ∧ Stranded height messages) := by
  constructor
  · rintro ⟨before, after, hmessages, hheight, hafter⟩
    rcases concat_eq_append_cons_iff.mp hmessages with ⟨rfl, hlast, -⟩ | ⟨rest, rfl, rfl⟩
    · exact .inl ⟨hlast, hheight⟩
    · refine .inr ⟨hafter message (by simp), before, rest, rfl, hheight, ?_⟩
      intro other hother
      exact hafter other (List.mem_append_left _ hother)
  · rintro (⟨rfl, hheight⟩ | ⟨hkeeps, before, rest, hmessages, hheight, hrest⟩)
    · exact ⟨messages, [], rfl, hheight, by simp⟩
    · refine ⟨before, rest ++ [message],
        concat_eq_append_cons_iff.mpr (.inr ⟨rest, hmessages, rfl⟩), hheight, ?_⟩
      intro other hother
      rcases List.mem_append.mp hother with hother | hother
      · exact hrest other hother
      · rw [List.mem_singleton.mp hother]
        exact hkeeps

namespace RowWindow

variable {count : Nat}

/-- **Where the rows of a run are**: behind the last row if it is stranded, and else
inside. -/
theorem beyond_or_inside_after (height : Nat) (hcount : 0 < count) (messages : List Message) :
    (Stranded height messages → Beyond count (after count height messages)) ∧
      (¬Stranded height messages → Inside count (after count height messages)) := by
  induction messages using List.reverseRecOn with
  | nil =>
    refine ⟨fun hstranded => absurd hstranded (not_stranded_nil height), fun _ => ?_⟩
    exact ⟨hcount, fun hheight => hheight⟩
  | append_singleton messages message ih =>
    obtain ⟨hbeyond, hinside⟩ := ih
    have hheight := height_after count height messages
    rw [after_concat, stranded_concat, ← hheight]
    -- a cursor gets behind the last row by this message, or it was there and this
    -- message keeps it; from there any other message brings it back
    constructor
    · rintro (⟨rfl, hzero⟩ | ⟨hkeeps, hstranded⟩)
      · exact beyond_moveEnd hcount hzero
      · exact (hbeyond hstranded).step hkeeps
    · intro hnot
      have hend : message = .moveEnd → 0 < (after count height messages).height := by
        intro hmessage
        exact Nat.pos_of_ne_zero fun hzero => hnot (.inl ⟨hmessage, hzero⟩)
      by_cases hstranded : Stranded height messages
      · exact (hbeyond hstranded).inside_step hcount
          (fun hkeeps => hnot (.inr ⟨hkeeps, hstranded⟩)) hend
      · exact (hinside hstranded).step hend

end RowWindow

namespace Viewer

variable {viewer : Viewer}

/-- The selected row is one of the table, and it is on the screen if rows fit. -/
structure SelectsShown (height : Nat) (messages : List Message) (viewer : Viewer) : Prop where
  row : viewer.window.absoluteRow < viewer.window.rowCount
  shown : 0 < bodyHeight height messages →
    viewer.window.columns ≠ [] ∧
      ∀ column ∈ viewer.window.columns, viewer.window.selectedRow < column.texts.length

theorem Exact.length_texts {source : Source} (h : Exact source viewer) :
    ∀ column ∈ viewer.window.columns, column.texts.length = viewer.shownRows := by
  intro column hcolumn
  obtain ⟨i, hi, rfl⟩ := List.getElem_of_mem hcolumn
  have hlength := h.columns.length_eq
  exact (h.columns.get (by omega) hi).length

/-- **The selection is in the table and on the screen** after a run exactly if the run
is not stranded. -/
theorem selectsShown_iff_not_stranded {name : String} {clipboard : Option Clipboard}
    {source : Source} {earlier : List Nat} {width height : Nat} {messages : List Message}
    (hcount : 0 < source.rowCount)
    (h : browse name clipboard source earlier width height messages = .ok viewer) :
    SelectsShown height messages viewer ↔ ¬Stranded height messages := by
  obtain ⟨hs, hc⟩ := current_browse h
  have hexact := hc.exact hs
  have hrows := rowWindow_browse h
  have habsolute : viewer.window.absoluteRow =
      (RowWindow.after source.rowCount height messages).selected := by
    rw [hexact.absoluteRow, ← hrows]
    rfl
  obtain ⟨hbeyond, hinside⟩ :=
    RowWindow.beyond_or_inside_after height hcount messages
  constructor
  · intro hselects hstranded
    obtain ⟨hoffset, hcursor⟩ := hbeyond hstranded
    have hrow := hselects.row
    rw [habsolute, hexact.rowCount, RowWindow.selected] at hrow
    omega
  · intro hnot
    have hin := hinside hnot
    refine ⟨by rw [habsolute, hexact.rowCount]; exact hin.row, fun hheight => ⟨?_, ?_⟩⟩
    · obtain ⟨numbers, others, hcolumns, -⟩ := hexact.exists_numbers
      rw [hcolumns]
      exact List.cons_ne_nil _ _
    · intro column hcolumn
      rw [hexact.length_texts column hcolumn, hexact.selectedRow, shownRows, TableView.rowCount,
        hexact.table]
      rw [← hrows] at hin
      have hrow := hin.row
      have hcursor := hin.cursor (by rw [hrows, RowWindow.height_after]; exact hheight)
      simp only [rowWindow, RowWindow.selected] at hrow hcursor
      omega

/-- A run that was stranded, and then moves up in a window with rows. -/
theorem selectsShown_after_moveUp :
    ∃ viewer, browse "" none (.grid 3 2) [] 80 2 [.moveEnd, .moveDown 1, .resize 80 4, .moveUp 2] =
        .ok viewer ∧
      SelectsShown 2 [.moveEnd, .moveDown 1, .resize 80 4, .moveUp 2] viewer := by
  have hok : (browse "" none (.grid 3 2) [] 80 2
      [.moveEnd, .moveDown 1, .resize 80 4, .moveUp 2]).isOk = true := by cbv
  obtain ⟨viewer, h⟩ := exists_eq_ok_of_isOk hok
  refine ⟨viewer, h, (selectsShown_iff_not_stranded (by decide) h).mpr ?_⟩
  show ¬Stranded 2 ([.moveEnd, .moveDown 1, .resize 80 4] ++ [.moveUp 2])
  rw [stranded_concat]
  rintro (⟨hmessage, -⟩ | ⟨hkeeps, -⟩)
  · cases hmessage
  · exact absurd hkeeps (show ¬2 = 0 from by decide)

/-- A move to the end while no row fits selects the row behind the last one, and no row
is on the screen when there is room again. -/
theorem selection_behind_last_row :
    ∃ viewer, browse "" none (.grid 1 1) [] 80 2 [.moveEnd, .resize 80 24] = .ok viewer ∧
      viewer.window.absoluteRow = viewer.window.rowCount ∧
      ¬SelectsShown 2 [.moveEnd, .resize 80 24] viewer := by
  have hok : (browse "" none (.grid 1 1) [] 80 2 [.moveEnd, .resize 80 24]).isOk = true := by cbv
  obtain ⟨viewer, h⟩ := exists_eq_ok_of_isOk hok
  obtain ⟨hs, hc⟩ := current_browse h
  have hexact := hc.exact hs
  have hrow : viewer.window.absoluteRow = viewer.window.rowCount := by
    rw [hexact.absoluteRow, hexact.rowCount]
    have hselected := congrArg RowWindow.selected (rowWindow_browse h)
    exact hselected.trans (by decide)
  refine ⟨viewer, h, hrow, fun hselects => ?_⟩
  exact absurd hselects.row (by omega)

end Viewer

end AttributeBrowser
