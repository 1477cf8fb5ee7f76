import AttributeBrowser.Proofs.Viewer.Selection

/-!
# The window stays full between enlargements

A window is `Full` if it begins at the first row of the table or ends within it: it then has
as many rows as fit, or all rows if these are fewer. Every message keeps it full that does
not make more rows fit, so only a higher screen can leave lines blank below the last row
while rows above the window are hidden.
-/

namespace AttributeBrowser

namespace RowWindow

variable {count : Nat} {window : RowWindow} {message : Message}

/-- The number of rows of a table of `count` rows that the window shows. -/
def shownRows (count : Nat) (window : RowWindow) : Nat :=
  min (window.offset + window.height) count - window.offset

/-- The window begins at the first row or ends within the table; and as long as rows fit in
it, the cursor stands on a row of the table, or on its first place. -/
structure Full (count : Nat) (window : RowWindow) : Prop where
  bottom : window.offset = 0 ∨ window.offset + window.height ≤ count
  row : 0 < window.height → window.selected < max count 1

/-- A full window has no blank line that a row above it could fill. -/
theorem Full.shownRows_eq (h : Full count window) :
    window.shownRows count = min count window.height := by
  have hbottom := h.bottom
  unfold shownRows
  omega

theorem full_start (count height : Nat) : Full count ⟨0, 0, height⟩ where
  bottom := .inl rfl
  row := by
    intro _
    show 0 < max count 1
    omega

/-- A window that moves up does not move down. -/
theorem Full.moveUp (h : Full count window) (rows : Nat) : Full count (window.moveUp rows) where
  bottom := by
    have hbottom := h.bottom
    simp only [RowWindow.moveUp]
    omega
  row := by
    intro hheight
    have hrow := h.row hheight
    rw [selected_moveUp]
    omega

/-- A window that follows the cursor down ends right below it. -/
theorem Full.moveDown (h : Full count window) (rows : Nat) :
    Full count (window.moveDown count rows) := by
  by_cases hmoves : window.CanMoveDown count
  · rw [moveDown_of_canMoveDown hmoves]
    obtain ⟨hheight, hbelow⟩ := hmoves
    have hbottom := h.bottom
    simp only [selected] at hbelow
    constructor
    · simp only [selected]
      omega
    · intro _
      simp only [selected]
      omega
  · rw [moveDown_of_not_canMoveDown hmoves]
    exact h

theorem Full.moveEnd (h : Full count window) : Full count (window.moveEnd count) := by
  by_cases hcount : count = 0
  · rw [RowWindow.moveEnd, if_pos hcount]
    exact h
  · rw [RowWindow.moveEnd, if_neg hcount]
    constructor
    · simp only
      omega
    · intro hheight
      simp only [selected] at hheight ⊢
      omega

/-- A lower window ends where it did, or right below the cursor. -/
theorem Full.resize (h : Full count window) {height : Nat} (hlower : height ≤ window.height) :
    Full count (window.resize height) := by
  have hbottom := h.bottom
  unfold RowWindow.resize
  split
  · refine ⟨?_, fun hheight => absurd hheight (Nat.lt_irrefl 0)⟩
    simp only
    omega
  · rename_i hheight
    have hrow := h.row (by omega)
    simp only [selected] at hrow
    constructor
    · simp only
      omega
    · intro _
      simp only [selected]
      omega

/-- **A full window stays full** if no more rows fit in it than before. -/
theorem Full.step (h : Full count window)
    (hlower : message.bodyHeight window.height ≤ window.height) :
    Full count (window.step count message) := by
  cases message with
  | moveUp rows => exact h.moveUp rows
  | pageUp => exact h.moveUp _
  | moveDown rows => exact h.moveDown rows
  | pageDown => exact h.moveDown _
  | moveBeginning => exact full_start count window.height
  | moveEnd => exact h.moveEnd
  | resize width height => exact h.resize hlower
  | quit | moveLeft | moveRight | followLink | copyCell => exact h

end RowWindow

/-- No message makes more rows fit than fitted just before. -/
def NeverHigher (height : Nat) (messages : List Message) : Prop :=
  ∀ before after width' height', messages = before ++ .resize width' height' :: after →
    height' - Viewer.frameHeight ≤ bodyHeight height before

theorem neverHigher_nil (height : Nat) : NeverHigher height [] := by
  intro before after width' height' hmessages
  cases before <;> cases hmessages

/-- Of a longer run, the last message and the run before make no more rows fit. -/
theorem neverHigher_concat {height : Nat} {messages : List Message} {message : Message} :
    NeverHigher height (messages ++ [message]) ↔
      NeverHigher height messages ∧
        message.bodyHeight (bodyHeight height messages) ≤ bodyHeight height messages := by
  constructor
  · intro h
    constructor
    · intro before after width' height' hmessages
      exact h before (after ++ [message]) width' height'
        (concat_eq_append_cons_iff.mpr (.inr ⟨after, hmessages, rfl⟩))
    · cases message with
      | resize width' height' => exact h messages [] width' height' rfl
      | _ => exact Nat.le_refl _
  · rintro ⟨hbefore, hlast⟩ before after width' height' hmessages
    rcases concat_eq_append_cons_iff.mp hmessages with ⟨rfl, rfl, -⟩ | ⟨rest, hrest, -⟩
    · exact hlast
    · exact hbefore before rest width' height' hrest

theorem RowWindow.full_after (count : Nat) {height : Nat} {messages : List Message}
    (h : NeverHigher height messages) : Full count (after count height messages) := by
  induction messages using List.reverseRecOn with
  | nil => exact full_start count _
  | append_singleton messages message ih =>
    obtain ⟨hbefore, hlast⟩ := neverHigher_concat.mp h
    rw [after_concat]
    refine (ih hbefore).step ?_
    rw [height_after]
    exact hlast

namespace Viewer

variable {viewer : Viewer}

/-- The rows that are shown are those of the window of rows. -/
theorem shownRows_eq (viewer : Viewer) :
    viewer.shownRows = viewer.rowWindow.shownRows viewer.table.rowCount := rfl

/-- **The window stays full between enlargements.** After every run that does not fault and in
which no message makes more rows fit, a viewer shows columns, and each has as many rows as
fit, or all rows of the source if these are fewer. -/
theorem window_stays_full {name : String} {clipboard : Option Clipboard} {source : Source}
    {earlier : List Nat} {width height : Nat} {messages : List Message}
    (h : browse name clipboard source earlier width height messages = .ok viewer)
    (hlower : NeverHigher height messages) :
    viewer.height = bodyHeight height messages ∧ viewer.window.columns ≠ [] ∧
      ∀ column ∈ viewer.window.columns,
        column.texts.length = min source.rowCount viewer.height := by
  obtain ⟨hs, hc⟩ := current_browse h
  have hexact := hc.exact hs
  have hrows := rowWindow_browse h
  refine ⟨?_, ?_, fun column hcolumn => ?_⟩
  · rw [← RowWindow.height_after source.rowCount, ← hrows]
    rfl
  · obtain ⟨numbers, others, hcolumns, -⟩ := hexact.exists_numbers
    rw [hcolumns]
    exact List.cons_ne_nil _ _
  · have hfull := RowWindow.full_after source.rowCount hlower
    rw [← hrows] at hfull
    rw [hexact.length_texts column hcolumn, shownRows_eq, TableView.rowCount, hs.table,
      hfull.shownRows_eq]
    rfl

/-- A run to the end and back on a screen that gets lower twice. -/
theorem window_stays_full_lower :
    ∃ viewer, browse "" none (.grid 5 2) [] 80 6
        [.moveDown 3, .resize 80 5, .moveEnd, .moveUp 1, .resize 80 4, .pageUp] = .ok viewer ∧
      NeverHigher 6 [.moveDown 3, .resize 80 5, .moveEnd, .moveUp 1, .resize 80 4, .pageUp] ∧
      ∀ column ∈ viewer.window.columns, column.texts.length = 2 := by
  have hok : (browse "" none (.grid 5 2) [] 80 6
      [.moveDown 3, .resize 80 5, .moveEnd, .moveUp 1, .resize 80 4, .pageUp]).isOk = true := by cbv
  obtain ⟨viewer, h⟩ := exists_eq_ok_of_isOk hok
  have hlower : NeverHigher 6 ([] ++ [.moveDown 3] ++ [.resize 80 5] ++ [.moveEnd] ++
      [.moveUp 1] ++ [.resize 80 4] ++ [.pageUp]) := by
    simp only [neverHigher_concat, neverHigher_nil]
    decide
  obtain ⟨hheight, -, hrows⟩ := window_stays_full h hlower
  refine ⟨viewer, h, hlower, ?_⟩
  rw [hheight] at hrows
  exact hrows

end Viewer

end AttributeBrowser
