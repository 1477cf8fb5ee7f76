import AttributeBrowser.Proofs.Table.View
import AttributeBrowser.Proofs.Viewer.Layout

/-!
# The window is always exact and current

A viewer is `Current` if its window is the one that showing it anew would give, and if
every cell in it is remembered. Showing the window makes a viewer current, whatever it
was before, and no message breaks it: those that move the cursor or the window show it
anew, and the others touch neither the window nor a remembered cell. As what is
remembered is what the source says, the window is the source's, cell by cell
(`Exact`), and showing it once more changes nothing.
-/

namespace AttributeBrowser

namespace Viewer

variable {view nextView : TableView} {numbers : RowNumbers} {viewer next : Viewer}

/-! ## The columns shown -/

/-- What is shown of a column is what the view holds. -/
structure Shows (view : TableView) (numbers : RowNumbers) (rows : List Nat) (column : Nat)
    (shown : ShownColumn) : Prop where
  name : view.columnName column = .ok shown.name
  width : view.columnWidth column = .ok shown.width
  type : view.columnType column = .ok shown.type
  texts : List.Forall₂ (fun row text => view.Holds numbers row column text) rows shown.texts

theorem Shows.extends {rows : List Nat} {column : Nat} {shown : ShownColumn}
    (h : Shows view numbers rows column shown) (hx : view.Extends nextView) :
    Shows nextView numbers rows column shown where
  name := by
    cases column with
    | zero => exact h.name
    | succ column => simpa only [TableView.columnName, hx.source] using h.name
  width := by simpa only [TableView.columnWidth, hx.source] using h.width
  type := by
    cases column with
    | zero => exact h.type
    | succ column => simpa only [TableView.columnType, hx.source] using h.type
  texts := h.texts.imp fun _ _ hholds => hholds.extends hx

/-- Showing a column asks for its texts from top to bottom, and then for its head. -/
theorem showColumn_eq_ok_iff {rows : List Nat} {column : Nat} {shown : ShownColumn} :
    showColumn numbers rows view column = .ok (shown, nextView) ↔
      view.texts numbers (rows.map (·, column)) = (.ok shown.texts, nextView) ∧
      nextView.columnName column = .ok shown.name ∧
      nextView.columnWidth column = .ok shown.width ∧
      nextView.columnType column = .ok shown.type := by
  unfold showColumn
  constructor
  · intro h
    split at h
    · cases h
    · rename_i texts table htexts
      obtain ⟨name, hname, h⟩ := bind_eq_ok_iff.mp h
      obtain ⟨width, hwidth, h⟩ := bind_eq_ok_iff.mp h
      obtain ⟨type, htype, h⟩ := bind_eq_ok_iff.mp h
      cases h
      exact ⟨htexts, hname, hwidth, htype⟩
  · rintro ⟨htexts, hname, hwidth, htype⟩
    rw [htexts]
    simp only [hname, hwidth, htype]
    rfl

/-- What answered requests for the places of `S` keep is kept by showing columns of them. -/
theorem showColumns_keeps {P : TableView → Prop} {S : Nat × Nat → Prop}
    (hcell : ∀ (view next : TableView) (row column : Nat) (cell : Cell), P view → S (row, column) →
      view.cell numbers row column = (.ok cell, next) → P next)
    {rows columns : List Nat} {shown : List ShownColumn} (h : P view)
    (hshow : showColumns numbers rows columns view = .ok (shown, nextView))
    (hin : ∀ row ∈ rows, ∀ column ∈ columns, S (row, column)) : P nextView := by
  induction columns generalizing view shown with
  | nil =>
    cases hshow
    exact h
  | cons column rest ih =>
    obtain ⟨⟨first, middle⟩, hfirst, hshow⟩ := bind_eq_ok_iff.mp hshow
    obtain ⟨⟨others, last⟩, hrest, hshow⟩ := bind_eq_ok_iff.mp hshow
    cases hshow
    obtain ⟨htexts, -, -, -⟩ := showColumn_eq_ok_iff.mp hfirst
    have hmiddle := TableView.texts_keeps_of_ok hcell h htexts (by
      intro place hplace
      obtain ⟨row, hrow, rfl⟩ := List.mem_map.mp hplace
      exact hin row hrow column (by simp))
    exact ih hmiddle hrest fun row hrow column hmem => hin row hrow column (by simp [hmem])

/-- Columns that have been shown are held afterwards. -/
theorem showColumns_shows (hf : view.Faithful) {rows columns : List Nat}
    {shown : List ShownColumn}
    (h : showColumns numbers rows columns view = .ok (shown, nextView))
    (hrows : ∀ row ∈ rows, row < view.source.rowCount)
    (hcolumns : ∀ column ∈ columns, column ≤ view.source.columnCount) :
    nextView.Faithful ∧ view.Extends nextView ∧
      List.Forall₂ (Shows nextView numbers rows) columns shown := by
  induction columns generalizing view shown with
  | nil =>
    cases h
    exact ⟨hf, .refl _, .nil⟩
  | cons column rest ih =>
    obtain ⟨⟨first, middle⟩, hfirst, h⟩ := bind_eq_ok_iff.mp h
    obtain ⟨⟨others, last⟩, hrest, h⟩ := bind_eq_ok_iff.mp h
    cases h
    obtain ⟨htexts, hname, hwidth, htype⟩ := showColumn_eq_ok_iff.mp hfirst
    have hcolumn := hcolumns column (by simp)
    obtain ⟨hf', hx, hholds⟩ := hf.holds_texts htexts (by
      intro place hplace
      obtain ⟨row, hrow, rfl⟩ := List.mem_map.mp hplace
      exact ⟨hrows row hrow, hcolumn⟩)
    rw [List.forall₂_map_left_iff] at hholds
    obtain ⟨hf'', hx', hothers⟩ := ih hf' hrest
      (fun row hrow => by rw [hx.source]; exact hrows row hrow)
      (fun column hmem => by rw [hx.source]; exact hcolumns column (by simp [hmem]))
    -- the columns to the right may add to the memo, but they forget nothing
    have hshows : Shows middle numbers rows column first := ⟨hname, hwidth, htype, hholds⟩
    exact ⟨hf'', hx.trans hx', .cons (hshows.extends hx') hothers⟩

theorem showColumn_of_shows {rows : List Nat} {column : Nat} {shown : ShownColumn}
    (h : Shows view numbers rows column shown) :
    showColumn numbers rows view column = .ok (shown, view) := by
  have hplaces : List.Forall₂ (fun place text => view.Holds numbers place.1 place.2 text)
      (rows.map (·, column)) shown.texts := by
    rw [List.forall₂_map_left_iff]
    exact h.texts
  exact showColumn_eq_ok_iff.mpr ⟨TableView.texts_of_holds hplaces, h.name, h.width, h.type⟩

/-- Showing held columns changes nothing. -/
theorem showColumns_of_shows {rows columns : List Nat} {shown : List ShownColumn}
    (h : List.Forall₂ (Shows view numbers rows) columns shown) :
    showColumns numbers rows columns view = .ok (shown, view) := by
  induction h with
  | nil => rfl
  | cons hfirst _ ih =>
    simp only [showColumns, showColumn_of_shows hfirst, bind, Except.bind, ih]
    rfl

/-! ## Current viewers -/

/-- The viewer shows a table of `source` that can be trusted: it remembers what the
source says, and every row has its number. -/
structure Sound (source : Source) (viewer : Viewer) : Prop where
  table : viewer.table.source = source
  faithful : viewer.table.Faithful
  counting : viewer.numbers.Counting
  numbered : source.rowCount ≤ viewer.numbers.size

/-- The window is the one that showing it anew would give, and every cell in it is held. -/
structure Current (viewer : Viewer) : Prop where
  layout : layout viewer.table viewer.width viewer.offsetColumn = .ok viewer.shown
  bottom : viewer.offsetRow + viewer.height < Size.limit
  columns : List.Forall₂ (Shows viewer.table viewer.numbers viewer.rowsShown) viewer.shown
    viewer.window.columns
  selected : viewer.offsetRow + viewer.cursorRow < Size.limit
  same : viewer.showing viewer.shown viewer.window.columns viewer.table = viewer

/-- Showing a current window anew changes nothing. -/
theorem Current.refresh (h : Current viewer) : viewer.refresh = .ok viewer :=
  refresh_eq_ok_iff.mpr ⟨viewer.shown, viewer.window.columns, viewer.table, h.layout, h.bottom,
    showColumns_of_shows h.columns, h.selected, h.same.symm⟩

theorem Sound.unshown {source : Source} (name : String) (clipboard : Option Clipboard)
    (hcounting : numbers.Counting) (hnumbered : source.rowCount ≤ numbers.size) :
    Sound source (unshown name clipboard source numbers) :=
  ⟨rfl, .fresh source, hcounting, hnumbered⟩

theorem Sound.congr {source : Source} (hs : Sound source viewer)
    (htable : next.table = viewer.table) (hnumbers : next.numbers = viewer.numbers) :
    Sound source next := by
  constructor
  · rw [htable]
    exact hs.table
  · rw [htable]
    exact hs.faithful
  · rw [hnumbers]
    exact hs.counting
  · rw [hnumbers]
    exact hs.numbered

/-- The columns shown are laid out as the source alone says. -/
theorem Current.layout_source {source : Source} (hc : Current viewer) (hs : Sound source viewer) :
    Viewer.layout { source } viewer.width viewer.offsetColumn = .ok viewer.shown := by
  rw [← hc.layout]
  exact (layout_congr hs.table _ _).symm

/-- **Showing the window makes it current**, wherever the cursor and the window were
moved before. -/
theorem Sound.refresh {source : Source} {moved : Viewer} (hs : Sound source viewer)
    (h : moved.refresh = .ok next) (htable : moved.table = viewer.table)
    (hnumbers : moved.numbers = viewer.numbers) : Sound source next ∧ Current next := by
  replace hs : Sound source moved := hs.congr htable hnumbers
  obtain ⟨shown, columns, table, hlayout, hbottom, hcolumns, hselected, rfl⟩ :=
    refresh_eq_ok_iff.mp h
  obtain ⟨-, hle⟩ := layout_eq_ok hlayout
  obtain ⟨hf, hx, hshows⟩ :=
    showColumns_shows hs.faithful hcolumns (fun _ => lt_of_mem_rowsShown) hle
  -- the memo has grown, but rows and layout are told by the source alone
  have hrows : (moved.showing shown columns table).rowsShown = moved.rowsShown := by
    simp only [rowsShown, shownRows, showing, TableView.rowCount, hx.source]
  refine ⟨⟨hx.source.trans hs.table, hf, hs.counting, hs.numbered⟩, ?_⟩
  refine ⟨(layout_congr hx.source _ _).trans hlayout, hbottom, ?_, hselected, ?_⟩
  · rw [hrows]
    exact hshows
  · simp only [showing, TableView.rowCount, hx.source]

/-- Scrolling shows the window anew at every pass, so it cannot leave an old one. -/
theorem Sound.scrollToCursor {source : Source} (hs : Sound source viewer) (hc : Current viewer)
    (h : viewer.scrollToCursor = .ok next) : Sound source next ∧ Current next := by
  refine scrollToCursor_induct (P := fun viewer => Sound source viewer ∧ Current viewer) ?_ h
    ⟨hs, hc⟩
  intro middle last ⟨hsound, _⟩ hshow
  exact hsound.refresh hshow rfl rfl

/-- The status, the clipboard, the links followed and the message are no part of what the
window shows. -/
theorem Current.reply (h : Current viewer) (status : Status) (clipboard : Option Clipboard)
    (followed : List LinkTarget) (message : String) :
    Current (Viewer.say { viewer with status, clipboard, followed } message) where
  layout := h.layout
  bottom := h.bottom
  columns := h.columns
  selected := h.selected
  same := congrArg
    (fun viewer : Viewer => Viewer.say { viewer with status, clipboard, followed } message) h.same

/-- More in the memo is no part of what the window shows. -/
theorem Current.withTable (h : Current viewer) {table : TableView}
    (hx : viewer.table.Extends table) : Current { viewer with table } where
  layout := (layout_congr hx.source _ _).trans h.layout
  bottom := h.bottom
  columns := by
    have hrows : Viewer.rowsShown { viewer with table } = viewer.rowsShown := by
      simp only [rowsShown, shownRows, TableView.rowCount, hx.source]
    rw [hrows]
    exact h.columns.imp fun _ _ hshows => hshows.extends hx
  selected := h.selected
  same := by
    have hsame := congrArg (fun viewer : Viewer => { viewer with table }) h.same
    simpa only [showing, TableView.rowCount, hx.source] using hsame

/-- A resized viewer is current, also one that has shown nothing yet. -/
theorem Step.current_of_resize {source : Source} {width height : Nat}
    (h : Step viewer (.resize width height) next) (hs : Sound source viewer) :
    Sound source next ∧ Current next := by
  obtain ⟨middle, hshow, hscroll⟩ := h.exists_of_resize
  obtain ⟨hs', hc'⟩ := hs.refresh hshow rfl rfl
  exact hs'.scrollToCursor hc' hscroll

/-- **No message leaves an old window.** -/
theorem Step.current {source : Source} {message : Message} (h : Step viewer message next)
    (hs : Sound source viewer) (hc : Current viewer) : Sound source next ∧ Current next := by
  cases h with
  | quit =>
    exact ⟨hs.congr rfl rfl,
      hc.reply .quitting viewer.clipboard viewer.followed viewer.window.message⟩
  | rows _ hshow => exact hs.refresh hshow rfl rfl
  | sameRows _ _ => exact ⟨hs, hc⟩
  | left _ hshow => exact hs.refresh hshow rfl rfl
  | firstColumn _ => exact ⟨hs, hc⟩
  | right _ hshow hscroll =>
    obtain ⟨hs', hc'⟩ := hs.refresh hshow rfl rfl
    exact hs'.scrollToCursor hc' hscroll
  | lastColumn _ => exact ⟨hs, hc⟩
  | follow _ _ => exact ⟨hs.congr rfl rfl, hc.reply viewer.status viewer.clipboard _ _⟩
  | @copy cell table outcome clipboard _ hcell _ =>
    obtain ⟨hf, hx⟩ :=
      hs.faithful.after_cell viewer.numbers viewer.rowWindow.selected viewer.cursorColumn
    rw [hcell] at hf hx
    exact ⟨⟨hx.source.trans hs.table, hf, hs.counting, hs.numbered⟩,
      (hc.withTable hx).reply viewer.status clipboard viewer.followed _⟩
  | noPlace _ _ => exact ⟨hs, hc⟩
  | resize hshow hscroll => exact Step.current_of_resize (.resize hshow hscroll) hs

/-- Every viewer that has been shown is current, and what is shown of runs may use it:
the rule for properties `P` of a run that are kept between current viewers. -/
theorem browse_current_induct {P : List Message → Viewer → Prop} {name : String}
    {clipboard : Option Clipboard} {source : Source} {earlier : List Nat} {width height : Nat}
    (hstart : ∀ (numbers : RowNumbers) (first : Viewer) (message : String),
      Sound source (unshown name clipboard source numbers) →
      Step (unshown name clipboard source numbers) (.resize width height) first →
      P [] (first.say message))
    (hstep : ∀ (messages : List Message) (viewer next : Viewer) (message : Message),
      Sound source viewer → Current viewer → P messages viewer → Step viewer message next →
      P (messages ++ [message]) next)
    {messages : List Message}
    (h : browse name clipboard source earlier width height messages = .ok viewer) :
    Sound source viewer ∧ Current viewer ∧ P messages viewer := by
  refine browse_induct (P := fun messages viewer =>
    Sound source viewer ∧ Current viewer ∧ P messages viewer) ?_ ?_ h
  · intro numbers first message hcounting hnumbered hfirst
    have hsound := Sound.unshown name clipboard hcounting hnumbered
    obtain ⟨hs, hc⟩ := hfirst.current_of_resize hsound
    exact ⟨hs.congr rfl rfl, hc.reply first.status first.clipboard first.followed message,
      hstart numbers first message hsound hfirst⟩
  · intro messages viewer next message ⟨hs, hc, hp⟩ hnext
    obtain ⟨hs', hc'⟩ := hnext.current hs hc
    exact ⟨hs', hc', hstep messages viewer next message hs hc hp hnext⟩

/-! ## The window against the source -/

/-- What is shown of a column of a table is `count` rows of the source from `first` on. -/
structure Reads (view : TableView) (first count column : Nat) (shown : ShownColumn) : Prop where
  name : view.columnName column = .ok shown.name
  width : view.columnWidth column = .ok shown.width
  type : view.columnType column = .ok shown.type
  length : shown.texts.length = count
  texts : ∀ (i : Nat) (hi : i < shown.texts.length),
    view.source.textAt (first + i) column = .ok shown.texts[i]

/-- The window shows the source as it is at the place of the cursor. -/
structure Exact (source : Source) (viewer : Viewer) : Prop where
  table : viewer.table.source = source
  rowCount : viewer.window.rowCount = source.rowCount
  selectedRow : viewer.window.selectedRow = viewer.cursorRow
  absoluteRow : viewer.window.absoluteRow = viewer.offsetRow + viewer.cursorRow
  selectedColumn : viewer.window.selectedColumn =
    (viewer.shown.idxOf? viewer.cursorColumn).getD 0
  numbersFirst : ∃ others, viewer.shown = 0 :: others
  columns : List.Forall₂ (Reads viewer.table viewer.offsetRow viewer.shownRows) viewer.shown
    viewer.window.columns

theorem Shows.reads {column : Nat} {shown : ShownColumn} (hf : viewer.table.Faithful)
    (hn : viewer.numbers.Counting) (hsize : viewer.table.rowCount ≤ viewer.numbers.size)
    (h : Shows viewer.table viewer.numbers viewer.rowsShown column shown) :
    Reads viewer.table viewer.offsetRow viewer.shownRows column shown where
  name := h.name
  width := h.width
  type := h.type
  length := by rw [← h.texts.length_eq, rowsShown, List.length_range']
  texts := by
    intro i hi
    have hlength := h.texts.length_eq
    have hi' : i < viewer.rowsShown.length := by omega
    have hholds := h.texts.get hi' hi
    simp only [List.get_eq_getElem, rowsShown, List.getElem_range'] at hholds
    rw [rowsShown, List.length_range', shownRows] at hi'
    rw [show viewer.offsetRow + i = viewer.offsetRow + 1 * i from by omega]
    exact hholds.textAt hf hn (by omega)

theorem Current.exact {source : Source} (hs : Sound source viewer) (hc : Current viewer) :
    Exact source viewer := by
  have hwindow := congrArg Viewer.window hc.same
  refine ⟨hs.table, ?_, ?_, ?_, ?_, (layout_eq_ok hc.layout).1, ?_⟩
  · rw [← hwindow, ← hs.table]
    rfl
  · rw [← hwindow]
    rfl
  · rw [← hwindow]
    rfl
  · rw [← hwindow]
    rfl
  · have hsize : viewer.table.rowCount ≤ viewer.numbers.size := by
      rw [TableView.rowCount, hs.table]
      exact hs.numbered
    exact hc.columns.imp fun _ _ hshows => hshows.reads hs.faithful hs.counting hsize

/-- The first column shown holds the numbers of the rows shown. -/
theorem Exact.exists_numbers {source : Source} (h : Exact source viewer) :
    ∃ numbers others, viewer.window.columns = numbers :: others ∧
      numbers.name = TableView.numberColumnName ∧
      numbers.texts = viewer.rowsShown.map Nat.repr := by
  obtain ⟨others, hothers⟩ := h.numbersFirst
  have hcolumns := h.columns
  rw [hothers] at hcolumns
  obtain ⟨numbers, columns, hfirst, -, heq⟩ := List.forall₂_cons_left_iff.mp hcolumns
  refine ⟨numbers, columns, heq, ?_, ?_⟩
  · exact (Except.ok.inj hfirst.name).symm
  · apply List.ext_getElem
    · rw [hfirst.length, List.length_map, rowsShown, List.length_range']
    · intro i hi _
      have htext := Except.ok.inj (hfirst.texts i hi)
      simp only [rowsShown, List.getElem_map, List.getElem_range', Nat.one_mul]
      exact htext.symm

/-- Every viewer of a source that has been shown is sound and current. -/
theorem current_browse {name : String} {clipboard : Option Clipboard} {source : Source}
    {earlier : List Nat} {width height : Nat} {messages : List Message}
    (h : browse name clipboard source earlier width height messages = .ok viewer) :
    Sound source viewer ∧ Current viewer := by
  obtain ⟨hs, hc, -⟩ := browse_current_induct (P := fun _ _ => True)
    (fun _ _ _ _ _ => trivial) (fun _ _ _ _ _ _ _ _ => trivial) h
  exact ⟨hs, hc⟩

/-- **The window is always exact and current.** After every run that does not fault, the
window is the source's at the place of the cursor: the row numbers first, which never
read `null`, and then the cells as the source says them. Showing it anew changes
nothing. -/
theorem window_shows_source {name : String} {clipboard : Option Clipboard} {source : Source}
    {earlier : List Nat} {width height : Nat} {messages : List Message}
    (h : browse name clipboard source earlier width height messages = .ok viewer) :
    Exact source viewer ∧
    (∃ numbers others, viewer.window.columns = numbers :: others ∧
      numbers.name = TableView.numberColumnName ∧
      numbers.texts = viewer.rowsShown.map Nat.repr ∧
      RowNumbers.missing ∉ numbers.texts) ∧
    viewer.refresh = .ok viewer := by
  obtain ⟨hs, hc⟩ := current_browse h
  have hexact := hc.exact hs
  obtain ⟨numbers, others, hcolumns, hname, htexts⟩ := hexact.exists_numbers
  refine ⟨hexact, ⟨numbers, others, hcolumns, hname, htexts, ?_⟩, hc.refresh⟩
  rw [htexts]
  intro hmem
  obtain ⟨row, -, hrow⟩ := List.mem_map.mp hmem
  exact RowNumbers.repr_ne_missing row hrow

/-- A window that scrolls down and gets smaller, on row numbers that others have used. -/
theorem window_shows_source_smaller :
    ∃ viewer,
      browse "" none (.grid 3 2) [1] 80 4 [.moveDown 2, .moveRight, .resize 80 3] = .ok viewer ∧
      Exact (.grid 3 2) viewer ∧ viewer.refresh = .ok viewer := by
  have hok : (browse "" none (.grid 3 2) [1] 80 4
      [.moveDown 2, .moveRight, .resize 80 3]).isOk = true := by cbv
  obtain ⟨viewer, h⟩ := exists_eq_ok_of_isOk hok
  obtain ⟨hexact, -, hrefresh⟩ := window_shows_source h
  exact ⟨viewer, h, hexact, hrefresh⟩

/-! ## The rows of a run -/

/-- **The rows of a viewer after a run** are told by its messages alone. -/
theorem rowWindow_browse {name : String} {clipboard : Option Clipboard} {source : Source}
    {earlier : List Nat} {width height : Nat} {messages : List Message}
    (h : browse name clipboard source earlier width height messages = .ok viewer) :
    viewer.rowWindow = .after source.rowCount height messages := by
  refine (browse_current_induct (P := fun messages viewer =>
    viewer.rowWindow = .after source.rowCount height messages) ?_ ?_ h).2.2
  · intro numbers first message _ hfirst
    exact hfirst.rowWindow.trans (RowWindow.resize_start _)
  · intro messages viewer next message hs _ hrows hnext
    rw [hnext.rowWindow, hrows, RowWindow.after_concat, TableView.rowCount, hs.table]

end Viewer

end AttributeBrowser
