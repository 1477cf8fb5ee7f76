import AttributeBrowser.Proofs.Viewer.Steps
import AttributeBrowser.Screen.Columns

/-!
# Which columns are laid out

Behind the row numbers a layout has a run of columns from the first column of the window
on. The first of them is there whatever its width. The others are there as long as they
leave a square of the screen free, for the layout counts a blank behind each column and the
screen has blanks only between them (`Fitted`). So a column that is laid out from one
place is laid out from every later one as well, up to its own.
-/

namespace AttributeBrowser

/-! ## What columns take -/

theorem Columns.total_concat (first : Nat) (widths : List Nat) (last : Nat) :
    total (first :: widths ++ [last]) = total (first :: widths) + spacing + last := by
  show (first :: widths ++ [last]).sum + _ = (first :: widths).sum + _ + _ + last
  simp only [List.sum_append, List.sum_singleton, List.length_append, List.length_cons,
    List.length_nil, spacing]
  omega

namespace Source

variable {source : Source}

/-- The squares that a column of the table asks for, where it tells them. -/
def squares (source : Source) (column : Nat) : Nat := (source.columnWidth column).toOption.getD 0

theorem squares_of_ok {column width : Nat} (h : source.columnWidth column = .ok width) :
    source.squares column = width := by
  rw [squares, h]
  rfl

/-- What the row numbers and so many columns from `first` on take, with a blank between
neighbours. -/
def span (source : Source) (first : Nat) : Nat → Nat
  | 0 => source.squares 0
  | count + 1 => source.span first count + 1 + source.squares (first + count)

/-- One column more, behind the others. -/
theorem map_squares_concat (source : Source) (first count : Nat) :
    (0 :: List.range' first (count + 1)).map source.squares =
      (0 :: List.range' first count).map source.squares ++ [source.squares (first + count)] := by
  rw [List.range'_concat, Nat.one_mul, ← List.cons_append, List.map_append, List.map_singleton]

theorem total_squares (source : Source) (first count : Nat) :
    Columns.total ((0 :: List.range' first count).map source.squares) = source.span first count := by
  induction count with
  | zero => rfl
  | succ count ih =>
    rw [map_squares_concat, List.map_cons, Columns.total_concat, ← List.map_cons, ih]
    rfl

theorem span_mono (source : Source) (first : Nat) {count more : Nat} (h : count ≤ more) :
    source.span first count ≤ source.span first more := by
  induction h with
  | refl => exact Nat.le_refl _
  | step _ ih =>
    rw [span]
    omega

/-- The first column of a run, taken from its front. -/
theorem span_succ (source : Source) (first count : Nat) :
    source.span first (count + 1) = source.span (first + 1) count + 1 + source.squares first := by
  induction count with
  | zero => rfl
  | succ count ih =>
    rw [span, ih, span, Nat.add_right_comm first 1 count, Nat.add_assoc first count 1]
    omega

/-- Without the columns before it, what is left of a run takes no more. -/
theorem span_le_span (source : Source) (first before count : Nat) :
    source.span (first + before) count ≤ source.span first (before + count) := by
  induction before generalizing first with
  | zero =>
    rw [Nat.zero_add]
    exact Nat.le_refl _
  | succ before ih =>
    have hrest := ih (first + 1)
    rw [Nat.add_right_comm before 1 count, span_succ]
    rw [Nat.add_right_comm, Nat.add_assoc] at hrest
    omega

end Source

/-! ## Layouts -/

/-- So many columns from `first` on are laid out on a screen of a width: the first of them, and
then one after the other until they would not leave a square free. -/
structure Fitted (source : Source) (width first count : Nat) : Prop where
  pos : 0 < count
  last : first + count ≤ source.columnCount + 1
  fits : 1 < count → source.span first count < width
  asked : first + count ≤ source.columnCount →
    source.columnWidth (first + count) = .ok (source.squares (first + count))
  full : first + count ≤ source.columnCount → width ≤ source.span first (count + 1)

/-- A column is laid out if the columns up to it leave a square free, or if it is the first. -/
theorem Fitted.lt_iff {source : Source} {width first count column : Nat}
    (h : Fitted source width first count) (hfirst : first ≤ column)
    (hcolumn : column ≤ source.columnCount) :
    column < first + count ↔
      column = first ∨ source.span first (column - first + 1) < width := by
  constructor
  · intro hlt
    by_cases hequal : column = first
    · exact .inl hequal
    · right
      have hle : column - first + 1 ≤ count := by omega
      exact Nat.lt_of_le_of_lt (source.span_mono first hle) (h.fits (by omega))
  · rintro (rfl | hroom)
    · exact Nat.lt_add_of_pos_right h.pos
    · apply Nat.lt_of_not_le
      intro hbehind
      have hfull := h.full (by omega)
      have hle : count + 1 ≤ column - first + 1 := by omega
      have hspan := source.span_mono first hle
      omega

namespace Viewer

variable {view nextView : TableView}

theorem columnsFrom_congr (h : nextView.source = view.source) (width remaining column used : Nat) :
    columnsFrom nextView width remaining column used =
      columnsFrom view width remaining column used := by
  induction remaining generalizing column used with
  | zero => rfl
  | succ remaining ih => simp only [columnsFrom, TableView.columnWidth, h, ih]

/-- The layout asks the source alone. -/
theorem layout_congr (h : nextView.source = view.source) (width offset : Nat) :
    layout nextView width offset = layout view width offset := by
  simp only [layout, TableView.columnWidth, TableView.columnCount, h, columnsFrom_congr h]

/-- Behind those that are placed already, the columns follow each other until the screen is
full, and the column that would not fit has told its width. -/
theorem columnsFrom_fitted {width remaining first placed : Nat} {columns : List Nat}
    (h : columnsFrom view width remaining (first + placed) (view.source.span first placed + 1) =
      .ok columns) :
    ∃ more, more ≤ remaining ∧ columns = List.range' (first + placed) more ∧
      (0 < more → view.source.span first (placed + more) < width) ∧
      (more < remaining →
        view.source.columnWidth (first + (placed + more)) =
          .ok (view.source.squares (first + (placed + more))) ∧
        width ≤ view.source.span first (placed + more + 1)) := by
  induction remaining generalizing placed columns with
  | zero =>
    cases h
    exact ⟨0, Nat.le_refl 0, rfl, fun h => absurd h (Nat.lt_irrefl 0),
      fun h => absurd h (Nat.lt_irrefl 0)⟩
  | succ remaining ih =>
    obtain ⟨cells, hcells, h⟩ := bind_eq_ok_iff.mp h
    obtain ⟨used, hused, h⟩ := bind_eq_ok_iff.mp h
    obtain ⟨-, rfl⟩ := Size.add_eq_ok_iff.mp hused
    have hsquares : view.source.squares (first + placed) = cells := Source.squares_of_ok hcells
    have hspan : view.source.span first placed + 1 + (cells + 1) =
        view.source.span first (placed + 1) + 1 := by
      rw [Source.span, hsquares]
      omega
    rw [hspan] at h
    split at h
    · rename_i hover
      cases h
      refine ⟨0, Nat.zero_le _, rfl, fun h => absurd h (Nat.lt_irrefl 0), fun _ => ⟨?_, ?_⟩⟩
      · rw [Nat.add_zero, hsquares]
        exact hcells
      · rw [Nat.add_zero]
        omega
    · rename_i hroom
      obtain ⟨rest, hrest, h⟩ := bind_eq_ok_iff.mp h
      cases h
      rw [Nat.add_assoc] at hrest
      obtain ⟨more, hmore, rfl, hfits, hfull⟩ := ih hrest
      rw [Nat.add_right_comm placed 1 more] at hfits hfull
      refine ⟨more + 1, Nat.succ_le_succ hmore, rfl, fun _ => ?_,
        fun hlt => hfull (Nat.lt_of_succ_lt_succ hlt)⟩
      rcases Nat.eq_zero_or_pos more with rfl | hpos
      · exact Nat.lt_of_not_le fun hle => hroom (Nat.lt_succ_of_le hle)
      · exact hfits hpos

/-- **A layout** from a column of the source on has the row numbers and the columns that fit. -/
theorem layout_fitted {width first : Nat} {shown : List Nat}
    (h : layout view width first = .ok shown) (hfirst : first ≤ view.source.columnCount) :
    ∃ count, Fitted view.source width first count ∧ shown = 0 :: List.range' first count := by
  obtain ⟨numbersWidth, hnumbers, h⟩ := bind_eq_ok_iff.mp h
  obtain ⟨columns, hcolumns, h⟩ := bind_eq_ok_iff.mp h
  obtain ⟨-, rfl⟩ := columnCount_eq_ok_iff.mp hcolumns
  rw [if_neg (by omega)] at h
  obtain ⟨firstWidth, hfirstWidth, h⟩ := bind_eq_ok_iff.mp h
  obtain ⟨used, hused, h⟩ := bind_eq_ok_iff.mp h
  obtain ⟨-, rfl⟩ := Size.add_eq_ok_iff.mp hused
  obtain ⟨others, hothers, h⟩ := bind_eq_ok_iff.mp h
  cases h
  have hspan : numbersWidth + 1 + (firstWidth + 1) = view.source.span first 1 + 1 := by
    show _ = view.source.squares 0 + 1 + view.source.squares first + 1
    rw [Source.squares_of_ok hnumbers, Source.squares_of_ok hfirstWidth]
    omega
  rw [hspan] at hothers
  obtain ⟨more, hmore, rfl, hfits, hfull⟩ := columnsFrom_fitted hothers
  rw [Nat.add_comm 1 more] at hfits hfull
  refine ⟨more + 1, ⟨Nat.succ_pos more, by omega, fun hlt => hfits (by omega),
    fun hnext => (hfull (by omega)).1, fun hnext => (hfull (by omega)).2⟩, rfl⟩

/-- Behind the last column only the row numbers are left. -/
theorem layout_of_behind {width first : Nat} {shown : List Nat}
    (h : layout view width first = .ok shown) (hfirst : view.source.columnCount < first) :
    shown = [0] := by
  obtain ⟨numbersWidth, -, h⟩ := bind_eq_ok_iff.mp h
  obtain ⟨columns, hcolumns, h⟩ := bind_eq_ok_iff.mp h
  obtain ⟨-, rfl⟩ := columnCount_eq_ok_iff.mp hcolumns
  rw [if_pos (Nat.succ_le_of_lt hfirst)] at h
  cases h
  rfl

/-- The row numbers come first, and no column is shown that the table does not have. -/
theorem layout_eq_ok {width offset : Nat} {shown : List Nat}
    (h : layout view width offset = .ok shown) :
    (∃ rest, shown = 0 :: rest) ∧ ∀ column ∈ shown, column ≤ view.source.columnCount := by
  rcases Nat.lt_or_ge view.source.columnCount offset with hbehind | hoffset
  · obtain rfl := layout_of_behind h hbehind
    exact ⟨⟨[], rfl⟩, by simp⟩
  · obtain ⟨count, hfitted, rfl⟩ := layout_fitted h hoffset
    have hlast := hfitted.last
    refine ⟨⟨_, rfl⟩, ?_⟩
    intro column hmem
    simp only [List.mem_cons, List.mem_range'_1] at hmem
    omega

/-! ## One layout and the next -/

/-- A column of the source is laid out from its own place, and from the places where the columns
up to it leave a square free. -/
theorem mem_layout_iff {width first column : Nat} {shown : List Nat}
    (h : layout view width first = .ok shown) (hpos : 1 ≤ first) (hfirst : first ≤ column)
    (hcolumn : column ≤ view.source.columnCount) :
    column ∈ shown ↔
      column = first ∨ view.source.span first (column - first + 1) < width := by
  obtain ⟨count, hfitted, rfl⟩ := layout_fitted h (Nat.le_trans hfirst hcolumn)
  rw [← hfitted.lt_iff hfirst hcolumn, List.mem_cons, List.mem_range'_1]
  omega

/-- **Scrolling towards a column does not hide it**, and neither does a wider screen: a column
that is laid out from one place is laid out from every later one, up to its own. -/
theorem mem_layout_of_le {width wider first later column : Nat} {before after : List Nat}
    (hbefore : layout view width first = .ok before)
    (hafter : layout view wider later = .ok after) (hwider : width ≤ wider) (hpos : 1 ≤ first)
    (hfirst : first ≤ later) (hlater : later ≤ column)
    (hcolumn : column ≤ view.source.columnCount) (hmem : column ∈ before) : column ∈ after := by
  rw [mem_layout_iff hafter (by omega) hlater hcolumn]
  rcases (mem_layout_iff hbefore hpos (by omega) hcolumn).mp hmem with rfl | hroom
  · left
    omega
  · right
    have hspan := view.source.span_le_span first (later - first) (column - later + 1)
    rw [show first + (later - first) = later from by omega,
      show later - first + (column - later + 1) = column - first + 1 from by omega] at hspan
    omega

end Viewer

end AttributeBrowser
