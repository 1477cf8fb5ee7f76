import Mathlib.Data.List.TakeWhile
import AttributeBrowser.Proofs.Screen.ColumnsFit
import AttributeBrowser.Proofs.Screen.LineTexts
import AttributeBrowser.Screen.TablePane

/-!
# What the line of a row shows

The columns of a table stand in areas of their own, from left to right. In the area of each, the
line of a row shows the text that the column has for that row, as far as it fits
(`TablePane.HoldsRow`). The line of the selected row is bold, and the selected cell reversed.
-/

namespace AttributeBrowser

/-! ## Areas from left to right -/

/-- Areas from the square `x` on, each behind the one before it and all on the line. -/
def Line.Ordered (width : Nat) : Nat → List Area → Prop
  | x, [] => x ≤ width
  | x, area :: rest => x ≤ area.start ∧ area.start ≤ area.stop ∧ Ordered width area.stop rest

namespace Line

variable {width x : Nat} {area : Area} {areas : List Area}

theorem Ordered.mono {y : Nat} (h : Ordered width x areas) (hle : y ≤ x) :
    Ordered width y areas := by
  cases areas with
  | nil => exact Nat.le_trans hle h
  | cons area rest => exact ⟨Nat.le_trans hle h.1, h.2⟩

theorem Ordered.le (h : Ordered width x areas) : x ≤ width := by
  induction areas generalizing x with
  | nil => exact h
  | cons area rest ih =>
    obtain ⟨hstart, hstop, hrest⟩ := h
    have hwidth := ih hrest
    omega

theorem Ordered.bounds (h : Ordered width x areas) (hmem : area ∈ areas) :
    x ≤ area.start ∧ area.start ≤ area.stop ∧ area.stop ≤ width := by
  induction areas generalizing x with
  | nil => cases hmem
  | cons first rest ih =>
    obtain ⟨hstart, hstop, hrest⟩ := h
    have hwidth := hrest.le
    rcases List.mem_cons.mp hmem with rfl | hmem
    · exact ⟨hstart, hstop, hwidth⟩
    · obtain ⟨hbehind, hbounds⟩ := ih hrest hmem
      exact ⟨by omega, hbounds⟩

end Line

theorem Rounding.halfUp_mono (den : Nat) {n m : Nat} (h : n ≤ m) : halfUp n den ≤ halfUp m den :=
  Nat.div_le_div_right (by omega)

namespace Columns

theorem length_edges (den x : Nat) (widths : List Nat) :
    (edges den x widths).length = widths.length := by
  induction widths generalizing x with
  | nil => rfl
  | cons width rest ih => rw [edges, List.length_cons, ih, List.length_cons]

theorem length_areas (width : Nat) (widths : List Nat) :
    (areas width widths).length = widths.length := by
  unfold areas
  split
  · exact length_edges 1 0 widths
  · simp only [List.length_map, length_edges]

/-- Edges that are cut off at the end of the line are in order. -/
theorem ordered_edges (width den x : Nat) (widths : List Nat) :
    Line.Ordered width (min (Rounding.halfUp x den) width)
      ((edges den x widths).map fun area => ⟨min area.start width, min area.stop width⟩) := by
  induction widths generalizing x with
  | nil => exact Nat.min_le_right _ _
  | cons squares rest ih =>
    have hstop := Rounding.halfUp_mono den (Nat.le_add_right x squares)
    have hnext := Rounding.halfUp_mono den (Nat.le_add_right (x + squares) (spacing * den))
    refine ⟨Nat.le_refl _, ?_, (ih _).mono ?_⟩
    · show min (Rounding.halfUp x den) width ≤ min (Rounding.halfUp (x + squares) den) width
      omega
    · show min (Rounding.halfUp (x + squares) den) width ≤ _
      omega

theorem ordered_edges_of_fits {width x : Nat} {widths : List Nat} (h : x + total widths ≤ width) :
    Line.Ordered width x (edges 1 x widths) := by
  induction widths generalizing x with
  | nil => exact Nat.le_trans (Nat.le_add_right x _) h
  | cons first rest ih =>
    rw [edges, Rounding.halfUp_one, Rounding.halfUp_one, Nat.mul_one]
    refine ⟨Nat.le_refl x, Nat.le_add_right x first, ?_⟩
    cases rest with
    | nil => exact h
    | cons second rest =>
      rw [total_cons_cons] at h
      exact (ih (by omega)).mono (Nat.le_add_right _ _)

/-- **The areas of columns are in order**, whether the columns fit or not. -/
theorem ordered_areas (width : Nat) (widths : List Nat) :
    Line.Ordered width 0 (areas width widths) := by
  unfold areas
  split
  · rename_i hfits
    exact ordered_edges_of_fits (by rwa [Nat.zero_add])
  · exact (ordered_edges width _ 0 _).mono (Nat.zero_le _)

end Columns

namespace Line

variable {width x : Nat} {area : Area} {squares line other : List Square}
  {places : List (Area × List Square)}

/-! ## What stands in an area -/

/-- The squares of an area. -/
def slice (area : Area) (line : List Square) : List Square :=
  (line.drop area.start).take (area.stop - area.start)

theorem length_blanks (count : Nat) : (blanks count).length = count := List.length_replicate

theorem length_arrange (h : Ordered width x (places.map (·.1))) :
    (arrange width x places).length = width - x := by
  induction places generalizing x with
  | nil => rw [arrange, length_blanks]
  | cons place rest ih =>
    obtain ⟨area, squares⟩ := place
    obtain ⟨hstart, hstop, hrest⟩ := h
    have hwidth := hrest.le
    simp only at hstart hstop hwidth hrest
    rw [arrange, Nat.max_eq_right (by omega), List.length_append, List.length_append,
      length_blanks, length_pad, ih hrest]
    omega

/-- **Each area holds its squares**, from the square `x` on. -/
theorem take_drop_arrange (h : Ordered width x (places.map (·.1)))
    (hmem : (area, squares) ∈ places) :
    ((arrange width x places).drop (area.start - x)).take (area.stop - area.start) =
      pad (area.stop - area.start) squares := by
  induction places generalizing x with
  | nil => cases hmem
  | cons place rest ih =>
    obtain ⟨first, firstSquares⟩ := place
    obtain ⟨hstart, hstop, hrest⟩ := h
    simp only at hstart hstop hrest
    rw [arrange, Nat.max_eq_right (by omega)]
    rcases List.mem_cons.mp hmem with heq | hmem
    · cases heq
      rw [List.append_assoc, List.drop_left' (length_blanks _), List.take_left' (length_pad _ _)]
    · obtain ⟨hbehind, -, -⟩ := hrest.bounds (List.mem_map_of_mem hmem)
      simp only at hbehind
      have hskip : area.start - x = (blanks (first.start - x) ++
          pad (first.stop - first.start) firstSquares).length + (area.start - first.stop) := by
        rw [List.length_append, length_blanks, length_pad]
        omega
      rw [hskip, ← List.drop_drop, List.drop_left]
      exact ih hrest hmem

theorem slice_arrange (h : Ordered width 0 (places.map (·.1))) (hmem : (area, squares) ∈ places) :
    slice area (arrange width 0 places) = pad (area.stop - area.start) squares :=
  take_drop_arrange h hmem

/-! ## Styles

A style on top of squares changes neither what they show nor how many they are. -/

/-- A line without its styles. -/
def unstyled (line : List Square) : List Square :=
  line.map fun square => { square with style := {} }

theorem getElem?_styleArea (area : Area) (style : Style) (squares : List Square) (x : Nat) :
    (styleArea area style squares)[x]? = squares[x]?.map fun square =>
      if area.start ≤ x ∧ x < area.stop then { square with style := square.style.patch style }
      else square := by
  rw [styleArea, List.getElem?_mapIdx]

theorem unstyled_styleArea (area : Area) (style : Style) (squares : List Square) :
    unstyled (styleArea area style squares) = unstyled squares := by
  refine List.ext_getElem? fun x => ?_
  rw [unstyled, unstyled, List.getElem?_map, List.getElem?_map, getElem?_styleArea, Option.map_map]
  refine congrArg (squares[x]?.map ·) (funext fun square => ?_)
  rw [Function.comp_apply]
  split <;> rfl

theorem unstyled_foldl {α : Type} (area : α → Area) (style : α → Style) (places : List α)
    (line : List Square) : unstyled (places.foldl (fun line place =>
      styleArea (area place) (style place) line) line) = unstyled line := by
  induction places generalizing line with
  | nil => rfl
  | cons place rest ih => rw [List.foldl_cons, ih, unstyled_styleArea]

theorem text_unstyled (line : List Square) : text (unstyled line) = text line := by
  have huncovered : ∀ hidden : Nat, (uncovered hidden (unstyled line)).map (·.symbol) =
      (uncovered hidden line).map (·.symbol) := by
    induction line with
    | nil =>
      intro hidden
      cases hidden <;> rfl
    | cons square rest ih =>
      intro hidden
      cases hidden with
      | zero => exact congrArg (square.symbol :: ·) (ih _)
      | succ hidden => exact ih hidden
  rw [text, huncovered, text]

theorem unstyled_slice (area : Area) (line : List Square) :
    unstyled (slice area line) = slice area (unstyled line) := by
  rw [unstyled, slice, List.map_take, List.map_drop, slice, unstyled]

theorem length_unstyled (line : List Square) : (unstyled line).length = line.length :=
  List.length_map _

/-- Lines that differ in their styles only show the same in every area. -/
theorem slice_of_unstyled (h : unstyled line = unstyled other) (area : Area) :
    text (slice area line) = text (slice area other) ∧
      (slice area line).length = (slice area other).length := by
  have hslice : unstyled (slice area line) = unstyled (slice area other) := by
    rw [unstyled_slice, h, unstyled_slice]
  rw [← text_unstyled, ← length_unstyled, hslice, text_unstyled, length_unstyled]
  exact ⟨rfl, rfl⟩

/-- No square is bold or reversed. -/
def Unmarked (line : List Square) : Prop :=
  ∀ square ∈ line, square.style.bold = false ∧ square.style.reversed = false

theorem unmarked_styleArea {style : Style} (hstyle : style.bold = false ∧ style.reversed = false)
    (area : Area) (h : Unmarked line) : Unmarked (styleArea area style line) := by
  intro square hmem
  obtain ⟨x, hx⟩ := List.mem_iff_getElem?.mp hmem
  rw [getElem?_styleArea, Option.map_eq_some_iff] at hx
  obtain ⟨before, hbefore, rfl⟩ := hx
  have hunmarked := h before (List.mem_of_getElem? hbefore)
  split
  · simp only [Style.patch, hunmarked, hstyle, Bool.or_self, and_self]
  · exact hunmarked

theorem unmarked_foldl {α : Type} (area : α → Area) (style : α → Style)
    (hstyle : ∀ place, (style place).bold = false ∧ (style place).reversed = false)
    (places : List α) (h : Unmarked line) : Unmarked (places.foldl (fun line place =>
      styleArea (area place) (style place) line) line) := by
  induction places generalizing line with
  | nil => exact h
  | cons place rest ih => exact ih (unmarked_styleArea (hstyle place) (area place) h)

/-- No square has a style. -/
def Plain (line : List Square) : Prop := ∀ square ∈ line, square.style = {}

theorem plain_append (h : Plain line) (hother : Plain other) : Plain (line ++ other) :=
  List.forall_mem_append.mpr ⟨h, hother⟩

theorem plain_blanks (count : Nat) : Plain (blanks count) := by
  intro square hmem
  rw [List.eq_of_mem_replicate hmem]

theorem plain_covered (symbol : String) (width : Nat) : Plain (covered symbol width) :=
  plain_append (plain_blanks _) (List.forall_mem_singleton.mpr rfl)

theorem plain_pad (room : Nat) (h : Plain squares) : Plain (pad room squares) := fun square hmem =>
  plain_append h (plain_blanks _) square (List.mem_of_mem_take hmem)

theorem plain_place (room used : Nat) (waiting : String) {done : List Square} (h : Plain done)
    (graphemes : List (String × Nat)) : Plain (place room used waiting done graphemes) := by
  have halone : ∀ waiting : String, Plain [{ symbol := waiting }] := fun _ =>
    List.forall_mem_singleton.mpr rfl
  fun_induction place room used waiting done graphemes with
  | case1 | case3 => exact halone _
  | case2 | case4 => exact h
  | case5 _ _ _ _ _ ih => exact ih h
  | case6 _ _ _ _ _ _ _ ih => exact ih (plain_covered _ _)
  | case7 _ _ _ _ _ _ _ _ ih => exact ih (List.forall_mem_cons.mpr (List.forall_mem_cons.mp h))
  | case8 _ _ _ _ _ _ ih => exact ih h
  | case9 _ _ _ _ _ _ _ _ _ ih => exact ih (plain_append (plain_covered _ _) h)

theorem plain_writeLeft (room : Nat) (graphemes : List (String × Nat)) :
    Plain (writeLeft room graphemes) := by
  unfold writeLeft
  split
  · exact List.forall_mem_nil _
  · refine plain_pad _ fun square hmem => ?_
    exact plain_place _ _ _ (List.forall_mem_nil _) _ square (List.mem_reverse.mp hmem)

theorem plain_writeRight (room : Nat) (graphemes : List (String × Nat)) :
    Plain (writeRight room graphemes) :=
  plain_append (plain_blanks _) (plain_writeLeft _ _)

theorem plain_arrange (width x : Nat) (h : ∀ place ∈ places, Plain place.2) :
    Plain (arrange width x places) := by
  induction places generalizing x with
  | nil => exact plain_blanks _
  | cons place rest ih =>
    obtain ⟨hplace, hrest⟩ := List.forall_mem_cons.mp h
    exact plain_append (plain_append (plain_blanks _) (plain_pad _ hplace)) (ih _ hrest)

end Line

namespace TablePane

variable {width index : Nat} {columns : List ShownColumn} {line : List Square}

/-! ## The line of a row -/

/-- The line of a row of columns of which one row and one column are selected. -/
def rowLine (width : Nat) (columns : List ShownColumn) (selectedRow : Nat)
    (selectedColumn : Option Nat) (index : Nat) : List Square :=
  let areas := Columns.areas width (columns.map (·.width))
  let line := row width areas columns index
  if index = selectedRow then highlight width areas selectedColumn line else line

theorem plain_cellSquares (room : Nat) (type : ColumnType) (text : String) :
    Line.Plain (cellSquares room type text) := by
  cases type with
  | number => exact Line.plain_writeRight _ _
  | text | link => exact Line.plain_writeLeft _ _

theorem length_cellSquares (room : Nat) (type : ColumnType) (text : String) :
    (cellSquares room type text).length = room := by
  cases type with
  | number => exact Line.length_writeRight _ _
  | text | link => exact Line.length_writeLeft _ _

/-- A text without control characters is its first line. -/
theorem firstLine_of_whole {text : String} (h : Grapheme.IsWhole text) : firstLine text = text := by
  rw [firstLine, List.takeWhile_eq_self_iff.mpr, String.ofList_toList]
  intro c hc
  rw [decide_eq_true_eq]
  rintro rfl
  exact absurd (h.controls _ hc) (by decide)

/-- The squares show the first line of a text: of a number the end, of all else the beginning, as
much as fits, and blanks beside it. A text that is drawn whole and fits stands there as it is. -/
structure Shows (type : ColumnType) (text : String) (squares : List Square) : Prop where
  front : type ≠ .number → 0 < squares.length → ∃ front back,
    Line.Fits squares.length (Grapheme.drawn (firstLine text)) front back ∧ Line.text squares =
      Line.legible 0 front ++ Line.spaces (squares.length - Line.taken front (Line.legible 0 front))
  back : type = .number → ∃ front back,
    Line.FitsBack squares.length (Grapheme.drawn (firstLine text)) front back ∧ Line.text squares =
      Line.spaces (squares.length - Line.places back) ++
        if Line.places back = 0 then "" else Line.legible 0 back
  whole : Grapheme.IsWhole text → Line.places (Grapheme.drawn text) ≤ squares.length →
    Line.text squares =
      if type = .number then
        Line.spaces (squares.length - Line.places (Grapheme.drawn text)) ++ text
      else text ++ Line.spaces (squares.length - Line.places (Grapheme.drawn text))

theorem Shows.congr {type : ColumnType} {text : String} {squares others : List Square}
    (h : Shows type text squares) (htext : Line.text others = Line.text squares)
    (hlength : others.length = squares.length) : Shows type text others where
  front := by
    rw [htext, hlength]
    exact h.front
  back := by
    rw [htext, hlength]
    exact h.back
  whole := by
    rw [htext, hlength]
    exact h.whole

theorem shows_cellSquares (room : Nat) (type : ColumnType) (text : String) :
    Shows type text (cellSquares room type text) := by
  have hlength := length_cellSquares room type text
  refine ⟨fun hleft => ?_, ?_, ?_⟩
  · have hsquares : cellSquares room type text =
        Line.writeLeft room (Grapheme.drawn (firstLine text)) := by
      cases type with
      | number => exact absurd rfl hleft
      | text | link => rfl
    rw [hlength, hsquares]
    exact fun hroom => Line.text_writeLeft hroom _
  · rintro rfl
    rw [hlength]
    exact Line.text_writeRight room _
  · rw [hlength]
    intro hwhole hfits
    cases type with
    | number =>
      rw [cellSquares, firstLine_of_whole hwhole]
      exact Line.text_writeRight_whole hwhole hfits
    | text | link =>
      rw [cellSquares, firstLine_of_whole hwhole]
      · exact Line.text_writeLeft_whole hwhole hfits
      · exact fun hnumber => by cases hnumber

/-- **The line of a row** shows in the area of each column the text that the column has for the
row. The areas stand one behind the other, and if there is room for all columns, each has the
width of its column. -/
structure HoldsRow (width : Nat) (columns : List ShownColumn) (index : Nat) (line : List Square) :
    Prop where
  length : line.length = width
  ordered : Line.Ordered width 0 (Columns.areas width (columns.map (·.width)))
  cells : ∀ (place : Nat) (column : ShownColumn), columns[place]? = some column → ∃ area text,
    (Columns.areas width (columns.map (·.width)))[place]? = some area ∧
      (Columns.total (columns.map (·.width)) ≤ width → area.stop = area.start + column.width) ∧
      column.texts[index]? = some text ∧
      (Line.slice area line).length = area.stop - area.start ∧
      Shows column.type text (Line.slice area line)

/-- The areas of columns with the squares of a row. -/
def cells (width : Nat) (columns : List ShownColumn) (index : Nat) : List (Area × List Square) :=
  ((Columns.areas width (columns.map (·.width))).zip columns).map fun place =>
    (place.1, cellSquares (place.1.stop - place.1.start) place.2.type (place.2.texts.getD index ""))

theorem unstyled_row (width : Nat) (columns : List ShownColumn) (index : Nat) :
    Line.unstyled (row width (Columns.areas width (columns.map (·.width))) columns index) =
      Line.unstyled (Line.arrange width 0 (cells width columns index)) :=
  Line.unstyled_foldl (fun place : (Area × ShownColumn) × Nat => place.1.1)
    (fun place => cellStyle place.2 place.1.2.type) _ _

theorem unstyled_highlight (width : Nat) (areas : List Area) (selectedColumn : Option Nat)
    (line : List Square) :
    Line.unstyled (highlight width areas selectedColumn line) = Line.unstyled line := by
  simp only [highlight]
  split
  · rw [Line.unstyled_styleArea, Line.unstyled_styleArea]
  · rw [Line.unstyled_styleArea]

theorem unstyled_rowLine (width : Nat) (columns : List ShownColumn) (selectedRow : Nat)
    (selectedColumn : Option Nat) (index : Nat) :
    Line.unstyled (rowLine width columns selectedRow selectedColumn index) =
      Line.unstyled (Line.arrange width 0 (cells width columns index)) := by
  simp only [rowLine]
  split
  · rw [unstyled_highlight, unstyled_row]
  · exact unstyled_row width columns index

theorem areas_cells (width : Nat) (columns : List ShownColumn) (index : Nat) :
    (cells width columns index).map (·.1) = Columns.areas width (columns.map (·.width)) := by
  have hlength : (Columns.areas width (columns.map (·.width))).length ≤ columns.length :=
    Nat.le_of_eq (by rw [Columns.length_areas, List.length_map])
  rw [cells, List.map_map]
  exact List.map_fst_zip hlength

theorem length_of_unstyled (h : Line.unstyled line =
    Line.unstyled (Line.arrange width 0 (cells width columns index))) : line.length = width := by
  have hordered := Columns.ordered_areas width (columns.map (·.width))
  rw [← areas_cells width columns index] at hordered
  rw [← Line.length_unstyled, h, Line.length_unstyled, Line.length_arrange hordered, Nat.sub_zero]

theorem holdsRow_rowLine (width selectedRow : Nat) (selectedColumn : Option Nat)
    (htexts : ∀ column ∈ columns, index < column.texts.length) :
    HoldsRow width columns index (rowLine width columns selectedRow selectedColumn index) := by
  have hordered := Columns.ordered_areas width (columns.map (·.width))
  have hcells : Line.Ordered width 0 ((cells width columns index).map (·.1)) := by
    rwa [areas_cells]
  have hunstyled := unstyled_rowLine width columns selectedRow selectedColumn index
  refine ⟨length_of_unstyled hunstyled, hordered, fun place column hcolumn => ?_⟩
  obtain ⟨hlt, rfl⟩ := List.getElem?_eq_some_iff.mp hcolumn
  have hplace : place < (columns.map (·.width)).length := by rwa [List.length_map]
  obtain ⟨area, harea⟩ : ∃ area,
      (Columns.areas width (columns.map (·.width)))[place]? = some area :=
    ⟨_, List.getElem?_eq_getElem (by rwa [Columns.length_areas])⟩
  obtain ⟨text, htext⟩ : ∃ text, columns[place].texts[index]? = some text :=
    ⟨_, List.getElem?_eq_getElem (htexts _ (List.getElem_mem hlt))⟩
  have hmem : (area, cellSquares (area.stop - area.start) columns[place].type text) ∈
      cells width columns index := by
    refine List.mem_map.mpr ⟨(area, columns[place]), ?_, ?_⟩
    · exact List.mem_of_getElem? (List.getElem?_zip_eq_some.mpr ⟨harea, hcolumn⟩)
    · rw [List.getD_eq_getElem?_getD, htext, Option.getD_some]
  have hslice := Line.slice_arrange hcells hmem
  rw [Line.pad_of_length (length_cellSquares _ _ _)] at hslice
  obtain ⟨hread, hlength⟩ := Line.slice_of_unstyled hunstyled area
  rw [hslice] at hread hlength
  refine ⟨area, text, harea, fun hfits => ?_, htext, ?_, ?_⟩
  · obtain ⟨hstands, -⟩ := Columns.areas_of_fits hfits hplace
    cases harea.symm.trans hstands
    rw [List.getElem_map]
  · rw [hlength, length_cellSquares]
  · exact (shows_cellSquares _ _ _).congr hread hlength

/-- **Which squares of the line are marked**: all of the selected row are bold, and those of the
selected cell reversed. -/
structure Marked (width : Nat) (columns : List ShownColumn) (selectedRow : Nat)
    (selectedColumn : Option Nat) (index : Nat) (squares : List Square) : Prop where
  bold : ∀ square ∈ squares, square.style.bold = true ↔ index = selectedRow
  reversed : ∀ (x : Nat) (square : Square), squares[x]? = some square →
    (square.style.reversed = true ↔ index = selectedRow ∧ ∃ place area,
      selectedColumn = some place ∧
        (Columns.areas width (columns.map (·.width)))[place]? = some area ∧
        area.start ≤ x ∧ x < area.stop)

theorem unmarked_row (width : Nat) (columns : List ShownColumn) (index : Nat) :
    Line.Unmarked (row width (Columns.areas width (columns.map (·.width))) columns index) := by
  have hplain : Line.Plain (Line.arrange width 0 (cells width columns index)) := by
    refine Line.plain_arrange _ _ fun place hplace => ?_
    obtain ⟨other, -, rfl⟩ := List.mem_map.mp hplace
    exact plain_cellSquares _ _ _
  have hunmarked : Line.Unmarked (Line.arrange width 0 (cells width columns index)) := by
    intro square hmem
    rw [hplain square hmem]
    exact ⟨rfl, rfl⟩
  exact Line.unmarked_foldl (fun place : (Area × ShownColumn) × Nat => place.1.1)
    (fun place => cellStyle place.2 place.1.2.type) (fun _ => ⟨rfl, rfl⟩) _ hunmarked

theorem bold_styleArea (h : Line.Unmarked line) (hlength : line.length = width) {x : Nat}
    {square : Square}
    (hx : (Line.styleArea ⟨0, width⟩ { bold := true } line)[x]? = some square) :
    square.style.bold = true ∧ square.style.reversed = false := by
  rw [Line.getElem?_styleArea, Option.map_eq_some_iff] at hx
  obtain ⟨before, hbefore, rfl⟩ := hx
  obtain ⟨hlt, -⟩ := List.getElem?_eq_some_iff.mp hbefore
  obtain ⟨-, hreversed⟩ := h before (List.mem_of_getElem? hbefore)
  rw [if_pos ⟨Nat.zero_le x, hlength ▸ hlt⟩]
  simp only [Style.patch, Bool.or_true, hreversed, Bool.or_self, and_self]

/-- A highlighted line is bold, and reversed in the area of the selected column. -/
theorem style_highlight (areas : List Area) (selectedColumn : Option Nat)
    (h : Line.Unmarked line) (hlength : line.length = width) {x : Nat} {square : Square}
    (hx : (highlight width areas selectedColumn line)[x]? = some square) :
    square.style.bold = true ∧ (square.style.reversed = true ↔ ∃ place area,
      selectedColumn = some place ∧ areas[place]? = some area ∧
        area.start ≤ x ∧ x < area.stop) := by
  simp only [highlight] at hx
  split at hx
  · rename_i area harea
    obtain ⟨place, rfl, hplace⟩ := Option.bind_eq_some_iff.mp harea
    have hselected : (∃ other area, some place = some other ∧ areas[other]? = some area ∧
        area.start ≤ x ∧ x < area.stop) ↔ area.start ≤ x ∧ x < area.stop := by
      constructor
      · rintro ⟨other, otherArea, hother, hotherArea, hin⟩
        cases hother
        cases hplace.symm.trans hotherArea
        exact hin
      · exact fun hin => ⟨place, area, rfl, hplace, hin⟩
    rw [Line.getElem?_styleArea, Option.map_eq_some_iff] at hx
    obtain ⟨before, hbefore, rfl⟩ := hx
    have hbold := bold_styleArea h hlength hbefore
    rw [hselected]
    split
    · rename_i hin
      simp [Style.patch, hbold, hin]
    · rename_i hout
      simp [hbold, hout]
  · rename_i hnone
    obtain ⟨hbold, hreversed⟩ := bold_styleArea h hlength hx
    refine ⟨hbold, iff_of_false (by simp [hreversed]) ?_⟩
    rintro ⟨place, area, rfl, hplace, -⟩
    rw [Option.bind_some, hplace] at hnone
    cases hnone

theorem marked_rowLine (width selectedRow : Nat) (selectedColumn : Option Nat) (index : Nat) :
    Marked width columns selectedRow selectedColumn index
      (rowLine width columns selectedRow selectedColumn index) := by
  have hunmarked := unmarked_row width columns index
  have hlength := length_of_unstyled (unstyled_row width columns index)
  simp only [rowLine]
  by_cases hselected : index = selectedRow
  · rw [if_pos hselected]
    refine ⟨fun square hmem => ?_, fun x square hx => ?_⟩
    · obtain ⟨x, hx⟩ := List.mem_iff_getElem?.mp hmem
      exact iff_of_true (style_highlight _ _ hunmarked hlength hx).1 hselected
    · rw [(style_highlight _ _ hunmarked hlength hx).2, and_iff_right hselected]
  · rw [if_neg hselected]
    refine ⟨fun square hmem => ?_, fun x square hx => ?_⟩
    · obtain ⟨hbold, -⟩ := hunmarked square hmem
      simp [hbold, hselected]
    · obtain ⟨-, hreversed⟩ := hunmarked square (List.mem_of_getElem? hx)
      simp [hreversed, hselected]

end TablePane

end AttributeBrowser
