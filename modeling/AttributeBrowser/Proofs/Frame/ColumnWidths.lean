import AttributeBrowser.Proofs.Frame.CastTexts
import AttributeBrowser.Proofs.Frame.ShownFloats
import AttributeBrowser.Proofs.Frame.TextLines
import AttributeBrowser.Proofs.Frame.TypedView

/-!
# Widths of columns and what is shown

The width of a column of a frame is measured on its cells converted to text, but its cells are
shown in another form. Most values have the same text both ways. A text gets longer by the marks
of its line breaks, bytes by their quotes and escapes unless too many of them are left out, and a
floating point number of one or two digits by the zeros that are shown in front of its exponent.
Of kinds that only the library knows, both texts are the library's.
-/

namespace AttributeBrowser

/-! ## Lengths of bytes -/

theorem length_le_size_utf8Encode (chars : List Char) :
    chars.length ≤ chars.utf8Encode.size := by
  induction chars with
  | nil => exact Nat.zero_le _
  | cons c rest ih =>
    have hpos := c.utf8Size_pos
    rw [List.utf8Encode_cons, ByteArray.size_append, List.utf8Encode_singleton,
      List.size_toByteArray, String.length_utf8EncodeChar, List.length_cons]
    omega

/-- A text has no more characters than bytes. -/
theorem length_le_size_of_fromUTF8? {bytes : ByteArray} {text : String}
    (h : String.fromUTF8? bytes = some text) : text.length ≤ bytes.size := by
  have hbytes : text.toByteArray = bytes := by
    unfold String.fromUTF8? at h
    split at h <;> cases h
    rfl
  have hlength := length_le_size_utf8Encode text.toList
  rwa [← String.toByteArray_ofList, String.ofList_toList, hbytes, String.length_toList] at hlength

theorem length_toList_loop (bytes : ByteArray) (start : ℕ) (read : List UInt8) :
    (ByteArray.toList.loop bytes start read).length = bytes.size - start + read.length := by
  induction start, read using ByteArray.toList.loop.induct bytes with
  | case1 start read hlt ih =>
    rw [ByteArray.toList.loop, if_pos hlt, ih, List.length_cons]
    omega
  | case2 start read hge =>
    rw [ByteArray.toList.loop, if_neg hge, List.length_reverse]
    omega

namespace CellText

/-- The number of bytes that do not stand as they are. -/
def escapes (bytes : List UInt8) : ℕ :=
  bytes.countP fun byte => ¬(0x21 ≤ byte ∧ byte ≤ 0x7e)

/-- Each escape has three characters more than its byte. -/
theorem length_flatMap_ofByte (bytes : List UInt8) :
    (bytes.flatMap ofByte).length = bytes.length + 3 * escapes bytes := by
  induction bytes with
  | nil => rfl
  | cons byte rest ih =>
    have hbyte : (ofByte byte).length = 1 + 3 * escapes [byte] := by
      rw [ofByte, escapes, List.countP_singleton]
      by_cases hprinted : 0x21 ≤ byte ∧ byte ≤ 0x7e
      · rw [if_pos hprinted, if_neg (by simp [hprinted])]
        rfl
      · rw [if_neg hprinted, if_pos (by simp [hprinted])]
        rfl
    have hescapes : escapes (byte :: rest) = escapes [byte] + escapes rest :=
      @List.countP_append _ _ [byte] rest
    rw [List.flatMap_cons, List.length_append, List.length_cons]
    omega

theorem length_toList_byteArray (bytes : ByteArray) : bytes.toList.length = bytes.size := by
  rw [ByteArray.toList, length_toList_loop]
  rfl

/-- The escapes of the bytes that are shown. -/
def shownEscapes (bytes : ByteArray) : ℕ := escapes (bytes.toList.take byteLimit)

/-- **The length of bytes**: three characters for the quotes and the mark in front, and one for
the ellipsis if bytes are left out. -/
theorem length_ofBytes (bytes : ByteArray) :
    (ofBytes bytes).length = min byteLimit bytes.size + 3 * shownEscapes bytes + 3 +
      if byteLimit < bytes.size then 1 else 0 := by
  have hmarks : "b\"".length = 2 ∧ "\"".length = 1 ∧ ellipsis.length = 1 ∧ "".length = 0 := by
    decide
  simp only [ofBytes, String.length_append, String.length_ofList, length_flatMap_ofByte,
    List.length_take, length_toList_byteArray, shownEscapes, apply_ite String.length, hmarks]
  omega

theorem display_ofInteger (value : ℤ) : (ofInteger value).display = value.repr := by
  unfold ofInteger
  split <;> rfl

end CellText

namespace Frame

/-! ## The longest text -/

/-- The number of characters that a converted cell counts. -/
def countedLength (text : Option String) : ℕ := (text.map String.length).getD emptyWidth

theorem foldl_max_le_iff (texts : List (Option String)) (initial bound : ℕ) :
    texts.foldl (fun width text => max width (countedLength text)) initial ≤ bound ↔
      initial ≤ bound ∧ ∀ text ∈ texts, countedLength text ≤ bound := by
  induction texts generalizing initial with
  | nil => simp
  | cons text rest ih =>
    rw [List.foldl_cons, ih, Nat.max_le, List.forall_mem_cons, and_assoc]

theorem longest_le_iff {texts : Array (Option String)} {bound : ℕ} :
    longest texts ≤ bound ↔ ∀ text ∈ texts, countedLength text ≤ bound := by
  have hfold : longest texts =
      texts.toList.foldl (fun width text => max width (countedLength text)) 0 :=
    (Array.foldl_toList _).symm
  rw [hfold, foldl_max_le_iff]
  simp

theorem countedLength_le_longest {texts : Array (Option String)} {text : Option String}
    (h : text ∈ texts) : countedLength text ≤ longest texts :=
  longest_le_iff.mp (Nat.le_refl _) text h

end Frame

/-! ## Cells -/

/-- A floating point number whose shown text is too long for its converted one. For the larger
format this is told by the shortest digits; numbers of the smaller one are shown after widening,
and both texts are compared. -/
def FloatFormat.Stretches (format : FloatFormat) (value : FloatValue) : Prop :=
  if format = .binary64 ∧ format.Holds value then value.Stretched
  else (Conversion.floatText format value).length + Frame.margin <
    (CellText.ofFloat value).length

theorem FloatFormat.stretches_iff (format : FloatFormat) (value : FloatValue) :
    format.Stretches value ↔ (Conversion.floatText format value).length + Frame.margin <
      (CellText.ofFloat value).length := by
  unfold Stretches
  split
  · rename_i hformat
    obtain ⟨rfl, hholds⟩ := hformat
    exact FloatValue.stretched_iff hholds
  · exact Iff.rfl

namespace ColumnCells

/-- The shown text of the cell is too long for the converted one and the margin: a text with
too many line breaks, a floating point number, bytes that are all shown, or more bytes of a text
that is shorter than what is shown of them. -/
def Stretches (cells : ColumnCells) (row : ℕ) : Prop :=
  match cells with
  | .texts cells => ∃ text, cells[row]? = some (some text) ∧
      Frame.margin + CellText.returns text.toList < 2 * CellText.feeds text.toList
  | .floats format cells => ∃ value, cells[row]? = some (some value) ∧ format.Stretches value
  | .binaries cells => ∃ bytes, cells[row]? = some (some bytes) ∧
      (CellText.byteLimit < bytes.size → ∃ text, String.fromUTF8? bytes = some text ∧
        text.length < CellText.byteLimit + 2 + 3 * CellText.shownEscapes bytes)
  | .others _ cells => ∃ value, cells[row]? = some (some value) ∧
      Frame.countedLength value.text? + Frame.margin < value.printed.length
  | _ => False

/-- An empty cell counts the mark that it shows. -/
theorem not_stretched_empty :
    ¬Frame.countedLength none + Frame.margin < CellText.empty.length := by
  decide

/-- What is not there stretches nothing. -/
theorem stretches_stored_iff {α : Type} {stored : Option (Option α)} {stretched : α → Prop}
    {convert : α → Option String} {cell : α → Cell}
    (h : ∀ a, stored = some (some a) → (stretched a ↔
      Frame.countedLength (convert a) + Frame.margin < (cell a).display.length)) :
    (∃ a, stored = some (some a) ∧ stretched a) ↔
      Frame.countedLength (stored.join.bind convert) + Frame.margin <
        ((stored.join.map cell).getD (.text CellText.empty)).display.length := by
  match stored with
  | none | some none => exact iff_of_false (by simp) not_stretched_empty
  | some (some a) => simp [h a rfl]

/-- Values with the same text both ways do not stretch. -/
theorem not_stretched_of_same {α : Type} {stored : Option (Option α)} {convert : α → String}
    {cell : α → Cell} (hsame : ∀ a, (cell a).display = convert a) :
    False ↔ Frame.countedLength (stored.join.map convert) + Frame.margin <
      ((stored.join.map cell).getD (.text CellText.empty)).display.length := by
  have hstored : (∃ a, stored = some (some a) ∧ False) ↔
      Frame.countedLength (stored.join.bind (some ∘ convert)) + Frame.margin <
        ((stored.join.map cell).getD (.text CellText.empty)).display.length :=
    stretches_stored_iff fun a _ => by simp [hsame, Frame.countedLength]
  simpa [Option.map_eq_bind] using hstored

/-- **Stretched cells** are those that are shown in more characters than they count and the
margin. -/
theorem stretches_iff {cells : ColumnCells} {texts : Array (Option String)}
    (h : cells.toTexts = .ok texts) (row : ℕ) : cells.Stretches row ↔
      Frame.countedLength (cells.cast? row) + Frame.margin < (cells.cell row).display.length := by
  cases cells with
  | integers kind cells => exact not_stretched_of_same CellText.display_ofInteger
  | booleans cells => exact not_stretched_of_same fun _ => rfl
  | dates cells => exact not_stretched_of_same fun _ => rfl
  | empties count => exact iff_of_false id not_stretched_empty
  | floats format cells =>
    rw [cast?, Option.map_eq_bind]
    exact stretches_stored_iff fun value _ => format.stretches_iff value
  | texts cells =>
    rw [cast?, ← Option.bind_fun_some cells[row]?.join]
    refine stretches_stored_iff fun text _ => ?_
    have hlength := CellText.length_ofText text
    simp only [Function.comp_apply, Cell.display_text, Frame.countedLength, Option.map_some,
      Option.getD_some]
    omega
  | binaries cells =>
    refine stretches_stored_iff fun bytes hcell => ?_
    obtain ⟨text, htext⟩ := exists_text_of_toTexts h hcell
    have hcast := length_le_size_of_fromUTF8? htext
    have hlength := CellText.length_ofBytes bytes
    simp only [Function.comp_apply, Cell.display_text, Frame.countedLength, Frame.margin, htext,
      Option.map_some, Option.getD_some, Option.some.injEq, exists_eq_left', hlength]
    split <;> omega
  | others kind cells => exact stretches_stored_iff fun _ _ => Iff.rfl

/-- A row behind the end shows the mark of an empty cell. -/
theorem cell_of_size_le {cells : ColumnCells} {row : ℕ} (h : cells.size ≤ row) :
    cells.cell row = .text CellText.empty := by
  cases cells with
  | empties count => rfl
  | _ =>
    rw [cell, Array.getElem?_eq_none h]
    rfl

end ColumnCells

namespace Frame

/-! ## Widths -/

variable {frame : Frame} {maxWidth : ℕ} {raw : Source} {place : ℕ} {column : Column}

theorem columnWidth_source (h : frame.source maxWidth = .ok raw)
    (hcolumn : frame.columns[place]? = some column) : ∃ texts,
      column.cells.toTexts = .ok texts ∧ raw.columnWidth (place + 1) =
        .ok (min (min (max column.name.length (longest texts) + margin) maxWidth) widthLimit) := by
  unfold source at h
  split at h
  · cases h
  · rename_i widths hwidths
    cases h
    obtain ⟨hsize, hmeasure⟩ := mapM_array_eq_ok_iff.mp hwidths
    obtain ⟨hlt, -⟩ := Array.getElem?_eq_some_iff.mp hcolumn
    have hwidth : widths[place]? = some widths[place] := Array.getElem?_eq_getElem (hsize ▸ hlt)
    have hmeasured := hmeasure place _ _ hcolumn hwidth
    unfold measure at hmeasured
    split at hmeasured
    · cases hmeasured
    · rename_i texts htexts
      refine ⟨texts, htexts, ?_⟩
      simp only [hwidth, Except.ok.inj hmeasured]

/-- **A column that is not at its limit** has the width of the longest of its name and of its
converted cells, and the margin. -/
theorem width_of_uncapped (h : frame.source maxWidth = .ok raw)
    (hcolumn : frame.columns[place]? = some column) {width : ℕ}
    (hwidth : raw.columnWidth (place + 1) = .ok width) (hmax : width < maxWidth)
    (hlimit : width < widthLimit) : ∃ texts, column.cells.toTexts = .ok texts ∧
      width = max column.name.length (longest texts) + margin := by
  obtain ⟨texts, htexts, hmeasured⟩ := columnWidth_source h hcolumn
  refine ⟨texts, htexts, ?_⟩
  cases hmeasured.symm.trans hwidth
  omega

/-- A cell counts no more than the longest one, a row behind the end apart. -/
theorem countedLength_cast?_le {texts : Array (Option String)}
    (h : column.cells.toTexts = .ok texts) {row : ℕ} (hrow : row < column.cells.size) :
    countedLength (column.cells.cast? row) ≤ longest texts := by
  obtain ⟨hsize, hcast⟩ := ColumnCells.toTexts_spec h
  rw [← hsize] at hrow
  rw [← hcast, Array.getElem?_eq_getElem hrow, Option.join_some]
  exact countedLength_le_longest (Array.getElem_mem hrow)

/-- **A column is wide enough for what it shows**, stretched cells apart, unless its width is at
one of its limits. Its name fits with the margin. A cell that is not stretched fits, in every
row and behind the last one too; a stretched cell does not fit if its converted text is the
one that gives the column its width. -/
theorem cells_fit_unless_stretched (h : frame.source maxWidth = .ok raw)
    (hplace : place < raw.columnCount) {width : ℕ}
    (hwidth : raw.columnWidth (place + 1) = .ok width) (hmax : width < maxWidth)
    (hlimit : width < widthLimit) : ∃ column, frame.columns[place]? = some column ∧
      raw.columnName place = .ok column.name ∧ column.name.length + margin ≤ width ∧
      ∀ row, ∃ cell, raw.valueAt row place = .ok cell ∧
        (¬column.cells.Stretches row → cell.display.length ≤ width) ∧
        (column.cells.Stretches row →
          countedLength (column.cells.cast? row) + margin = width →
            width < cell.display.length) := by
  rw [columnCount_source h] at hplace
  have hcolumn := Array.getElem?_eq_getElem hplace
  obtain ⟨texts, htexts, rfl⟩ := width_of_uncapped h hcolumn hwidth hmax hlimit
  refine ⟨_, hcolumn, (columnName_source_eq_ok_iff h).mpr ⟨_, hcolumn⟩, by omega, fun row => ?_⟩
  have hstretches := ColumnCells.stretches_iff htexts row
  refine ⟨_, valueAt_source h hcolumn row, fun hnot => ?_, fun hstretched hsets => ?_⟩
  · rcases Nat.lt_or_ge row frame.columns[place].cells.size with hrow | hrow
    · have hcounted := countedLength_cast?_le htexts hrow
      rw [hstretches] at hnot
      omega
    · rw [ColumnCells.cell_of_size_le hrow]
      have hmark : CellText.empty.length ≤ margin := by decide
      exact hmark.trans (Nat.le_add_left _ _)
  · rw [← hsets]
    exact hstretches.mp hstretched

/-- A column of two texts: both are nothing but line feeds. -/
def lineFeeds : Frame where
  columns := #[⟨"a", .texts #[some "\n\n", some "\n"]⟩]
  height := 2
  size_eq := by decide
  nodup := by decide

theorem exists_source_lineFeeds :
    ∃ raw, lineFeeds.source 40 = .ok raw ∧ raw.columnWidth 1 = .ok 4 := by
  have hcolumn : lineFeeds.columns[0]? = some ⟨"a", .texts #[some "\n\n", some "\n"]⟩ := rfl
  obtain ⟨raw, hraw⟩ : ∃ raw, lineFeeds.source 40 = .ok raw :=
    exists_source_iff.mpr (by simp [lineFeeds, ColumnCells.toTexts])
  obtain ⟨texts, htexts, hwidth⟩ := columnWidth_source hraw hcolumn
  cases htexts
  exact ⟨raw, hraw, hwidth.trans (by decide)⟩

/-- Of two line feeds the marks are too long, of one they fit. -/
theorem cells_fit_unless_stretched_feeds :
    ∃ raw, lineFeeds.source 40 = .ok raw ∧ raw.columnWidth 1 = .ok 4 ∧
      (∃ cell, raw.valueAt 0 0 = .ok cell ∧ 4 < cell.display.length) ∧
      ∃ cell, raw.valueAt 1 0 = .ok cell ∧ cell.display.length ≤ 4 := by
  obtain ⟨raw, hraw, hwidth⟩ := exists_source_lineFeeds
  have hplace : 0 < raw.columnCount := by
    rw [columnCount_source hraw]
    decide
  obtain ⟨column, hcolumn, -, -, hcells⟩ :=
    cells_fit_unless_stretched hraw hplace hwidth (by decide) (by decide)
  cases hcolumn
  obtain ⟨first, hfirst, -, hlong⟩ := hcells 0
  obtain ⟨second, hsecond, hfits, -⟩ := hcells 1
  refine ⟨raw, hraw, hwidth, ⟨first, hfirst, hlong ⟨_, rfl, by decide⟩ rfl⟩, second, hsecond,
    hfits ?_⟩
  rintro ⟨text, htext, hfeeds⟩
  cases htext
  exact absurd hfeeds (by decide)

/-- Two line feeds are measured as two characters and shown as six. -/
theorem line_feeds_cut_off :
    ∃ raw, lineFeeds.source 40 = .ok raw ∧ raw.columnWidth 1 = .ok 4 ∧ 4 < widthLimit ∧
      ∃ cell, raw.valueAt 0 0 = .ok cell ∧ cell.display.length = 6 := by
  obtain ⟨raw, hraw, hwidth⟩ := exists_source_lineFeeds
  exact ⟨raw, hraw, hwidth, by decide, _, valueAt_source hraw rfl 0, by decide⟩

end Frame

end AttributeBrowser
