import AttributeBrowser.Proofs.Frame.CastTexts
import AttributeBrowser.Proofs.Frame.TextLines
import AttributeBrowser.Proofs.Frame.TypedView

/-!
# Cells of one line

A row of a table is one line high. The cells of a frame fit in, since a text is shown with
marks for its line breaks and no other value has any, unless the library prints one for a kind
that only it knows (`ColumnCells.oneLine_cell_iff`). The cells of entries show texts of the
constant pool, and these
are taken from their dump as they are: what decides is the value in the last row of each index
that the entries show (`Frame.EntryBreaks`).
-/

namespace AttributeBrowser

/-! ## Values -/

namespace CellText

theorem oneLine_signText (negative : Bool) : OneLine (signText negative) := by
  cases negative <;> decide

theorem oneLine_plainFloat (negative : Bool) (mantissa : ℕ) (exponent : ℤ) :
    OneLine (plainFloat negative mantissa exponent) := by
  unfold plainFloat
  split
  · exact oneLine_append.mpr ⟨oneLine_signText negative, by decide⟩
  · exact oneLine_append.mpr ⟨oneLine_signText negative, Decimal.oneLine_positional _⟩

theorem oneLine_trimZeros {text : String} (h : OneLine text) : OneLine (trimZeros text) := by
  have hrest : '\n' ∉ text.toList.reverse.dropWhile (· == '0') :=
    fun hmem => h (List.mem_reverse.mp ((List.dropWhile_sublist _).subset hmem))
  unfold trimZeros
  simp only
  split
  · rw [oneLine_ofList, List.mem_reverse, List.mem_cons, not_or]
    exact ⟨by decide, hrest⟩
  · rw [oneLine_ofList, List.mem_reverse]
    exact hrest

theorem oneLine_ofFinite (negative : Bool) (mantissa : ℕ) (exponent : ℤ) :
    OneLine (ofFinite negative mantissa exponent) := by
  have hsign := oneLine_signText negative
  unfold ofFinite
  simp only
  split
  · exact oneLine_append.mpr ⟨hsign, Decimal.oneLine_fixed 1 _ _⟩
  · split
    · split
      · exact oneLine_append.mpr ⟨hsign, Decimal.oneLine_scientificFixed 4 _ _⟩
      · exact oneLine_append.mpr ⟨hsign, oneLine_trimZeros (Decimal.oneLine_fixed 6 _ _)⟩
    · split
      · exact oneLine_append.mpr ⟨hsign, Decimal.oneLine_scientific _⟩
      · exact oneLine_plainFloat negative mantissa exponent

theorem oneLine_ofFloat (value : FloatValue) : OneLine (ofFloat value) := by
  unfold ofFloat
  split
  · decide
  · exact oneLine_append.mpr ⟨oneLine_signText _, by decide⟩
  · exact oneLine_ofFinite _ _ _

theorem oneLine_ofBool (value : Bool) : OneLine (ofBool value) := by
  cases value <;> decide

theorem oneLine_padded (length n : ℕ) : OneLine (CalendarDate.padded length n) :=
  oneLine_append.mpr ⟨Decimal.oneLine_zeros _, oneLine_natRepr n⟩

theorem oneLine_ofDays (days : ℤ) : OneLine (ofDays days) := by
  have hsign : ∀ year : ℤ, OneLine (if year < 0 then "-" else if 9999 < year then "+" else "") := by
    intro year
    split
    · decide
    · split <;> decide
  simp only [ofDays, CalendarDate.text, oneLine_append, oneLine_padded, hsign, true_and, and_true]
  decide

theorem hexDigit_ne_feed : ∀ n < 16, hexDigit n ≠ '\n' := by decide

theorem not_mem_ofByte (byte : UInt8) : '\n' ∉ ofByte byte := by
  have hbyte := byte.toNat_lt
  unfold ofByte
  split
  · rename_i hprinted
    have hlow : 0x21 ≤ byte.toNat := UInt8.le_iff_toNat_le.mp hprinted.1
    have hvalid : byte.toNat.isValidChar := .inl (by omega)
    have hchar : (Char.ofNat byte.toNat).toNat = byte.toNat := by
      rw [Char.ofNat, dif_pos hvalid]
      rfl
    rw [List.mem_singleton]
    intro heq
    rw [← heq] at hchar
    rw [← hchar] at hlow
    exact absurd hlow (by decide)
  · have hhigh := hexDigit_ne_feed (byte.toNat / 16) (by omega)
    have hlow := hexDigit_ne_feed (byte.toNat % 16) (by omega)
    simp [hhigh.symm, hlow.symm]

theorem oneLine_ofBytes (bytes : ByteArray) : OneLine (ofBytes bytes) := by
  have hbytes : '\n' ∉ (bytes.toList.take byteLimit).flatMap ofByte := by
    intro hmem
    obtain ⟨byte, -, hbyte⟩ := List.mem_flatMap.mp hmem
    exact not_mem_ofByte byte hbyte
  have hmarks : OneLine "b\"" ∧ OneLine "\"" := by decide
  have hend : OneLine (if byteLimit < bytes.size then ellipsis else "") := by
    split <;> decide
  simp only [ofBytes, oneLine_append, oneLine_ofList, hbytes, hmarks, hend, not_false_iff,
    and_true]

theorem oneLine_ofInteger (value : ℤ) : OneLine (ofInteger value).display := by
  unfold ofInteger
  split <;> exact oneLine_intRepr value

end CellText

/-! ## Columns -/

namespace ColumnCells

/-- The cell is of a kind that only the library knows, and its text has a line feed. -/
def PrintsFeed (cells : ColumnCells) (row : ℕ) : Prop :=
  match cells with
  | .others _ cells => ∃ value, cells[row]? = some (some value) ∧ ¬OneLine value.printed
  | _ => False

theorem oneLine_others_iff (stored : Option (Option OtherValue)) :
    OneLine ((stored.join.map (Cell.text ∘ OtherValue.printed)).getD
      (.text CellText.empty)).display ↔
        ¬∃ value, stored = some (some value) ∧ ¬OneLine value.printed := by
  match stored with
  | none | some none =>
    exact iff_of_true (by decide : OneLine CellText.empty) (by simp)
  | some (some value) => simp

/-- **A cell of a frame is shown on one line**, unless the library prints a line feed. -/
theorem oneLine_cell_iff (cells : ColumnCells) (row : ℕ) :
    OneLine (cells.cell row).display ↔ ¬cells.PrintsFeed row := by
  have hshown : ∀ {α : Type} (stored : Option α) (cell : α → Cell),
      (∀ a, OneLine (cell a).display) →
        (OneLine ((stored.map cell).getD (.text CellText.empty)).display ↔ ¬False) := by
    intro α stored cell hcell
    refine iff_of_true ?_ not_false
    cases stored with
    | none => exact (by decide : OneLine CellText.empty)
    | some a => exact hcell a
  cases cells with
  | integers kind cells => exact hshown _ _ CellText.oneLine_ofInteger
  | floats format cells => exact hshown _ _ CellText.oneLine_ofFloat
  | booleans cells => exact hshown _ _ CellText.oneLine_ofBool
  | texts cells => exact hshown _ _ CellText.oneLine_ofText
  | dates cells => exact hshown _ _ CellText.oneLine_ofDays
  | binaries cells => exact hshown _ _ CellText.oneLine_ofBytes
  | others kind cells => exact oneLine_others_iff _
  | empties count => exact iff_of_true (by decide : OneLine CellText.empty) not_false

/-- The cell is a text with a line feed, or the bytes of one, or the library converts it to
one. -/
def Breaks (cells : ColumnCells) (row : ℕ) : Prop :=
  match cells with
  | .texts cells => ∃ text, cells[row]? = some (some text) ∧ ¬OneLine text
  | .binaries cells => ∃ bytes text, cells[row]? = some (some bytes) ∧
      String.fromUTF8? bytes = some text ∧ ¬OneLine text
  | .others _ cells => ∃ value text, cells[row]? = some (some value) ∧
      value.text? = some text ∧ ¬OneLine text
  | _ => False

theorem oneLine_floatText (format : FloatFormat) (value : FloatValue) :
    OneLine (Conversion.floatText format value) := by
  unfold Conversion.floatText
  split
  · decide
  · exact oneLine_append.mpr ⟨CellText.oneLine_signText _, by decide⟩
  · refine oneLine_append.mpr ⟨CellText.oneLine_signText _, ?_⟩
    split
    · decide
    · simp only
      split
      · split
        · exact oneLine_append.mpr ⟨Decimal.oneLine_positional _, by decide⟩
        · exact Decimal.oneLine_positional _
      · exact Decimal.oneLine_scientific _

/-- Of the kinds known here, only texts and bytes convert to more than one line. -/
theorem breaks_iff_cast? (cells : ColumnCells) (row : ℕ) :
    cells.Breaks row ↔ ∃ text, cells.cast? row = some text ∧ ¬OneLine text := by
  have hnone : ∀ {α : Type} (stored : Option α) (convert : α → String),
      (∀ a, OneLine (convert a)) →
        ¬∃ text, stored.map convert = some text ∧ ¬OneLine text := by
    rintro α stored convert hline ⟨text, htext, hbreaks⟩
    obtain ⟨a, -, rfl⟩ := Option.map_eq_some_iff.mp htext
    exact hbreaks (hline a)
  have hbound : ∀ {α : Type} (stored : Option (Option α)) (convert : α → Option String),
      (∃ a text, stored = some (some a) ∧ convert a = some text ∧ ¬OneLine text) ↔
        ∃ text, stored.join.bind convert = some text ∧ ¬OneLine text := by
    intro α stored convert
    simp only [Option.bind_eq_some_iff, Option.join_eq_some_iff]
    constructor
    · rintro ⟨a, text, hstored, htext, hbreaks⟩
      exact ⟨text, ⟨a, hstored, htext⟩, hbreaks⟩
    · rintro ⟨text, ⟨a, hstored, htext⟩, hbreaks⟩
      exact ⟨a, text, hstored, htext, hbreaks⟩
  cases cells with
  | integers kind cells => exact (iff_false_right (hnone _ _ oneLine_intRepr)).mpr not_false
  | floats format cells =>
    exact (iff_false_right (hnone _ _ (oneLine_floatText format))).mpr not_false
  | booleans cells => exact (iff_false_right (hnone _ _ CellText.oneLine_ofBool)).mpr not_false
  | dates cells => exact (iff_false_right (hnone _ _ CellText.oneLine_ofDays)).mpr not_false
  | texts cells => simp only [Breaks, cast?, Option.join_eq_some_iff]
  | binaries cells => exact hbound _ _
  | others kind cells => exact hbound _ _
  | empties count => simp [Breaks, cast?]

end ColumnCells

/-! ## Constant pools -/

namespace ConstantPool

/-- The last entry of an index counts. -/
theorem resolve?_ofList_eq_some_iff {entries : List (UInt16 × String)} {index : UInt16}
    {text : String} : (ofList entries).resolve? index = some text ↔
      ∃ row : ℕ, entries[row]? = some (index, text) ∧
        ∀ later : ℕ, row < later → ∀ other, entries[later]? ≠ some (index, other) := by
  rw [resolve?_ofList, Option.map_eq_some_iff]
  constructor
  · rintro ⟨⟨key, text⟩, hfind, rfl⟩
    obtain ⟨hkey, after, before, hsplit, hafter⟩ := List.find?_eq_some_iff_append.mp hfind
    obtain rfl : key = index := beq_iff_eq.mp hkey
    rw [List.reverse_eq_iff, List.reverse_append, List.reverse_cons, List.append_assoc] at hsplit
    subst hsplit
    refine ⟨before.reverse.length, by simp, fun later hlater other hother => ?_⟩
    obtain ⟨rest, rfl⟩ := Nat.exists_eq_add_of_lt hlater
    rw [List.getElem?_append_right (by omega), List.singleton_append,
      show before.reverse.length + rest + 1 - before.reverse.length = rest + 1 by omega,
      List.getElem?_cons_succ] at hother
    have hmem := hafter _ (List.mem_reverse.mp (List.mem_of_getElem? hother))
    simp at hmem
  · rintro ⟨row, hrow, hlater⟩
    obtain ⟨hlt, heq⟩ := List.getElem?_eq_some_iff.mp hrow
    have hsplit : entries = entries.take row ++ (index, text) :: entries.drop (row + 1) := by
      rw [← heq, List.getElem_cons_drop, List.take_append_drop]
    refine ⟨(index, text), List.find?_eq_some_iff_append.mpr
      ⟨by simp, (entries.drop (row + 1)).reverse, (entries.take row).reverse, ?_, ?_⟩, rfl⟩
    · conv_lhs => rw [hsplit]
      simp
    · rintro ⟨key, other⟩ hmem
      obtain ⟨place, hplace⟩ := List.mem_iff_getElem?.mp (List.mem_reverse.mp hmem)
      rw [List.getElem?_drop] at hplace
      have hne := hlater (row + 1 + place) (by omega) other
      rw [hplace] at hne
      simpa using hne

theorem oneLine_label (pool : ConstantPool) (index : UInt16) :
    OneLine (pool.label index) ↔ ∀ text, pool.resolve? index = some text → OneLine text := by
  have hmarks : OneLine "cp_info #" ∧ OneLine " <" ∧ OneLine ">" := by decide
  simp only [label, oneLine_append, oneLine_natRepr, hmarks, true_and, and_true]
  cases pool.resolve? index with
  | none => simp [unresolved, show OneLine "invalid" by decide]
  | some text => simp

end ConstantPool

namespace Frame

variable {frame dump : Frame} {pool : ConstantPool} {maxWidth : ℕ}

/-- In the last row of the index, the dump has a value of more than one line. -/
def EntryBreaks (dump : Frame) (index : UInt16) : Prop :=
  ∃ (words : Array UInt16) (column : Column) (row : ℕ), dump.words "index" = .ok words ∧
    dump.column? "value" = some column ∧ words[row]? = some index ∧
    (∀ later, row < later → words[later]? ≠ some index) ∧ column.cells.Breaks row

/-- **The text of an entry** is the value in the last row of its index, as it is. -/
theorem entryBreaks_iff (h : dump.constantPool = .ok pool) {index : UInt16} :
    dump.EntryBreaks index ↔ ∃ text, pool.resolve? index = some text ∧ ¬OneLine text := by
  obtain ⟨words, column, texts, hwords, hcolumn, htexts, rfl⟩ := constantPool_eq_ok_iff.mp h
  obtain ⟨hsize, hcast⟩ := ColumnCells.toTexts_spec htexts
  have hheight : words.size = texts.size := by
    rw [(words_eq_ok_iff.mp hwords).size_eq, hsize, height_eq_of_column? hcolumn]
  have hentry : ∀ (row : ℕ) (text : String),
      (words.zip (texts.map (·.getD CellText.empty))).toList[row]? = some (index, text) ↔
        words[row]? = some index ∧ texts[row]?.map (·.getD CellText.empty) = some text := by
    intro row text
    rw [Array.getElem?_toList, Array.getElem?_zip_eq_some, Array.getElem?_map]
  simp only [ConstantPool.resolve?_ofList_eq_some_iff, ne_eq, hentry]
  constructor
  · rintro ⟨words', column', row, hwords', hcolumn', hindex, hlast, hbreaks⟩
    cases hwords.symm.trans hwords'
    cases hcolumn.symm.trans hcolumn'
    obtain ⟨text, htext, hfeed⟩ := (column.cells.breaks_iff_cast? row).mp hbreaks
    rw [← hcast, Option.join_eq_some_iff] at htext
    refine ⟨text, ⟨row, ⟨hindex, by rw [htext]; rfl⟩, fun later hlater other hother => ?_⟩, hfeed⟩
    exact hlast later hlater hother.1
  · rintro ⟨text, ⟨row, ⟨hindex, htext⟩, hlast⟩, hfeed⟩
    obtain ⟨stored, hstored, rfl⟩ := Option.map_eq_some_iff.mp htext
    have hbreaks : column.cells.Breaks row := by
      rw [ColumnCells.breaks_iff_cast?, ← hcast, hstored]
      cases stored with
      | none => exact absurd (by decide : OneLine CellText.empty) hfeed
      | some text => exact ⟨text, rfl, hfeed⟩
    refine ⟨words, column, row, hwords, hcolumn, hindex, fun later hlater hword => ?_, hbreaks⟩
    obtain ⟨hlt, -⟩ := Array.getElem?_eq_some_iff.mp hword
    refine hlast later hlater (texts[later].getD CellText.empty) ⟨hword, ?_⟩
    rw [Array.getElem?_eq_getElem (hheight ▸ hlt), Option.map_some]

end Frame

/-! ## Sources -/

/-- Every cell of the table is there and is one line. -/
def Source.SingleLines (source : Source) : Prop :=
  ∀ row < source.rowCount, ∀ column < source.columnCount,
    ∃ cell, source.valueAt row column = .ok cell ∧ OneLine cell.display

/-- **A frame as it is** has cells of one line only, unless the library prints a line feed for
a kind that only it knows. -/
theorem Frame.singleLines_source_iff {frame : Frame} {maxWidth : ℕ} {raw : Source}
    (h : frame.source maxWidth = .ok raw) : raw.SingleLines ↔
      ∀ column ∈ frame.columns, ∀ row < frame.height, ¬column.cells.PrintsFeed row := by
  have hcell : ∀ {place : ℕ} {column : Column}, frame.columns[place]? = some column → ∀ row,
      (∃ cell, raw.valueAt row place = .ok cell ∧ OneLine cell.display) ↔
        ¬column.cells.PrintsFeed row := by
    intro place column hcolumn row
    rw [valueAt_source h hcolumn, ← ColumnCells.oneLine_cell_iff]
    simp only [Except.ok.injEq, exists_eq_left']
  simp only [Source.SingleLines, rowCount_source h, columnCount_source h]
  constructor
  · intro hlines column hmem row hrow
    obtain ⟨place, hplace, rfl⟩ := Array.mem_iff_getElem.mp hmem
    exact (hcell (Array.getElem?_eq_getElem hplace) row).mp (hlines row hrow place hplace)
  · intro hprints row hrow place hplace
    exact (hcell (Array.getElem?_eq_getElem hplace) row).mpr
      (hprints _ (Array.getElem_mem hplace) row hrow)

/-- The indices of the constant pool that an entry shows. A handler that catches any class
shows none. -/
def ExceptionHandler.poolIndices (handler : ExceptionHandler) : List UInt16 :=
  if handler.catchType = 0 then [] else [handler.catchType]

/-- The indices of the constant pool that the entries show. -/
def Attribute.poolIndices : Attribute → List UInt16
  | .exceptionTable handlers => handlers.toList.flatMap ExceptionHandler.poolIndices
  | .lineNumberTable _ => []
  | .localVariableTable entries =>
    entries.toList.flatMap fun entry => [entry.nameIndex, entry.descriptorIndex]
  | .exceptions classes => classes.toList

/-- A source of one entry a row has cells of one line if each entry has. -/
theorem Source.singleLines_iff_entries {source : Source} {α : Type} {entries : Array α}
    {cell : α → ℕ → Cell} (hrows : source.rowCount = entries.size)
    (hvalue : ∀ {row : ℕ} {entry : α}, entries[row]? = some entry → ∀ column,
      source.valueAt row column = .ok (cell entry column)) :
    source.SingleLines ↔ ∀ entry ∈ entries.toList, ∀ column < source.columnCount,
      OneLine (cell entry column).display := by
  constructor
  · intro h entry hmem column hcolumn
    obtain ⟨row, hrow⟩ := List.mem_iff_getElem?.mp hmem
    rw [Array.getElem?_toList] at hrow
    obtain ⟨hlt, -⟩ := Array.getElem?_eq_some_iff.mp hrow
    obtain ⟨shown, hshown, hline⟩ := h row (hrows ▸ hlt) column hcolumn
    cases (hvalue hrow column).symm.trans hshown
    exact hline
  · intro h row hrow column hcolumn
    rw [hrows] at hrow
    exact ⟨_, hvalue (Array.getElem?_eq_getElem hrow) column,
      h _ (Array.getElem_mem_toList hrow) column hcolumn⟩

theorem ExceptionHandler.oneLine_cells_iff (handler : ExceptionHandler) (pool : ConstantPool) :
    (∀ column < 4, OneLine (handler.cell pool column).display) ↔
      ∀ index ∈ handler.poolIndices, OneLine (pool.label index) := by
  have hcaught : OneLine (handler.cell pool 3).display ↔
      ∀ index ∈ handler.poolIndices, OneLine (pool.label index) := by
    by_cases hany : handler.catchType = 0
    · simp [cell, poolIndices, hany, show OneLine "any" by decide]
    · simp [cell, poolIndices, hany, ConstantPool.link]
  rw [← hcaught]
  refine ⟨fun h => h 3 (by decide), fun h column hcolumn => ?_⟩
  obtain rfl | rfl | rfl | rfl : column = 0 ∨ column = 1 ∨ column = 2 ∨ column = 3 := by omega
  · exact oneLine_natRepr _
  · exact oneLine_natRepr _
  · exact oneLine_natRepr _
  · exact h

theorem LineNumber.oneLine_cell (line : LineNumber) (column : ℕ) :
    OneLine (line.cell column).display := by
  match column with
  | 0 => exact oneLine_natRepr _
  | _ + 1 => exact oneLine_intRepr _

theorem LocalVariable.oneLine_cells_iff (entry : LocalVariable) (pool : ConstantPool) :
    (∀ column < 5, OneLine (entry.cell pool column).display) ↔
      ∀ index ∈ [entry.nameIndex, entry.descriptorIndex], OneLine (pool.label index) := by
  rw [List.forall_mem_cons, List.forall_mem_singleton]
  refine ⟨fun h => ⟨h 3 (by decide), h 4 (by decide)⟩, fun h column hcolumn => ?_⟩
  match column with
  | 0 => exact oneLine_natRepr _
  | 1 | 2 => exact oneLine_intRepr _
  | 3 => exact h.1
  | 4 => exact h.2

/-- **Entries have cells of one line** exactly if the labels of all entries of the constant pool
that they show are of one line. -/
theorem Attribute.singleLines_iff (decoded : Attribute) (pool : ConstantPool) :
    (decoded.source pool).SingleLines ↔
      ∀ index ∈ decoded.poolIndices, OneLine (pool.label index) := by
  cases decoded with
  | exceptionTable handlers =>
    rw [poolIndices, List.forall_mem_flatMap]
    calc (source pool (.exceptionTable handlers)).SingleLines
        ↔ ∀ handler ∈ handlers.toList, ∀ column < 4, OneLine (handler.cell pool column).display :=
          Source.singleLines_iff_entries rfl (ExceptionHandler.valueAt_source pool)
      _ ↔ _ := forall₂_congr fun handler _ => handler.oneLine_cells_iff pool
  | lineNumberTable lines =>
    refine iff_of_true ?_ (List.forall_mem_nil _)
    exact (Source.singleLines_iff_entries rfl LineNumber.valueAt_source).mpr
      fun line _ column _ => line.oneLine_cell column
  | localVariableTable entries =>
    rw [poolIndices, List.forall_mem_flatMap]
    calc (source pool (.localVariableTable entries)).SingleLines
        ↔ ∀ entry ∈ entries.toList, ∀ column < 5, OneLine (entry.cell pool column).display :=
          Source.singleLines_iff_entries rfl (LocalVariable.valueAt_source pool)
      _ ↔ _ := forall₂_congr fun entry _ => entry.oneLine_cells_iff pool
  | exceptions classes =>
    calc (source pool (.exceptions classes)).SingleLines
        ↔ ∀ index ∈ classes.toList, ∀ column < 1, OneLine (pool.link index).display :=
          Source.singleLines_iff_entries rfl (DeclaredExceptions.valueAt_source pool)
      _ ↔ _ := forall₂_congr fun index _ => ⟨fun h => h 0 (by decide), fun h _ _ => h⟩

namespace Source

/-- **Which cells are of one line.** All cells of a frame shown as it is are, those apart for
which the library prints a line feed. So are those of entries without a constant pool; with the
constant pool of a dump they are exactly if, for each index that the entries show, the value in
the last row of the index is, and of the kinds known here only a text or bytes can fail to be. -/
theorem singleLines_iff_no_entryBreaks {dump : Frame} {pool : ConstantPool}
    (hpool : dump.constantPool = .ok pool) (decoded : Attribute) :
    ((decoded.source pool).SingleLines ↔
      ∀ index ∈ decoded.poolIndices, ¬dump.EntryBreaks index) ∧
    (decoded.source {}).SingleLines ∧
    ∀ (frame : Frame) (maxWidth : ℕ) (raw : Source), frame.source maxWidth = .ok raw →
      (raw.SingleLines ↔
        ∀ column ∈ frame.columns, ∀ row < frame.height, ¬column.cells.PrintsFeed row) := by
  refine ⟨?_, ?_, fun frame maxWidth raw => Frame.singleLines_source_iff⟩
  · rw [Attribute.singleLines_iff]
    refine forall₂_congr fun index _ => ?_
    rw [ConstantPool.oneLine_label, Frame.entryBreaks_iff hpool]
    simp
  · rw [Attribute.singleLines_iff]
    intro index _
    rw [ConstantPool.oneLine_label, ConstantPool.resolve?_empty]
    intro text htext
    cases htext

/-- A dump with two values of two lines, of which the first one is replaced. -/
def twoBreaks : Frame where
  columns := #[⟨"index", .integers .int64 #[some 1, some 1, some 2]⟩,
    ⟨"value", .texts #[some "a\nb", some "a", some "c\nd"]⟩]
  height := 3
  size_eq := by decide
  nodup := by decide

theorem words_twoBreaks : twoBreaks.words "index" = .ok #[1, 1, 2] :=
  Frame.words_eq_ok_iff.mpr ⟨⟨"index", .integers .int64 #[some 1, some 1, some 2]⟩, rfl, by
    simp [ColumnCells.toIntegers, Conversion.inRange, CellText.fitsNumber]⟩

theorem column?_twoBreaks : twoBreaks.column? "value" =
    some ⟨"value", .texts #[some "a\nb", some "a", some "c\nd"]⟩ := by
  rfl

theorem constantPool_twoBreaks :
    twoBreaks.constantPool = .ok (.ofList [(1, "a\nb"), (1, "a"), (2, "c\nd")]) :=
  Frame.constantPool_eq_ok_iff.mpr ⟨_, _, _, words_twoBreaks, column?_twoBreaks, rfl, by simp⟩

theorem not_printsFeed_twoBreaks :
    ∀ column ∈ twoBreaks.columns, ∀ row < twoBreaks.height, ¬column.cells.PrintsFeed row := by
  intro column hmem row _
  rcases List.mem_cons.mp hmem.val with rfl | hmem
  · exact not_false
  · obtain rfl := List.mem_singleton.mp hmem
    exact not_false

/-- A value is replaced by the one below it, and an index that is not shown does not matter. -/
theorem singleLines_iff_no_entryBreaks_replaced :
    ∃ pool raw, twoBreaks.source 40 = .ok raw ∧ raw.SingleLines ∧
      twoBreaks.constantPool = .ok pool ∧
      (Attribute.source pool (.exceptions #[1])).SingleLines ∧
      ¬(Attribute.source pool (.exceptions #[1, 2])).SingleLines := by
  obtain ⟨raw, hraw⟩ : ∃ raw, twoBreaks.source 40 = .ok raw :=
    Frame.exists_source_iff.mpr (by simp [twoBreaks, ColumnCells.toTexts])
  have hentries := singleLines_iff_no_entryBreaks constantPool_twoBreaks
  obtain ⟨hreplaced, -, hframe⟩ := hentries (.exceptions #[1])
  refine ⟨_, raw, hraw, (hframe _ _ _ hraw).mpr not_printsFeed_twoBreaks,
    constantPool_twoBreaks, ?_, ?_⟩
  · rw [hreplaced]
    intro index hindex hbreaks
    obtain rfl : index = 1 := List.mem_singleton.mp hindex
    obtain ⟨words, column, row, hwords, hcolumn, hrow, hlast, htext⟩ := hbreaks
    cases words_twoBreaks.symm.trans hwords
    cases column?_twoBreaks.symm.trans hcolumn
    -- the last row of the index is the second one
    obtain _ | _ | _ | _ := row
    · exact hlast 1 (by decide) rfl
    · obtain ⟨text, htext, hfeed⟩ := htext
      cases htext
      exact hfeed (by decide)
    · cases hrow
    · cases hrow
  · rw [(hentries (.exceptions #[1, 2])).1]
    intro hnone
    refine hnone 2 (by decide) ⟨_, _, 2, words_twoBreaks, column?_twoBreaks, rfl, ?_, ?_⟩
    · intro later hlater
      rw [Array.getElem?_eq_none hlater]
      intro heq
      cases heq
    · exact ⟨"c\nd", rfl, by decide⟩

/-- A declared exception whose class has a name of two lines. -/
theorem label_of_two_lines :
    ∃ pool cell, twoBreaks.constantPool = .ok pool ∧
      (Attribute.source pool (.exceptions #[2])).valueAt 0 0 = .ok cell ∧
      ¬OneLine cell.display := by
  refine ⟨_, _, constantPool_twoBreaks, rfl, ?_⟩
  rw [ConstantPool.link, Cell.display_link, ConstantPool.oneLine_label]
  intro hline
  refine absurd (hline "c\nd" ?_) (by decide)
  rw [ConstantPool.resolve?_ofList]
  rfl

end Source

end AttributeBrowser
