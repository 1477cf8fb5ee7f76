import AttributeBrowser.Proofs.ClassFile.Links
import AttributeBrowser.Proofs.Frame.Encoding

/-!
# A dump as entries and as it is

A frame that is decoded can be shown in two ways: as the entries of an attribute or as it
is. Each column of the entries shows one field (`AttributeKind.shown`), and neither the order
in which fields are read nor the order of the columns of the frame is the order in which they
are shown. Both ways meet at the 16-bit numbers that are read: the entries show these
(`Attribute.shows_source`), and so does a column of whole numbers as it is
(`Frame.exists_column_shows`).
-/

namespace AttributeBrowser

/-! ## What the columns of entries show -/

/-- How the values of a field are shown. -/
inductive Form
  | digits
  /-- An index of the constant pool. -/
  | entry
  /-- An index of the constant pool, or zero for any class. -/
  | caught
deriving DecidableEq, Repr

/-- The text of an index of the constant pool with these digits. -/
def ConstantPool.entryText (pool : ConstantPool) (index : UInt16) (digits : String) : String :=
  "cp_info #" ++ digits ++ " <" ++ (pool.resolve? index).getD "invalid" ++ ">"

/-- The text of a value with these digits. -/
def Form.text (pool : ConstantPool) (value : UInt16) (digits : String) : Form → String
  | .digits => digits
  | .entry => pool.entryText value digits
  | .caught => if value = 0 then "any" else pool.entryText value digits

/-- A column of entries: its header, the field shown there and how. -/
structure ShownField where
  header : String
  field : String
  form : Form
deriving DecidableEq, Repr

/-- The columns of the entries of a kind, from left to right. -/
def AttributeKind.shown : AttributeKind → List ShownField
  | .raw => []
  | .exceptionTable =>
    [⟨"Start PC", "start_pc", .digits⟩, ⟨"End PC", "end_pc", .digits⟩,
      ⟨"Handler PC", "handler_pc", .digits⟩, ⟨"Catch Type", "catch_type", .caught⟩]
  | .lineNumberTable =>
    [⟨"Start PC", "start_pc", .digits⟩, ⟨"Line Number", "line_number", .digits⟩]
  | .localVariableTable =>
    [⟨"Start PC", "start_pc", .digits⟩, ⟨"Length", "length", .digits⟩,
      ⟨"Index", "index", .digits⟩, ⟨"Name", "name_index", .entry⟩,
      ⟨"Descriptor", "descriptor_index", .entry⟩]
  | .exceptions => [⟨"Exception", "exception_index", .entry⟩]

/-- Every field is shown once. -/
theorem AttributeKind.shown_perm_fields (kind : AttributeKind) :
    (kind.shown.map ShownField.field).Perm kind.fields := by
  cases kind <;> decide

/-- The column shows a field with these values, row by row. -/
structure Source.Shows (source : Source) (pool : ConstantPool) (column : ℕ) (shown : ShownField)
    (words : Array UInt16) : Prop where
  header : source.columnName column = .ok shown.header
  cells : ∀ row (h : row < words.size), ∃ cell, source.valueAt row column = .ok cell ∧
    cell.display = shown.form.text pool words[row] words[row].toNat.repr

/-- A column of entries shows the field of which each entry shows its own value. -/
theorem Source.Shows.of_entries {source : Source} {pool : ConstantPool} {column : ℕ}
    {shown : ShownField} {α : Type} {entries : Array α} {cell : α → ℕ → Cell}
    (value : α → UInt16) (hheader : source.columnName column = .ok shown.header)
    (hvalue : ∀ {row : ℕ} {entry : α}, entries[row]? = some entry → ∀ column,
      source.valueAt row column = .ok (cell entry column))
    (htext : ∀ entry, (cell entry column).display =
      shown.form.text pool (value entry) (value entry).toNat.repr) :
    source.Shows pool column shown (entries.map value) where
  header := hheader
  cells := by
    intro row hrow
    rw [Array.size_map] at hrow
    refine ⟨_, hvalue (Array.getElem?_eq_getElem hrow) column, ?_⟩
    rw [Array.getElem_map]
    exact htext entries[row]

/-! ## Entries -/

section Entries

variable {column : ℕ} {shown : ShownField}

/-- A handler that catches any class shows no index. -/
theorem ExceptionHandler.display_cell_caught (handler : ExceptionHandler) (pool : ConstantPool) :
    (handler.cell pool 3).display =
      Form.caught.text pool handler.catchType handler.catchType.toNat.repr := by
  simp only [cell, Form.text]
  split <;> rfl

theorem ExceptionHandler.shows_source (handlers : Array ExceptionHandler) (pool : ConstantPool)
    (h : AttributeKind.exceptionTable.shown[column]? = some shown) :
    ∃ words, (shown.field, words) ∈ (Attribute.exceptionTable handlers).fields ∧
      (source handlers pool).Shows pool column shown words := by
  have hvalue := @valueAt_source handlers pool
  match column with
  | 0 =>
    cases h
    exact ⟨_, by simp [Attribute.fields], .of_entries startPc rfl hvalue fun _ => rfl⟩
  | 1 =>
    cases h
    exact ⟨_, by simp [Attribute.fields], .of_entries endPc rfl hvalue fun _ => rfl⟩
  | 2 =>
    cases h
    exact ⟨_, by simp [Attribute.fields], .of_entries handlerPc rfl hvalue fun _ => rfl⟩
  | 3 =>
    cases h
    exact ⟨_, by simp [Attribute.fields],
      .of_entries catchType rfl hvalue (display_cell_caught · pool)⟩
  | _ + 4 => cases h

theorem LineNumber.shows_source (lines : Array LineNumber) (pool : ConstantPool)
    (h : AttributeKind.lineNumberTable.shown[column]? = some shown) :
    ∃ words, (shown.field, words) ∈ (Attribute.lineNumberTable lines).fields ∧
      (source lines).Shows pool column shown words := by
  have hvalue := @valueAt_source lines
  match column with
  | 0 =>
    cases h
    exact ⟨_, by simp [Attribute.fields], .of_entries startPc rfl hvalue fun _ => rfl⟩
  | 1 =>
    cases h
    exact ⟨_, by simp [Attribute.fields], .of_entries lineNumber rfl hvalue fun _ => rfl⟩
  | _ + 2 => cases h

/-- The slot is read last and stands before the name. -/
theorem LocalVariable.shows_source (entries : Array LocalVariable) (pool : ConstantPool)
    (h : AttributeKind.localVariableTable.shown[column]? = some shown) :
    ∃ words, (shown.field, words) ∈ (Attribute.localVariableTable entries).fields ∧
      (source entries pool).Shows pool column shown words := by
  have hvalue := @valueAt_source entries pool
  match column with
  | 0 =>
    cases h
    exact ⟨_, by simp [Attribute.fields], .of_entries startPc rfl hvalue fun _ => rfl⟩
  | 1 =>
    cases h
    exact ⟨_, by simp [Attribute.fields], .of_entries length rfl hvalue fun _ => rfl⟩
  | 2 =>
    cases h
    exact ⟨_, by simp [Attribute.fields], .of_entries index rfl hvalue fun _ => rfl⟩
  | 3 =>
    cases h
    exact ⟨_, by simp [Attribute.fields], .of_entries nameIndex rfl hvalue fun _ => rfl⟩
  | 4 =>
    cases h
    exact ⟨_, by simp [Attribute.fields], .of_entries descriptorIndex rfl hvalue fun _ => rfl⟩
  | _ + 5 => cases h

theorem DeclaredExceptions.shows_source (classes : Array UInt16) (pool : ConstantPool)
    (h : AttributeKind.exceptions.shown[column]? = some shown) :
    ∃ words, (shown.field, words) ∈ (Attribute.exceptions classes).fields ∧
      (source classes pool).Shows pool column shown words := by
  have hvalue := @valueAt_source classes pool
  match column with
  | 0 =>
    cases h
    refine ⟨classes.map id, by simp [Attribute.fields], ?_⟩
    exact .of_entries id rfl hvalue fun _ => rfl
  | _ + 1 => cases h

/-- **The entries of an attribute show its fields**, each in a column of its own. -/
theorem Attribute.shows_source (decoded : Attribute) (pool : ConstantPool)
    (h : decoded.kind.shown[column]? = some shown) :
    ∃ words, (shown.field, words) ∈ decoded.fields ∧
      (decoded.source pool).Shows pool column shown words := by
  cases decoded with
  | exceptionTable handlers => exact ExceptionHandler.shows_source handlers pool h
  | lineNumberTable lines => exact LineNumber.shows_source lines pool h
  | localVariableTable entries => exact LocalVariable.shows_source entries pool h
  | exceptions classes => exact DeclaredExceptions.shows_source classes pool h

end Entries

theorem Attribute.rowCount_source (decoded : Attribute) (pool : ConstantPool) :
    (decoded.source pool).rowCount = decoded.size := by
  cases decoded <;> rfl

theorem Attribute.columnCount_source (decoded : Attribute) (pool : ConstantPool) :
    (decoded.source pool).columnCount = decoded.kind.shown.length := by
  cases decoded <;> rfl

namespace Frame

variable {frame : Frame} {maxWidth : ℕ} {raw : Source}

/-! ## The frame as it is -/

/-- The column of the name is of whole numbers. -/
def IsInteger (frame : Frame) (name : String) : Prop :=
  ∃ kind cells, frame.column? name = some ⟨name, .integers kind cells⟩

theorem exists_measure_iff (maxWidth : ℕ) (column : Column) :
    (∃ width, measure maxWidth column = .ok width) ↔
      ∃ texts, column.cells.toTexts = .ok texts := by
  unfold measure
  split <;> simp [*]

/-- A frame can be shown as it is exactly if all its columns convert to text. -/
theorem exists_source_iff : (∃ raw, frame.source maxWidth = .ok raw) ↔
    ∀ column ∈ frame.columns, ∃ texts, column.cells.toTexts = .ok texts := by
  calc (∃ raw, frame.source maxWidth = .ok raw)
      ↔ ∃ widths, frame.columns.mapM (measure maxWidth) = .ok widths := by
        unfold source
        split <;> simp [*]
    _ ↔ ∃ widths, frame.columns.toList.mapM (measure maxWidth) = .ok widths := by
        rw [Array.mapM_eq_mapM_toList]
        simp [Functor.map, map_eq_ok_iff]
    _ ↔ ∀ column ∈ frame.columns, ∃ texts, column.cells.toTexts = .ok texts := by
        simp only [exists_mapM_eq_ok_iff, exists_measure_iff, Array.mem_toList_iff]

theorem rowCount_source (h : frame.source maxWidth = .ok raw) : raw.rowCount = frame.height := by
  unfold source at h
  split at h <;> cases h
  rfl

theorem columnCount_source (h : frame.source maxWidth = .ok raw) :
    raw.columnCount = frame.columns.size := by
  unfold source at h
  split at h <;> cases h
  rfl

theorem columnName_source_eq_ok_iff (h : frame.source maxWidth = .ok raw) {place : ℕ}
    {name : String} : raw.columnName place = .ok name ↔
      ∃ cells, frame.columns[place]? = some ⟨name, cells⟩ := by
  unfold source at h
  split at h <;> cases h
  cases hat : frame.columns[place]? with
  | none => simp [hat]
  | some column =>
    obtain ⟨name', cells⟩ := column
    simp [hat]

theorem valueAt_source {column : Column} {place : ℕ} (h : frame.source maxWidth = .ok raw)
    (hcolumn : frame.columns[place]? = some column) (row : ℕ) :
    raw.valueAt row place = .ok (column.cells.cell row) := by
  unfold source at h
  split at h <;> cases h
  simp only [hcolumn]

/-- A name stands above one column only. -/
theorem place_eq_of_names {place other : ℕ} {column column' : Column}
    (hcolumn : frame.columns[place]? = some column)
    (hother : frame.columns[other]? = some column') (hname : column'.name = column.name) :
    other = place := by
  have hat : (frame.columns.toList.map Column.name)[place]? = some column.name := by simp [hcolumn]
  have hat' : (frame.columns.toList.map Column.name)[other]? = some column.name := by
    simp [hother, hname]
  have hlt := (List.getElem?_eq_some_iff.mp hat').1
  exact (List.getElem?_inj hlt frame.nodup).mp (hat'.trans hat.symm)

/-- A column of whole numbers shows the numbers that are read from it. -/
theorem cell_of_holdsWords {name : String} {kind : IntegerKind} {cells : Array (Option ℤ)}
    {words : Array UInt16} (hcolumn : frame.column? name = some ⟨name, .integers kind cells⟩)
    (hwords : frame.HoldsWords name words) {row : ℕ} (hrow : row < words.size) :
    (ColumnCells.integers kind cells).cell row = .number words[row].toNat := by
  have hnumeric : frame.IsNumeric name := ⟨_, hcolumn, .integers kind cells⟩
  obtain ⟨number, ⟨column, hcolumn', hstored⟩, hword⟩ :=
    (hnumeric.holdsWords_iff.mp hwords).2 row hrow
  cases hcolumn.symm.trans hcolumn'
  obtain ⟨n, hn, rfl⟩ := hstored
  rw [wholePart_intCast] at hword
  subst hword
  have hlt := words[row].toNat_lt
  have hfits : CellText.fitsNumber (words[row].toNat : ℤ) = true :=
    fitsNumber_of_isWord (by omega)
  simp [ColumnCells.cell, hn, CellText.ofInteger, hfits]

/-- **A column of whole numbers shows what is read from it**: of all columns of the frame as it
is, the one of that name. -/
theorem exists_column_shows {name : String} {words : Array UInt16}
    (hinteger : frame.IsInteger name) (hwords : frame.HoldsWords name words)
    (h : frame.source maxWidth = .ok raw) :
    ∃ place, (∀ other, raw.columnName other = .ok name ↔ other = place) ∧
      ∀ row (hrow : row < words.size), raw.valueAt row place = .ok (.number words[row].toNat) := by
  obtain ⟨kind, cells, hcolumn⟩ := hinteger
  obtain ⟨place, hplace, hat⟩ := Array.mem_iff_getElem.mp (Array.mem_of_find?_eq_some hcolumn)
  have hat? : frame.columns[place]? = some ⟨name, .integers kind cells⟩ := by
    rw [Array.getElem?_eq_getElem hplace, hat]
  refine ⟨place, fun other => ?_, fun row hrow => ?_⟩
  · rw [columnName_source_eq_ok_iff h]
    constructor
    · rintro ⟨cells', hother⟩
      exact place_eq_of_names hat? hother rfl
    · rintro rfl
      exact ⟨_, hat?⟩
  · rw [valueAt_source h hat?, cell_of_holdsWords hcolumn hwords hrow]

/-- **Entries and the frame as it is agree.** Let the columns that a kind needs be of whole
numbers, and the frame be decoded. The frame can then be shown as it is too, unless another
column does not convert to text, and it has as many rows as there are entries. Every field is
shown in one column of the entries, under its header, and has the values of one column of the
frame, the one of its name: where digits are shown the text is the same in every row, and where
entries of the constant pool are shown it is made of the same digits and of what the pool has
for the number. -/
theorem entries_agree_with_frame {kind : AttributeKind} {decoded : Attribute}
    (hdecode : frame.decode kind = .ok (.ok (some decoded)))
    (hinteger : ∀ name ∈ kind.fields, frame.IsInteger name) (maxWidth : ℕ)
    (pool : ConstantPool) :
    ((∃ raw, frame.source maxWidth = .ok raw) ↔
      ∀ column ∈ frame.columns, ∃ texts, column.cells.toTexts = .ok texts) ∧
    ∀ raw, frame.source maxWidth = .ok raw →
      (decoded.source pool).rowCount = raw.rowCount ∧
      (decoded.source pool).columnCount = kind.shown.length ∧
      (kind.shown.map ShownField.field).Perm kind.fields ∧
      ∀ column shown, kind.shown[column]? = some shown →
        (decoded.source pool).columnName column = .ok shown.header ∧
        ∃ place, (∀ other, raw.columnName other = .ok shown.field ↔ other = place) ∧
          ∀ row < raw.rowCount, ∃ (word : UInt16) (cell rawCell : Cell),
            (decoded.source pool).valueAt row column = .ok cell ∧
            raw.valueAt row place = .ok rawCell ∧ rawCell.display = word.toNat.repr ∧
            cell.display = shown.form.text pool word rawCell.display := by
  obtain ⟨rfl, hholds⟩ := holds_of_decode hdecode
  refine ⟨exists_source_iff, fun raw hraw => ?_⟩
  have hrows := rowCount_source hraw
  refine ⟨?_, decoded.columnCount_source pool, decoded.kind.shown_perm_fields,
    fun column shown hshown => ?_⟩
  · rw [decoded.rowCount_source, hholds.size_eq, hrows]
  · obtain ⟨words, hfield, hshows⟩ := decoded.shows_source pool hshown
    have hname : shown.field ∈ decoded.kind.fields := by
      rw [← decoded.fields_names]
      exact List.mem_map_of_mem hfield
    have hwords : frame.HoldsWords shown.field words := hholds _ hfield
    obtain ⟨place, hplace, hcells⟩ := exists_column_shows (hinteger _ hname) hwords hraw
    refine ⟨hshows.header, place, hplace, fun row hrow => ?_⟩
    have hrow' : row < words.size := by rwa [hwords.size_eq, ← hrows]
    obtain ⟨cell, hcell, htext⟩ := hshows.cells row hrow'
    exact ⟨words[row], cell, _, hcell, hcells row hrow', rfl, htext⟩

theorem isInteger_encode (kind : IntegerKind) (decoded : Attribute) :
    ∀ name ∈ decoded.kind.fields, (encode (fun _ => .integers kind) decoded).IsInteger name := by
  rw [← decoded.fields_names]
  intro name hname
  obtain ⟨⟨_, words⟩, hfield, rfl⟩ := List.mem_map.mp hname
  exact ⟨kind, _, column?_of_mem (mem_columns_encode hfield)⟩

/-- One variable, in the slot 1. -/
def oneVariable : Attribute := .localVariableTable #[⟨0, 10, 5, 6, 1⟩]

/-- Its columns, with the slot at the end. -/
def oneVariableFrame : Frame := encode (fun _ => .integers .int32) oneVariable

/-- The slot is shown in the third column, and the name behind it as an entry. -/
theorem entries_agree_with_frame_slot :
    oneVariableFrame.decode .localVariableTable = .ok (.ok (some oneVariable)) ∧
      (∀ name ∈ AttributeKind.localVariableTable.fields, oneVariableFrame.IsInteger name) ∧
      ∃ raw, oneVariableFrame.source 40 = .ok raw ∧
        (∃ place cell rawCell, raw.columnName place = .ok "index" ∧
          (oneVariable.source {}).valueAt 0 2 = .ok cell ∧
          raw.valueAt 0 place = .ok rawCell ∧ cell.display = rawCell.display) ∧
        ∃ place cell rawCell, raw.columnName place = .ok "name_index" ∧
          (oneVariable.source {}).valueAt 0 3 = .ok cell ∧
          raw.valueAt 0 place = .ok rawCell ∧
          cell.display = "cp_info #" ++ rawCell.display ++ " <" ++ "invalid" ++ ">" := by
  have hdecode : oneVariableFrame.decode .localVariableTable = .ok (.ok (some oneVariable)) :=
    (encodes_of_subset fun _ hcolumn => hcolumn).decode
  have hinteger := isInteger_encode .int32 oneVariable
  obtain ⟨hraw, hagree⟩ := entries_agree_with_frame hdecode hinteger 40 {}
  obtain ⟨raw, hraw⟩ := hraw.mpr (by
    intro column hcolumn
    obtain ⟨field, -, rfl⟩ := List.mem_map.mp (List.mem_toArray.mp hcolumn)
    exact ⟨_, rfl⟩)
  obtain ⟨hrows, -, -, hcolumns⟩ := hagree raw hraw
  have hrow : 0 < raw.rowCount := hrows ▸ Nat.one_pos
  obtain ⟨-, place, hplace, hcells⟩ := hcolumns 2 _ rfl
  obtain ⟨-, place', hplace', hcells'⟩ := hcolumns 3 _ rfl
  obtain ⟨word, cell, rawCell, hcell, hrawCell, -, htext⟩ := hcells 0 hrow
  obtain ⟨word', cell', rawCell', hcell', hrawCell', -, htext'⟩ := hcells' 0 hrow
  refine ⟨hdecode, hinteger, raw, hraw,
    ⟨place, cell, rawCell, (hplace place).mpr rfl, hcell, hrawCell, htext⟩,
    place', cell', rawCell', (hplace' place').mpr rfl, hcell', hrawCell', ?_⟩
  rw [htext', Form.text, ConstantPool.entryText, ConstantPool.resolve?_empty, Option.getD_none]

end Frame

end AttributeBrowser
