import Mathlib.Data.List.Nodup
import AttributeBrowser.Proofs.Frame.Numbers

/-!
# Frames that encode an attribute

A frame encodes an attribute if each field has a column of its own name that stores the
values of the field, entry by entry. Where that column stands, which other columns there
are and whether the numbers are stored as whole numbers, as floating point numbers or as
texts makes no difference: the frame is decoded as the attribute. The forms in which a
column can store 16-bit numbers meet the decoder at `ColumnCells.Lists`, which says no more
than which numbers the cells store.
-/

namespace AttributeBrowser

/-! ## Columns that store 16-bit numbers -/

/-- The cells store these numbers, row by row. -/
structure ColumnCells.Lists (cells : ColumnCells) (words : Array UInt16) : Prop where
  isNumeric : cells.IsNumeric
  size_eq : cells.size = words.size
  stores : ∀ row (h : row < words.size), cells.Stores row words[row].toNat

/-- The forms in which a column stores 16-bit numbers. -/
inductive Storage
  | integers (kind : IntegerKind)
  | floats
  /-- Decimal digits. -/
  | texts
deriving DecidableEq, Repr

namespace Storage

/-- The cells that store some numbers in a form. -/
def cells (storage : Storage) (words : Array UInt16) : ColumnCells :=
  match storage with
  | .integers kind => .integers kind (words.map fun word => some (word.toNat : Int))
  | .floats =>
    .floats .binary64 (words.map fun word => some (FloatFormat.binary64.round false word.toNat 1))
  | .texts => .texts (words.map fun word => some word.toNat.repr)

@[simp] theorem size_cells (storage : Storage) (words : Array UInt16) :
    (storage.cells words).size = words.size := by
  cases storage <;> simp [cells, ColumnCells.size]

theorem isNumeric_cells (storage : Storage) (words : Array UInt16) :
    (storage.cells words).IsNumeric := by
  cases storage with
  | integers kind => exact .integers kind _
  | floats => exact .floats _ _
  | texts => exact .texts _

theorem value?_round_word (word : UInt16) :
    (FloatFormat.binary64.round false word.toNat 1).value? = some (word.toNat : ℚ) := by
  refine FloatFormat.value?_round_natCast (by decide) (by decide) ?_
  exact word.toNat_lt.trans (by decide)

/-- **Every form stores every 16-bit number** as it is. -/
theorem stores_cells (storage : Storage) (words : Array UInt16) {row : ℕ} (h : row < words.size) :
    (storage.cells words).Stores row words[row].toNat := by
  cases storage with
  | integers kind => exact ⟨words[row].toNat, by simp [h], by simp⟩
  | floats => exact ⟨_, by simp [h], value?_round_word words[row]⟩
  | texts => exact ⟨_, by simp [h], words[row].toNat, writes_repr _, by simp⟩

theorem lists_cells (storage : Storage) (words : Array UInt16) :
    (storage.cells words).Lists words where
  isNumeric := storage.isNumeric_cells words
  size_eq := storage.size_cells words
  stores := fun _ => storage.stores_cells words

end Storage

/-! ## Frames of fields -/

theorem AttributeKind.nodup_fields (kind : AttributeKind) : kind.fields.Nodup := by
  cases kind <;> decide

theorem Attribute.kind_ne_raw (decoded : Attribute) : decoded.kind ≠ .raw := by
  cases decoded <;> simp [kind]

namespace Frame

variable {frame : Frame} {decoded : Attribute}

/-- The frame has a column for each field, in any place, that stores its values. -/
def Encodes (frame : Frame) (decoded : Attribute) : Prop :=
  ∀ field ∈ decoded.fields, ∃ cells : ColumnCells,
    ⟨field.1, cells⟩ ∈ frame.columns ∧ cells.Lists field.2

/-- The frame of the fields, each stored in the form chosen for its name. -/
def encode (storages : String → Storage) (decoded : Attribute) : Frame where
  columns :=
    (decoded.fields.map fun field => ⟨field.1, (storages field.1).cells field.2⟩).toArray
  height := decoded.size
  size_eq := by
    intro column hcolumn
    obtain ⟨field, hfield, rfl⟩ := List.mem_map.mp hcolumn
    rw [Storage.size_cells, decoded.size_fields field hfield]
  nodup := by
    have hnames := decoded.kind.nodup_fields
    rw [← decoded.fields_names] at hnames
    simpa [Function.comp_def] using hnames

theorem mem_columns_encode {storages : String → Storage} {name : String} {words : Array UInt16}
    (h : (name, words) ∈ decoded.fields) :
    ⟨name, (storages name).cells words⟩ ∈ (encode storages decoded).columns :=
  List.mem_toArray.mpr (List.mem_map.mpr ⟨_, h, rfl⟩)

/-- The column of a name is the one that has it, wherever it stands. -/
theorem column?_of_mem {column : Column} (h : column ∈ frame.columns) :
    frame.column? column.name = some column := by
  cases hfound : frame.column? column.name with
  | none => exact absurd (Array.find?_eq_none.mp hfound column h) (by simp)
  | some found =>
    have hname : found.name = column.name := by simpa using Array.find?_some hfound
    have hmem := Array.mem_toList_iff.mpr (Array.mem_of_find?_eq_some hfound)
    rw [List.inj_on_of_nodup_map frame.nodup hmem (Array.mem_toList_iff.mpr h) hname]

/-- A column that stores numbers is read as these numbers. -/
theorem holdsWords_of_lists {name : String} {cells : ColumnCells} {words : Array UInt16}
    (hmem : ⟨name, cells⟩ ∈ frame.columns) (hlists : cells.Lists words) :
    frame.HoldsWords name words := by
  have hcolumn : frame.column? name = some ⟨name, cells⟩ := column?_of_mem hmem
  have hnumeric : frame.IsNumeric name := ⟨_, hcolumn, hlists.isNumeric⟩
  refine hnumeric.holdsWords_iff.mpr ⟨?_, fun row hrow => ?_⟩
  · rw [← hlists.size_eq]
    exact height_eq_of_column? hcolumn
  · exact ⟨_, ⟨_, hcolumn, hlists.stores row hrow⟩, wholePart_intCast words[row].toNat⟩

theorem Encodes.decode (h : frame.Encodes decoded) :
    frame.decode decoded.kind = .ok (.ok (some decoded)) := by
  refine (decode_eq_ok_iff decoded.kind_ne_raw).mpr ⟨decoded, rfl, rfl, fun field hfield => ?_⟩
  obtain ⟨cells, hmem, hlists⟩ := h field hfield
  exact holdsWords_of_lists hmem hlists

theorem encodes_of_subset {storages : String → Storage}
    (h : ∀ column ∈ (encode storages decoded).columns, column ∈ frame.columns) :
    frame.Encodes decoded := by
  intro field hfield
  exact ⟨(storages field.1).cells field.2, h _ (mem_columns_encode hfield), Storage.lists_cells _ _⟩

/-- **Decoding undoes encoding.** A frame with a column for each field of an attribute that
stores the values of the field, in any order and among any other columns, is decoded as that
attribute. The columns may be the ones made for the fields with each in a form of its own. -/
theorem decode_encode (decoded : Attribute) :
    (∀ frame : Frame, frame.Encodes decoded →
      frame.decode decoded.kind = .ok (.ok (some decoded))) ∧
    (∀ (storages : String → Storage) (frame : Frame),
      (∀ column ∈ (encode storages decoded).columns, column ∈ frame.columns) →
      frame.Encodes decoded) :=
  ⟨fun _ => Encodes.decode, fun _ _ => encodes_of_subset⟩

/-- Two variables. -/
def twoVariables : Attribute :=
  .localVariableTable #[⟨0, 10, 5, 6, 0⟩, ⟨65535, 3, 7, 8, 1⟩]

/-- Whole numbers of several kinds, floating point numbers and texts. -/
def mixedStorages : String → Storage
  | "start_pc" => .floats
  | "length" => .integers .int32
  | "name_index" => .texts
  | "descriptor_index" => .integers .uint64
  | _ => .integers .int64

/-- The columns of two variables from the last to the first, behind one of another name. -/
def shuffledVariables : Frame where
  columns := ((encode mixedStorages twoVariables).columns.push
    ⟨"comment", .texts #[none, some "second"]⟩).reverse
  height := 2
  size_eq := by
    have hcomment : (ColumnCells.texts #[none, some "second"]).size = 2 := rfl
    simp [encode, twoVariables, Attribute.fields, hcomment]
  nodup := by simp [encode, twoVariables, Attribute.fields]

theorem decode_encode_shuffled :
    (∀ column ∈ (encode mixedStorages twoVariables).columns, column ∈ shuffledVariables.columns) ∧
      shuffledVariables.Encodes twoVariables ∧
      shuffledVariables.decode .localVariableTable = .ok (.ok (some twoVariables)) := by
  obtain ⟨hdecode, hencodes⟩ := decode_encode twoVariables
  have hmem : ∀ column ∈ (encode mixedStorages twoVariables).columns,
      column ∈ shuffledVariables.columns := by
    intro column hcolumn
    exact Array.mem_reverse.mpr (Array.mem_push_of_mem _ hcolumn)
  have hshuffled := hencodes mixedStorages shuffledVariables hmem
  exact ⟨hmem, hshuffled, hdecode shuffledVariables hshuffled⟩

end Frame

end AttributeBrowser
