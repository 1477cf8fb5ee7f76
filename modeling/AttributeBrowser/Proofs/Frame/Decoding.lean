import Mathlib.Data.List.Forall2
import AttributeBrowser.Frame.Decoding

/-!
# Which frames are decoded

A frame is decoded as a kind of attribute exactly if each field of the kind has a column
that can be read: one that is converted to whole numbers, with a 16-bit number in every
row. The entries then hold what the columns hold, row by row. If not, the first field of
the kind whose column cannot be read is reported, and of its rows the first.
-/

namespace AttributeBrowser

/-! ## What an attribute holds, field by field -/

/-- The fields of a kind of attribute, in the order in which their columns are read. -/
def AttributeKind.fields : AttributeKind → List String
  | .raw => []
  | .exceptionTable => ["start_pc", "end_pc", "handler_pc", "catch_type"]
  | .lineNumberTable => ["start_pc", "line_number"]
  | .localVariableTable => ["start_pc", "length", "name_index", "descriptor_index", "index"]
  | .exceptions => ["exception_index"]

namespace Attribute

/-- What kind of attribute it is. -/
def kind : Attribute → AttributeKind
  | .exceptionTable _ => .exceptionTable
  | .lineNumberTable _ => .lineNumberTable
  | .localVariableTable _ => .localVariableTable
  | .exceptions _ => .exceptions

/-- The number of entries. -/
def size : Attribute → Nat
  | .exceptionTable handlers => handlers.size
  | .lineNumberTable lines => lines.size
  | .localVariableTable entries => entries.size
  | .exceptions classes => classes.size

/-- The names of the fields, each with its values entry by entry. -/
def fields : Attribute → List (String × Array UInt16)
  | .exceptionTable handlers =>
    [("start_pc", handlers.map (·.startPc)), ("end_pc", handlers.map (·.endPc)),
      ("handler_pc", handlers.map (·.handlerPc)), ("catch_type", handlers.map (·.catchType))]
  | .lineNumberTable lines =>
    [("start_pc", lines.map (·.startPc)), ("line_number", lines.map (·.lineNumber))]
  | .localVariableTable entries =>
    [("start_pc", entries.map (·.startPc)), ("length", entries.map (·.length)),
      ("name_index", entries.map (·.nameIndex)),
      ("descriptor_index", entries.map (·.descriptorIndex)), ("index", entries.map (·.index))]
  | .exceptions classes => [("exception_index", classes)]

theorem fields_names (decoded : Attribute) :
    decoded.fields.map Prod.fst = decoded.kind.fields := by
  cases decoded <;> rfl

theorem size_fields (decoded : Attribute) :
    ∀ field ∈ decoded.fields, field.2.size = decoded.size := by
  cases decoded <;> simp [fields, size]

theorem exists_mem_fields (decoded : Attribute) : ∃ field, field ∈ decoded.fields := by
  cases decoded <;> exact ⟨_, List.mem_cons_self⟩

end Attribute

namespace Frame

variable {frame : Frame} {name : String} {error : Error}

/-! ## Columns of 16-bit numbers -/

/-- The cell holds a 16-bit number. -/
def IsWord (cell : Option Int) : Prop :=
  ∃ value, cell = some value ∧ 0 ≤ value ∧ value ≤ 65535

/-- The frame has a column of the name, and it is converted to these cells. -/
def Converts (frame : Frame) (name : String) (cells : Array (Option Int)) : Prop :=
  ∃ column, frame.column? name = some column ∧ column.cells.toIntegers = .ok cells

/-- The column of the name has these numbers, row by row. -/
def HoldsWords (frame : Frame) (name : String) (words : Array UInt16) : Prop :=
  frame.Converts name (words.map fun word => some (word.toNat : Int))

/-- The column of the name has a 16-bit number in every row. -/
def Readable (frame : Frame) (name : String) : Prop :=
  ∃ cells, frame.Converts name cells ∧ ∀ cell ∈ cells, IsWord cell

/-- Why the column of the name cannot be read. A row is at fault only if those above it
are not. -/
inductive ColumnFault (frame : Frame) (name : String) : Error → Prop
  | missing (h : frame.column? name = none) : ColumnFault frame name (.missingColumn name)
  | notConverted {column : Column} {reason : FrameReason}
      (hcolumn : frame.column? name = some column)
      (hconvert : column.cells.toIntegers = .error reason) : ColumnFault frame name (.frame reason)
  | empty {cells : Array (Option Int)} {above below : List (Option Int)}
      (hcells : frame.Converts name cells) (hsplit : cells.toList = above ++ none :: below)
      (habove : ∀ cell ∈ above, IsWord cell) :
      ColumnFault frame name (.invalidValue (.empty name above.length))
  | outOfRange {cells : Array (Option Int)} {above below : List (Option Int)} {value : Int}
      (hcells : frame.Converts name cells) (hsplit : cells.toList = above ++ some value :: below)
      (habove : ∀ cell ∈ above, IsWord cell) (hvalue : ¬IsWord (some value)) :
      ColumnFault frame name (.invalidValue (.outOfRange name above.length value))

theorem isWord_iff {cell : Option Int} :
    IsWord cell ↔ ∃ word : UInt16, cell = some (word.toNat : Int) := by
  constructor
  · rintro ⟨value, rfl, hlo, hhi⟩
    refine ⟨UInt16.ofNat value.toNat, ?_⟩
    rw [UInt16.toNat_ofNat_of_lt' (show value.toNat < 65536 from by omega)]
    exact congrArg some (Int.toNat_of_nonneg hlo).symm
  · rintro ⟨word, rfl⟩
    have hlt := word.toNat_lt
    exact ⟨word.toNat, rfl, by omega, by omega⟩

theorem word_eq_ok_iff {row : Nat} {cell : Option Int} {word : UInt16} :
    Frame.word name row cell = .ok word ↔ cell = some (word.toNat : Int) := by
  cases cell with
  | none => simp [Frame.word]
  | some value =>
    simp only [Frame.word, Option.some.injEq]
    split
    · rename_i hvalue
      simp only [Except.ok.injEq]
      constructor
      · rintro rfl
        rw [UInt16.toNat_ofNat_of_lt' (show value.toNat < 65536 from by omega)]
        omega
      · rintro rfl
        simp
    · rename_i hvalue
      simp only [reduceCtorEq, false_iff]
      rintro rfl
      have hlt := word.toNat_lt
      omega

theorem word_eq_error_iff {row : Nat} {cell : Option Int} :
    Frame.word name row cell = .error error ↔
      (cell = none ∧ error = .invalidValue (.empty name row)) ∨
        ∃ value, cell = some value ∧ ¬IsWord cell ∧
          error = .invalidValue (.outOfRange name row value) := by
  cases cell with
  | none => simp [Frame.word, eq_comm]
  | some value =>
    simp only [Frame.word]
    split
    · rename_i hvalue
      simp [IsWord, hvalue]
    · rename_i hvalue
      simp [IsWord, hvalue, eq_comm]

/-- The numbers of some cells are read exactly if each cell holds its number. -/
theorem mapM_word_eq_ok_iff {cells : List (Option Int)} {row : Nat} {words : List UInt16} :
    (cells.zipIdx row).mapM (fun (cell, row) => Frame.word name row cell) = .ok words ↔
      cells = words.map fun word => some (word.toNat : Int) := by
  induction cells generalizing row words with
  | nil => cases words <;> simp [pure, Except.pure]
  | cons cell cells ih =>
    simp only [List.zipIdx_cons, List.mapM_cons, bind_eq_ok_iff, word_eq_ok_iff, ih, pure,
      Except.pure, Except.ok.injEq]
    constructor
    · rintro ⟨word, rfl, rest, rfl, rfl⟩
      rfl
    · intro h
      cases words with
      | nil => cases h
      | cons word words =>
        obtain ⟨rfl, rfl⟩ := List.cons.inj h
        exact ⟨word, rfl, words, rfl, rfl⟩

/-- The first cell that holds no number is reported, with its row. -/
theorem mapM_word_eq_error_iff {cells : List (Option Int)} {row : Nat} :
    (cells.zipIdx row).mapM (fun (cell, row) => Frame.word name row cell) = .error error ↔
      ∃ above cell below, cells = above ++ cell :: below ∧ (∀ cell ∈ above, IsWord cell) ∧
        Frame.word name (row + above.length) cell = .error error := by
  -- for every first row, as the cells below the first one are counted from the next row on
  induction cells generalizing row with
  | nil => simp [pure, Except.pure]
  | cons cell cells ih =>
    simp only [List.zipIdx_cons, List.mapM_cons, bind_eq_error_iff, word_eq_ok_iff, ih, pure,
      Except.pure, reduceCtorEq, and_false, exists_false, or_false]
    constructor
    · rintro (hcell | ⟨word, rfl, above, other, below, rfl, habove, hother⟩)
      · exact ⟨[], cell, cells, rfl, by simp, hcell⟩
      · refine ⟨some (word.toNat : Int) :: above, other, below, rfl, ?_, ?_⟩
        · exact List.forall_mem_cons.mpr ⟨isWord_iff.mpr ⟨word, rfl⟩, habove⟩
        · rw [List.length_cons, ← Nat.add_assoc, Nat.add_right_comm]
          exact hother
    · rintro ⟨above, other, below, hsplit, habove, hother⟩
      cases above with
      | nil =>
        obtain ⟨rfl, rfl⟩ := List.cons.inj hsplit
        exact .inl hother
      | cons first above =>
        obtain ⟨rfl, rfl⟩ := List.cons.inj hsplit
        obtain ⟨hfirst, habove⟩ := List.forall_mem_cons.mp habove
        obtain ⟨word, hword⟩ := isWord_iff.mp hfirst
        refine .inr ⟨word, hword, above, other, below, rfl, habove, ?_⟩
        rw [List.length_cons, ← Nat.add_assoc, Nat.add_right_comm] at hother
        exact hother

theorem Converts.eq {cells other : Array (Option Int)} (h : frame.Converts name cells)
    (h' : frame.Converts name other) : other = cells := by
  obtain ⟨column, hcolumn, hconvert⟩ := h
  obtain ⟨column', hcolumn', hconvert'⟩ := h'
  rw [hcolumn] at hcolumn'
  cases hcolumn'
  rw [hconvert] at hconvert'
  exact (Except.ok.inj hconvert').symm

theorem words_of_converts {cells : Array (Option Int)} (h : frame.Converts name cells) :
    frame.words name =
      (cells.toList.zipIdx.mapM fun (cell, row) => Frame.word name row cell).map List.toArray := by
  obtain ⟨column, hcolumn, hcells⟩ := h
  simp only [words, hcolumn, hcells]
  rw [Array.mapM_eq_mapM_toList, Array.toList_zipIdx]
  rfl

/-- There is no column of the name, or it is not converted, or it is. -/
theorem column_cases (frame : Frame) (name : String) :
    (frame.column? name = none ∧ frame.words name = .error (.missingColumn name)) ∨
      (∃ column reason, frame.column? name = some column ∧
        column.cells.toIntegers = .error reason ∧ frame.words name = .error (.frame reason)) ∨
      ∃ cells, frame.Converts name cells := by
  cases hcolumn : frame.column? name with
  | none =>
    refine .inl ⟨rfl, ?_⟩
    simp only [words, hcolumn]
  | some column =>
    cases hconvert : column.cells.toIntegers with
    | error reason =>
      refine .inr (.inl ⟨column, reason, rfl, hconvert, ?_⟩)
      simp only [words, hcolumn, hconvert]
    | ok cells => exact .inr (.inr ⟨cells, column, hcolumn, hconvert⟩)

/-- **A column is read** exactly if it holds numbers in its rows. -/
theorem words_eq_ok_iff {words : Array UInt16} :
    frame.words name = .ok words ↔ frame.HoldsWords name words := by
  rcases column_cases frame name with ⟨hcolumn, hwords⟩ |
    ⟨column, reason, hcolumn, hconvert, hwords⟩ | ⟨cells, hcells⟩
  · rw [hwords]
    simp [HoldsWords, Converts, hcolumn]
  · rw [hwords]
    simp [HoldsWords, Converts, hcolumn, hconvert]
  · simp only [words_of_converts hcells, map_eq_ok_iff, mapM_word_eq_ok_iff]
    constructor
    · rintro ⟨list, hlist, rfl⟩
      rw [HoldsWords, List.map_toArray, ← hlist]
      exact hcells
    · intro hholds
      have hsame := hcells.eq hholds
      refine ⟨words.toList, ?_, Array.toArray_toList⟩
      rw [← hsame, Array.toList_map]

theorem Converts.words_eq_error_iff {cells : Array (Option Int)} (h : frame.Converts name cells) :
    frame.words name = .error error ↔
      ∃ above cell below, cells.toList = above ++ cell :: below ∧ (∀ cell ∈ above, IsWord cell) ∧
        Frame.word name above.length cell = .error error := by
  rw [words_of_converts h, map_eq_error_iff, mapM_word_eq_error_iff]
  simp only [Nat.zero_add]

/-- **A column is refused** for the reason that there is, and for the first row at fault. -/
theorem words_eq_error_iff : frame.words name = .error error ↔ frame.ColumnFault name error := by
  constructor
  · intro h
    rcases column_cases frame name with ⟨hcolumn, hwords⟩ |
      ⟨column, reason, hcolumn, hconvert, hwords⟩ | ⟨cells, hcells⟩
    · rw [hwords] at h
      cases h
      exact .missing hcolumn
    · rw [hwords] at h
      cases h
      exact .notConverted hcolumn hconvert
    · obtain ⟨above, cell, below, hsplit, habove, hcell⟩ := hcells.words_eq_error_iff.mp h
      rcases word_eq_error_iff.mp hcell with ⟨rfl, rfl⟩ | ⟨value, rfl, hvalue, rfl⟩
      · exact .empty hcells hsplit habove
      · exact .outOfRange hcells hsplit habove hvalue
  · intro hfault
    cases hfault with
    | missing hcolumn => simp only [words, hcolumn]
    | notConverted hcolumn hconvert => simp only [words, hcolumn, hconvert]
    | empty hcells hsplit habove =>
      exact hcells.words_eq_error_iff.mpr ⟨_, none, _, hsplit, habove, rfl⟩
    | outOfRange hcells hsplit habove hvalue =>
      exact hcells.words_eq_error_iff.mpr ⟨_, _, _, hsplit, habove,
        word_eq_error_iff.mpr (.inr ⟨_, rfl, hvalue, rfl⟩)⟩

/-- A column that can be read has numbers to be read. -/
theorem readable_iff : frame.Readable name ↔ ∃ words, frame.HoldsWords name words := by
  constructor
  · rintro ⟨cells, hcells, hwords⟩
    cases hread : frame.words name with
    | ok words => exact ⟨words, words_eq_ok_iff.mp hread⟩
    | error error =>
      -- a cell at fault would be one that holds no number
      obtain ⟨above, cell, below, hsplit, -, hcell⟩ := hcells.words_eq_error_iff.mp hread
      have hmem : cell ∈ cells := by
        rw [← Array.mem_toList_iff, hsplit]
        simp
      obtain ⟨word, hword⟩ := isWord_iff.mp (hwords cell hmem)
      rw [word_eq_ok_iff.mpr hword] at hcell
      cases hcell
  · rintro ⟨words, hwords⟩
    refine ⟨_, hwords, fun cell hcell => ?_⟩
    obtain ⟨word, -, rfl⟩ := Array.mem_map.mp hcell
    exact isWord_iff.mpr ⟨word, rfl⟩

/-! ## Rows -/

theorem size_toIntegers {cells : ColumnCells} {numbers : Array (Option Int)}
    (h : cells.toIntegers = .ok numbers) : numbers.size = cells.size := by
  cases cells with
  | others kind cells =>
    simp only [ColumnCells.toIntegers] at h
    split at h
    · cases h
    · cases h
      exact Array.size_map
  | _ => cases h <;> simp [ColumnCells.size]

/-- A column that holds numbers has one for each row of the frame. -/
theorem HoldsWords.size_eq {words : Array UInt16} (h : frame.HoldsWords name words) :
    words.size = frame.height := by
  obtain ⟨column, hcolumn, hconvert⟩ := h
  have hsize := size_toIntegers hconvert
  have hmem : column ∈ frame.columns.toList := by
    rw [Array.mem_toList_iff]
    exact Array.mem_of_find?_eq_some hcolumn
  rw [Array.size_map, frame.size_eq column hmem] at hsize
  exact hsize

theorem wordAt_eq_ok_iff {words : Array UInt16} {row : Nat} {word : UInt16} :
    wordAt words row = .ok word ↔ words[row]? = some word := by
  unfold wordAt
  split <;> simp [*]

theorem wordAt_of_lt {words : Array UInt16} {row : Nat} (h : row < words.size) :
    wordAt words row = .ok words[row] :=
  wordAt_eq_ok_iff.mpr (Array.getElem?_eq_getElem h)

theorem mapM_eq_ok_iff {ε α β : Type} {f : α → Except ε β} {xs : List α} {ys : List β} :
    xs.mapM f = .ok ys ↔ List.Forall₂ (fun x y => f x = .ok y) xs ys := by
  induction xs generalizing ys with
  | nil => simp [pure, Except.pure, eq_comm]
  | cons x xs ih =>
    simp only [List.mapM_cons, bind_eq_ok_iff, ih, pure, Except.pure, Except.ok.injEq,
      List.forall₂_cons_left_iff]
    constructor
    · rintro ⟨y, hy, rest, hrest, rfl⟩
      exact ⟨y, rest, hy, hrest, rfl⟩
    · rintro ⟨y, rest, hy, hrest, rfl⟩
      exact ⟨y, hy, rest, hrest, rfl⟩

theorem exists_mapM_eq_ok_iff {ε α β : Type} {f : α → Except ε β} {xs : List α} :
    (∃ ys, xs.mapM f = .ok ys) ↔ ∀ x ∈ xs, ∃ y, f x = .ok y := by
  induction xs with
  | nil => simp [pure, Except.pure]
  | cons x xs ih =>
    simp only [List.forall_mem_cons, ← ih, mapM_eq_ok_iff, List.forall₂_cons_left_iff]
    constructor
    · rintro ⟨_, y, ys, hy, hys, -⟩
      exact ⟨⟨y, hy⟩, ys, hys⟩
    · rintro ⟨⟨y, hy⟩, ys, hys⟩
      exact ⟨y :: ys, y, ys, hy, hys, rfl⟩

theorem byRow_eq_ok_iff {α : Type} {count : Nat} {entry : Nat → Except Fault α}
    {entries : Array α} : byRow count entry = .ok entries ↔
      entries.size = count ∧ ∀ row (h : row < entries.size), entry row = .ok entries[row] := by
  simp only [byRow, map_eq_ok_iff, mapM_eq_ok_iff, List.forall₂_iff_get, List.length_range,
    List.get_eq_getElem, List.getElem_range]
  constructor
  · rintro ⟨list, ⟨hsize, hrows⟩, rfl⟩
    exact ⟨hsize.symm, fun row h => hrows row (hsize ▸ h) h⟩
  · rintro ⟨hsize, hrows⟩
    exact ⟨entries.toList, ⟨hsize.symm, fun row _ h => hrows row h⟩, Array.toArray_toList⟩

theorem exists_byRow {α : Type} {count : Nat} {entry : Nat → Except Fault α}
    (h : ∀ row < count, ∃ value, entry row = .ok value) :
    ∃ entries, byRow count entry = .ok entries := by
  choose value hvalue using h
  refine ⟨Array.ofFn fun row : Fin count => value row row.isLt, byRow_eq_ok_iff.mpr ⟨?_, ?_⟩⟩
  · exact Array.size_ofFn
  · intro row hrow
    rw [Array.getElem_ofFn]
    exact hvalue row _

/-- Entries take a field from a column exactly if the column lists that field of theirs. -/
theorem eq_map_iff_wordAt {α : Type} {entries : Array α} {field : α → UInt16}
    {words : Array UInt16} (hsize : words.size = entries.size) :
    words = entries.map field ↔
      ∀ row (h : row < entries.size), wordAt words row = .ok (field entries[row]) := by
  simp only [wordAt_eq_ok_iff]
  constructor
  · rintro rfl row h
    simp [h]
  · intro h
    refine Array.ext (by simpa using hsize) fun row hrow _ => ?_
    have hat := h row (hsize ▸ hrow)
    rw [Array.getElem?_eq_getElem hrow] at hat
    simpa using hat

/-- **Entries that take each field from a column of its own**, all of one length, are those
whose fields the columns list. -/
theorem byRow_eq_ok_iff_columns {α : Type} {count : Nat} {entry : Nat → Except Fault α}
    {columns : List (Array UInt16 × (α → UInt16))} {entries : Array α}
    (hentry : ∀ row value, entry row = .ok value ↔
      ∀ column ∈ columns, wordAt column.1 row = .ok (column.2 value))
    (hsize : ∀ column ∈ columns, column.1.size = count) :
    byRow count entry = .ok entries ↔
      entries.size = count ∧ ∀ column ∈ columns, column.1 = entries.map column.2 := by
  rw [byRow_eq_ok_iff]
  refine and_congr_right fun hcount => ?_
  simp only [hentry]
  constructor
  · intro h column hcolumn
    exact (eq_map_iff_wordAt ((hsize column hcolumn).trans hcount.symm)).mpr
      fun row hrow => h row hrow column hcolumn
  · intro h row hrow column hcolumn
    exact (eq_map_iff_wordAt ((hsize column hcolumn).trans hcount.symm)).mp
      (h column hcolumn) row hrow

/-! ## Entries -/

/-- The frame holds what the attribute lists, field by field. -/
def Holds (frame : Frame) (decoded : Attribute) : Prop :=
  ∀ field ∈ decoded.fields, frame.HoldsWords field.1 field.2

theorem handlerAt_eq_ok_iff {startPcs endPcs handlerPcs catchTypes : Array UInt16} (row : Nat)
    (handler : ExceptionHandler) :
    handlerAt startPcs endPcs handlerPcs catchTypes row = .ok handler ↔
      ∀ column ∈ [(startPcs, ExceptionHandler.startPc), (endPcs, ExceptionHandler.endPc),
        (handlerPcs, ExceptionHandler.handlerPc), (catchTypes, ExceptionHandler.catchType)],
        wordAt column.1 row = .ok (column.2 handler) := by
  simp only [handlerAt, bind_eq_ok_iff, List.forall_mem_cons, List.not_mem_nil, false_imp_iff,
    implies_true, and_true]
  constructor
  · rintro ⟨startPc, hstart, endPc, hend, handlerPc, hhandler, catchType, hcatch, h⟩
    cases h
    exact ⟨hstart, hend, hhandler, hcatch⟩
  · rintro ⟨hstart, hend, hhandler, hcatch⟩
    exact ⟨_, hstart, _, hend, _, hhandler, _, hcatch, rfl⟩

/-- **The handlers of a frame** are answered exactly if it holds them. -/
theorem exceptionHandlers_eq_ok_iff {answer : Except Fault (Array ExceptionHandler)} :
    frame.exceptionHandlers = .ok answer ↔
      ∃ handlers, answer = .ok handlers ∧ frame.Holds (.exceptionTable handlers) := by
  simp only [exceptionHandlers, bind_eq_ok_iff, words_eq_ok_iff, Holds, Attribute.fields,
    List.forall_mem_cons, List.not_mem_nil, false_imp_iff, implies_true, and_true]
  constructor
  · rintro ⟨startPcs, hstart, endPcs, hend, handlerPcs, hhandler, catchTypes, hcatch, h⟩
    cases h
    have he : endPcs.size = startPcs.size := hend.size_eq.trans hstart.size_eq.symm
    have hh : handlerPcs.size = startPcs.size := hhandler.size_eq.trans hstart.size_eq.symm
    have hc : catchTypes.size = startPcs.size := hcatch.size_eq.trans hstart.size_eq.symm
    obtain ⟨handlers, hrows⟩ : ∃ handlers,
        byRow startPcs.size (handlerAt startPcs endPcs handlerPcs catchTypes) = .ok handlers := by
      refine exists_byRow fun row hrow => ⟨⟨startPcs[row], endPcs[row], handlerPcs[row],
        catchTypes[row]⟩, ?_⟩
      simp [handlerAt_eq_ok_iff, wordAt_of_lt, he, hh, hc, hrow]
    have hfields := (byRow_eq_ok_iff_columns handlerAt_eq_ok_iff (by simp [he, hh, hc])).mp hrows
    simp only [List.forall_mem_cons] at hfields
    obtain ⟨-, rfl, rfl, rfl, rfl, -⟩ := hfields
    exact ⟨handlers, hrows, hstart, hend, hhandler, hcatch⟩
  · rintro ⟨handlers, rfl, hstart, hend, hhandler, hcatch⟩
    refine ⟨_, hstart, _, hend, _, hhandler, _, hcatch, congrArg Except.ok ?_⟩
    exact (byRow_eq_ok_iff_columns handlerAt_eq_ok_iff (by simp)).mpr (by simp)

theorem variableAt_eq_ok_iff {startPcs lengths names descriptors indices : Array UInt16}
    (row : Nat) (entry : LocalVariable) :
    variableAt startPcs lengths names descriptors indices row = .ok entry ↔
      ∀ column ∈ [(startPcs, LocalVariable.startPc), (lengths, LocalVariable.length),
        (names, LocalVariable.nameIndex), (descriptors, LocalVariable.descriptorIndex),
        (indices, LocalVariable.index)], wordAt column.1 row = .ok (column.2 entry) := by
  simp only [variableAt, bind_eq_ok_iff, List.forall_mem_cons, List.not_mem_nil, false_imp_iff,
    implies_true, and_true]
  constructor
  · rintro ⟨startPc, hstart, length, hlength, nameIndex, hname, descriptorIndex, hdescriptor,
      index, hindex, h⟩
    cases h
    exact ⟨hstart, hlength, hname, hdescriptor, hindex⟩
  · rintro ⟨hstart, hlength, hname, hdescriptor, hindex⟩
    exact ⟨_, hstart, _, hlength, _, hname, _, hdescriptor, _, hindex, rfl⟩

/-- **The variables of a frame** are answered exactly if it holds them. -/
theorem localVariables_eq_ok_iff {answer : Except Fault (Array LocalVariable)} :
    frame.localVariables = .ok answer ↔
      ∃ entries, answer = .ok entries ∧ frame.Holds (.localVariableTable entries) := by
  simp only [localVariables, bind_eq_ok_iff, words_eq_ok_iff, Holds, Attribute.fields,
    List.forall_mem_cons, List.not_mem_nil, false_imp_iff, implies_true, and_true]
  constructor
  · rintro ⟨startPcs, hstart, lengths, hlength, names, hname, descriptors, hdescriptor, indices,
      hindex, h⟩
    cases h
    have hl : lengths.size = startPcs.size := hlength.size_eq.trans hstart.size_eq.symm
    have hn : names.size = startPcs.size := hname.size_eq.trans hstart.size_eq.symm
    have hd : descriptors.size = startPcs.size := hdescriptor.size_eq.trans hstart.size_eq.symm
    have hi : indices.size = startPcs.size := hindex.size_eq.trans hstart.size_eq.symm
    obtain ⟨entries, hrows⟩ : ∃ entries,
        byRow startPcs.size (variableAt startPcs lengths names descriptors indices) =
          .ok entries := by
      refine exists_byRow fun row hrow => ⟨⟨startPcs[row], lengths[row], names[row],
        descriptors[row], indices[row]⟩, ?_⟩
      simp [variableAt_eq_ok_iff, wordAt_of_lt, hl, hn, hd, hi, hrow]
    have hfields := (byRow_eq_ok_iff_columns variableAt_eq_ok_iff
      (by simp [hl, hn, hd, hi])).mp hrows
    simp only [List.forall_mem_cons] at hfields
    obtain ⟨-, rfl, rfl, rfl, rfl, rfl, -⟩ := hfields
    exact ⟨entries, hrows, hstart, hlength, hname, hdescriptor, hindex⟩
  · rintro ⟨entries, rfl, hstart, hlength, hname, hdescriptor, hindex⟩
    refine ⟨_, hstart, _, hlength, _, hname, _, hdescriptor, _, hindex, congrArg Except.ok ?_⟩
    exact (byRow_eq_ok_iff_columns variableAt_eq_ok_iff (by simp)).mpr (by simp)

/-- **The lines of a frame** are answered exactly if it holds them. -/
theorem lineNumbers_eq_ok_iff {answer : Except Fault (Array LineNumber)} :
    frame.lineNumbers = .ok answer ↔
      ∃ lines, answer = .ok lines ∧ frame.Holds (.lineNumberTable lines) := by
  simp only [lineNumbers, bind_eq_ok_iff, words_eq_ok_iff, Holds, Attribute.fields,
    List.forall_mem_cons, List.not_mem_nil, false_imp_iff, implies_true, and_true]
  constructor
  · rintro ⟨startPcs, hstart, numbers, hnumber, h⟩
    cases h
    have hsize : startPcs.size = numbers.size := hstart.size_eq.trans hnumber.size_eq.symm
    refine ⟨_, rfl, ?_⟩
    simp only [Array.map_map, Function.comp_def]
    rw [Array.map_fst_zip (Nat.le_of_eq hsize), Array.map_snd_zip (Nat.le_of_eq hsize.symm)]
    exact ⟨hstart, hnumber⟩
  · rintro ⟨lines, rfl, hstart, hnumber⟩
    refine ⟨_, hstart, _, hnumber, congrArg (Except.ok ∘ Except.ok) ?_⟩
    rw [Array.zip_map', Array.map_map]
    exact Array.map_id lines

/-- **The declared exceptions of a frame** are answered exactly if it holds them. -/
theorem declaredExceptions_eq_ok_iff {answer : Except Fault (Array UInt16)} :
    frame.declaredExceptions = .ok answer ↔
      ∃ classes, answer = .ok classes ∧ frame.Holds (.exceptions classes) := by
  simp only [declaredExceptions, bind_eq_ok_iff, words_eq_ok_iff, Holds, Attribute.fields,
    List.forall_mem_cons, List.not_mem_nil, false_imp_iff, implies_true, and_true]
  constructor
  · rintro ⟨classes, hclasses, h⟩
    cases h
    exact ⟨classes, rfl, hclasses⟩
  · rintro ⟨classes, rfl, hclasses⟩
    exact ⟨classes, hclasses, rfl⟩

/-! ## The first fault -/

/-- The first of these fields whose column cannot be read is reported. -/
def FirstFault (frame : Frame) (names : List String) (error : Error) : Prop :=
  ∃ before name after, names = before ++ name :: after ∧
    (∀ earlier ∈ before, frame.Readable earlier) ∧ frame.ColumnFault name error

theorem not_firstFault_nil : ¬frame.FirstFault [] error := by
  rintro ⟨before, name, after, hnames, -⟩
  cases before <;> cases hnames

theorem firstFault_cons_iff {names : List String} : frame.FirstFault (name :: names) error ↔
    frame.ColumnFault name error ∨ frame.Readable name ∧ frame.FirstFault names error := by
  constructor
  · rintro ⟨before, fault, after, hnames, hbefore, hfault⟩
    cases before with
    | nil =>
      obtain ⟨rfl, rfl⟩ := List.cons.inj hnames
      exact .inl hfault
    | cons first before =>
      obtain ⟨rfl, rfl⟩ := List.cons.inj hnames
      obtain ⟨hfirst, hbefore⟩ := List.forall_mem_cons.mp hbefore
      exact .inr ⟨hfirst, before, fault, after, rfl, hbefore, hfault⟩
  · rintro (hfault | ⟨hfirst, before, fault, after, rfl, hbefore, hfault⟩)
    · exact ⟨[], name, names, rfl, by simp, hfault⟩
    · exact ⟨name :: before, fault, after, rfl, List.forall_mem_cons.mpr ⟨hfirst, hbefore⟩, hfault⟩

/-- Reading a column, and then what depends on it, fails with the first fault of both. -/
theorem words_bind_eq_error_iff {α : Type} {names : List String}
    {next : Array UInt16 → Except Error α}
    (h : ∀ words, next words = .error error ↔ frame.FirstFault names error) :
    (frame.words name >>= next) = .error error ↔ frame.FirstFault (name :: names) error := by
  simp only [bind_eq_error_iff, words_eq_error_iff, words_eq_ok_iff, firstFault_cons_iff,
    readable_iff, h, exists_and_right]

/-! ## Decoding -/

theorem not_error_of_answer {α : Type} {answer : α} :
    (return answer : Except Error α) = .error error ↔ frame.FirstFault [] error :=
  iff_of_false (fun h => by cases h) not_firstFault_nil

/-- **A frame is refused** for the first column at fault of those that its kind needs. -/
theorem decode_eq_error_iff {kind : AttributeKind} :
    frame.decode kind = .error error ↔ frame.FirstFault kind.fields error := by
  cases kind with
  | raw => exact not_error_of_answer
  | exceptionTable =>
    rw [decode, map_eq_error_iff]
    exact words_bind_eq_error_iff fun _ => words_bind_eq_error_iff fun _ =>
      words_bind_eq_error_iff fun _ => words_bind_eq_error_iff fun _ => not_error_of_answer
  | lineNumberTable =>
    rw [decode, map_eq_error_iff]
    exact words_bind_eq_error_iff fun _ => words_bind_eq_error_iff fun _ => not_error_of_answer
  | localVariableTable =>
    rw [decode, map_eq_error_iff]
    exact words_bind_eq_error_iff fun _ => words_bind_eq_error_iff fun _ =>
      words_bind_eq_error_iff fun _ => words_bind_eq_error_iff fun _ =>
        words_bind_eq_error_iff fun _ => not_error_of_answer
  | exceptions =>
    rw [decode, map_eq_error_iff]
    exact words_bind_eq_error_iff fun _ => not_error_of_answer

/-- A reader that answers with the entries that the frame holds decodes the kind of attribute
that is made of them. -/
theorem map_eq_ok_iff_holds {α : Type} {kind : AttributeKind} {make : α → Attribute}
    {entries : Except Error (Except Fault α)} {answer : Except Fault (Option Attribute)}
    (hentries : ∀ {answer}, entries = .ok answer ↔
      ∃ values, answer = .ok values ∧ frame.Holds (make values))
    (hmake : ∀ decoded : Attribute, decoded.kind = kind ↔ ∃ values, decoded = make values) :
    entries.map (·.map (some ∘ make)) = .ok answer ↔
      ∃ decoded, answer = .ok (some decoded) ∧ decoded.kind = kind ∧ frame.Holds decoded := by
  simp only [map_eq_ok_iff, hentries, hmake]
  constructor
  · rintro ⟨_, ⟨values, rfl, hholds⟩, rfl⟩
    exact ⟨make values, rfl, ⟨values, rfl⟩, hholds⟩
  · rintro ⟨_, rfl, ⟨values, rfl⟩, hholds⟩
    exact ⟨_, ⟨values, rfl, hholds⟩, rfl⟩

/-- **A frame is decoded** as the attribute of the kind that it holds. -/
theorem decode_eq_ok_iff {kind : AttributeKind} (hkind : kind ≠ .raw)
    {answer : Except Fault (Option Attribute)} :
    frame.decode kind = .ok answer ↔
      ∃ decoded, answer = .ok (some decoded) ∧ decoded.kind = kind ∧ frame.Holds decoded := by
  cases kind with
  | raw => exact absurd rfl hkind
  | exceptionTable =>
    refine map_eq_ok_iff_holds exceptionHandlers_eq_ok_iff fun decoded => ?_
    cases decoded <;> simp [Attribute.kind]
  | lineNumberTable =>
    refine map_eq_ok_iff_holds lineNumbers_eq_ok_iff fun decoded => ?_
    cases decoded <;> simp [Attribute.kind]
  | localVariableTable =>
    refine map_eq_ok_iff_holds localVariables_eq_ok_iff fun decoded => ?_
    cases decoded <;> simp [Attribute.kind]
  | exceptions =>
    refine map_eq_ok_iff_holds declaredExceptions_eq_ok_iff fun decoded => ?_
    cases decoded <;> simp [Attribute.kind]

/-- Decoding ends with an attribute or with an error, and never with a fault. -/
theorem decode_cases (frame : Frame) {kind : AttributeKind} (hkind : kind ≠ .raw) :
    (∃ decoded, frame.decode kind = .ok (.ok (some decoded))) ∨
      ∃ error, frame.decode kind = .error error := by
  cases hdecode : frame.decode kind with
  | error error => exact .inr ⟨error, rfl⟩
  | ok answer =>
    obtain ⟨decoded, rfl, -, -⟩ := (decode_eq_ok_iff hkind).mp hdecode
    exact .inl ⟨decoded, rfl⟩

theorem Holds.readable {decoded : Attribute} (h : frame.Holds decoded) :
    ∀ name ∈ decoded.kind.fields, frame.Readable name := by
  rw [← decoded.fields_names]
  intro name hname
  obtain ⟨⟨_, words⟩, hfield, rfl⟩ := List.mem_map.mp hname
  exact readable_iff.mpr ⟨words, h _ hfield⟩

theorem Holds.size_eq {decoded : Attribute} (h : frame.Holds decoded) :
    decoded.size = frame.height := by
  obtain ⟨field, hfield⟩ := decoded.exists_mem_fields
  rw [← decoded.size_fields field hfield]
  exact (h field hfield).size_eq

theorem FirstFault.exists_not_readable {names : List String} (h : frame.FirstFault names error) :
    ∃ name ∈ names, ¬frame.Readable name := by
  obtain ⟨before, name, after, rfl, -, hfault⟩ := h
  refine ⟨name, by simp, fun hreadable => ?_⟩
  obtain ⟨words, hwords⟩ := readable_iff.mp hreadable
  have hread := words_eq_ok_iff.mpr hwords
  rw [words_eq_error_iff.mpr hfault] at hread
  cases hread

/-- **Decoding accepts what the fields of a kind can be read from, and nothing else.** A frame
is decoded exactly if each field of the kind has a column with a 16-bit number in every
row; the attribute is the one whose entries list, field by field, what the columns hold,
with an entry for each row. Any other frame is refused for the first field of the kind
whose column cannot be read. Decoding never faults. -/
theorem decodes_what_fields_hold (frame : Frame) {kind : AttributeKind} (hkind : kind ≠ .raw) :
    ((∃ decoded, frame.decode kind = .ok (.ok (some decoded))) ↔
      ∀ name ∈ kind.fields, frame.Readable name) ∧
    (∀ decoded, frame.decode kind = .ok (.ok (some decoded)) ↔
      decoded.kind = kind ∧ ∀ field ∈ decoded.fields, frame.HoldsWords field.1 field.2) ∧
    (∀ decoded, frame.decode kind = .ok (.ok (some decoded)) → decoded.size = frame.height) ∧
    (∀ error, frame.decode kind = .error error ↔ ∃ before name after,
      kind.fields = before ++ name :: after ∧ (∀ earlier ∈ before, frame.Readable earlier) ∧
        frame.ColumnFault name error) ∧
    ((∃ decoded, frame.decode kind = .ok (.ok (some decoded))) ∨
      ∃ error, frame.decode kind = .error error) := by
  have hdecoded : ∀ decoded, frame.decode kind = .ok (.ok (some decoded)) ↔
      decoded.kind = kind ∧ frame.Holds decoded := by
    intro decoded
    rw [decode_eq_ok_iff hkind]
    constructor
    · rintro ⟨_, hsame, h⟩
      cases hsame
      exact h
    · intro h
      exact ⟨decoded, rfl, h⟩
  refine ⟨⟨?_, fun hreadable => ?_⟩, hdecoded, fun decoded h => ((hdecoded decoded).mp h).2.size_eq,
    fun error => decode_eq_error_iff, frame.decode_cases hkind⟩
  · rintro ⟨decoded, h⟩
    obtain ⟨rfl, hholds⟩ := (hdecoded decoded).mp h
    exact hholds.readable
  · refine (frame.decode_cases hkind).resolve_right ?_
    rintro ⟨error, h⟩
    obtain ⟨name, hname, hnot⟩ := (decode_eq_error_iff.mp h).exists_not_readable
    exact hnot (hreadable name hname)

/-- Two lines: the second one has a number that is too large. -/
def twoLines : Frame where
  columns := #[⟨"line_number", .integers .int64 #[some 7, some 70000]⟩,
    ⟨"start_pc", .booleans #[some false, some true]⟩]
  height := 2
  size_eq := by decide
  nodup := by decide

/-- The column that is read second is refused, although it stands first. -/
theorem decodes_what_fields_hold_two_lines :
    AttributeKind.lineNumberTable ≠ .raw ∧
      twoLines.decode .lineNumberTable =
        .error (.invalidValue (.outOfRange "line_number" 1 70000)) := by
  have hkind : AttributeKind.lineNumberTable ≠ .raw := by decide
  obtain ⟨-, -, -, herror, -⟩ := decodes_what_fields_hold twoLines hkind
  refine ⟨hkind, (herror _).mpr ⟨["start_pc"], "line_number", [], rfl, ?_, ?_⟩⟩
  · intro name hname
    obtain rfl := List.mem_singleton.mp hname
    have hcells : twoLines.Converts "start_pc"
        (#[some false, some true].map (·.map Conversion.boolInteger)) := ⟨_, rfl, rfl⟩
    exact ⟨_, hcells, by simp [IsWord, Conversion.boolInteger]⟩
  · have hcells : twoLines.Converts "line_number"
        (#[some 7, some 70000].map (·.bind Conversion.inRange)) := ⟨_, rfl, rfl⟩
    have hsplit : (#[some 7, some 70000].map (·.bind Conversion.inRange)).toList =
        [some 7] ++ some 70000 :: [] := Array.toList_map
    refine .outOfRange hcells hsplit (fun cell hcell => ?_) ?_
    · exact ⟨7, List.mem_singleton.mp hcell, by decide, by decide⟩
    · rintro ⟨value, hvalue, -, hle⟩
      cases hvalue
      exact absurd hle (by decide)

end Frame

end AttributeBrowser
