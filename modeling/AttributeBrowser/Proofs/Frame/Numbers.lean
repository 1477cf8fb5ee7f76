import AttributeBrowser.Proofs.Frame.Decoding
import AttributeBrowser.Proofs.Number.FloatValue

/-!
# The numbers that cells store

A cell of a column of whole numbers, of floating point numbers or of texts stores a number,
or none (`Stores`). Decoding reads the whole part of it, if that is a 16-bit number, and
refuses the column if there is a cell without one. So a number is read as it is stored
exactly if it is whole: a floating point number between -1 and 65536 is read without its
fraction, where the same number in a text is refused.
-/

namespace AttributeBrowser

/-! ## Numbers in texts -/

/-- Decimal digits, at least one. -/
structure IsNumeral (digits : List Char) : Prop where
  ne_nil : digits ≠ []
  isDigit : ∀ c ∈ digits, c.isDigit = true

/-- The text writes a whole number: decimal digits, with a sign in front if wanted. -/
inductive Writes : List Char → ℤ → Prop
  | unsigned {digits : List Char} (h : IsNumeral digits) :
      Writes digits (Nat.ofDigitChars 10 digits 0)
  | plus {digits : List Char} (h : IsNumeral digits) :
      Writes ('+' :: digits) (Nat.ofDigitChars 10 digits 0)
  | minus {digits : List Char} (h : IsNumeral digits) :
      Writes ('-' :: digits) (-(Nat.ofDigitChars 10 digits 0 : ℕ))

theorem isNumeral_repr (n : ℕ) : IsNumeral n.repr.toList where
  ne_nil := by
    rw [Nat.toList_repr]
    exact Nat.toDigits_ne_nil
  isDigit := by
    intro c hc
    rw [Nat.toList_repr] at hc
    exact Nat.isDigit_of_mem_toDigits (by decide) (by decide) hc

theorem writes_repr (n : ℕ) : Writes n.repr.toList n := by
  have h := Writes.unsigned (isNumeral_repr n)
  rwa [Nat.toList_repr, Nat.ofDigitChars_ten_toDigits, ← Nat.toList_repr] at h

namespace Conversion

theorem digits?_eq_some_iff {digits : List Char} {n : ℕ} :
    digits? digits = some n ↔ IsNumeral digits ∧ Nat.ofDigitChars 10 digits 0 = n := by
  cases digits with
  | nil =>
    refine iff_of_false (by simp [digits?]) ?_
    rintro ⟨h, -⟩
    exact h.ne_nil rfl
  | cons c rest =>
    rw [Nat.ofDigitChars_eq_foldl]
    by_cases h : (c :: rest).all Char.isDigit = true
    · have hnumeral : IsNumeral (c :: rest) := ⟨by simp, List.all_eq_true.mp h⟩
      simp only [digits?, h, if_true, Option.some.injEq, hnumeral, true_and]
    · have hnot : ¬IsNumeral (c :: rest) := fun hnumeral => h (List.all_eq_true.mpr hnumeral.isDigit)
      simp [digits?, h, hnot]

/-- **A text is converted** to the whole number that it writes, and to none if it writes none. -/
theorem textInteger_eq_some_iff {text : String} {n : ℤ} :
    textInteger text = some n ↔ Writes text.toList n := by
  unfold textInteger
  constructor
  · intro h
    split at h
    all_goals
      simp only [Option.map_eq_some_iff, Option.bind_eq_bind, Option.bind_eq_some_iff,
        Option.pure_def, Option.some.injEq, digits?_eq_some_iff] at h
      obtain ⟨_, ⟨_, ⟨hnumeral, rfl⟩, rfl⟩, rfl⟩ := h
    · rename_i hsplit
      rw [hsplit]
      exact .minus hnumeral
    · rename_i hsplit
      rw [hsplit]
      exact .plus hnumeral
    · exact .unsigned hnumeral
  · intro h
    generalize text.toList = chars at h
    cases h with
    | minus hnumeral => simp [digits?_eq_some_iff.mpr ⟨hnumeral, rfl⟩]
    | plus hnumeral => simp [digits?_eq_some_iff.mpr ⟨hnumeral, rfl⟩]
    | unsigned hnumeral =>
      -- a digit is no sign
      split
      · exact absurd (hnumeral.isDigit '-' (by simp)) (by decide)
      · exact absurd (hnumeral.isDigit '+' (by simp)) (by decide)
      · simp [digits?_eq_some_iff.mpr ⟨hnumeral, rfl⟩]

theorem inRange_eq_some_iff {value n : ℤ} :
    inRange value = some n ↔ value = n ∧ CellText.fitsNumber n = true := by
  unfold inRange
  split
  · rename_i h
    simp only [Option.some.injEq, iff_self_and]
    rintro rfl
    exact h
  · rename_i h
    simp only [reduceCtorEq, false_iff, not_and]
    rintro rfl
    exact h

end Conversion

/-! ## Numbers in cells -/

namespace ColumnCells

/-- The cell of a row stores a number. -/
def Stores (cells : ColumnCells) (row : ℕ) (number : ℚ) : Prop :=
  match cells with
  | .integers _ cells => ∃ n : ℤ, cells[row]? = some (some n) ∧ number = n
  | .floats _ cells => ∃ x, cells[row]? = some (some x) ∧ x.value? = some number
  | .texts cells =>
    ∃ text, cells[row]? = some (some text) ∧ ∃ n : ℤ, Writes text.toList n ∧ number = n
  | _ => False

/-- The column is of whole numbers, of floating point numbers or of texts. -/
inductive IsNumeric : ColumnCells → Prop
  | integers (kind : IntegerKind) (cells : Array (Option ℤ)) : IsNumeric (.integers kind cells)
  | floats (format : FloatFormat) (cells : Array (Option FloatValue)) :
      IsNumeric (.floats format cells)
  | texts (cells : Array (Option String)) : IsNumeric (.texts cells)

variable {cells : ColumnCells} {row : ℕ}

/-- A cell stores one number at most. -/
theorem Stores.eq {number other : ℚ} (h : cells.Stores row number) (h' : cells.Stores row other) :
    other = number := by
  cases cells with
  | integers kind cells =>
    obtain ⟨n, hn, rfl⟩ := h
    obtain ⟨m, hm, rfl⟩ := h'
    cases hn.symm.trans hm
    rfl
  | floats format cells =>
    obtain ⟨x, hx, hnumber⟩ := h
    obtain ⟨y, hy, hother⟩ := h'
    cases hx.symm.trans hy
    exact Option.some.inj (hother.symm.trans hnumber)
  | texts cells =>
    obtain ⟨text, htext, n, hn, rfl⟩ := h
    obtain ⟨text', htext', m, hm, rfl⟩ := h'
    cases htext.symm.trans htext'
    rw [← Conversion.textInteger_eq_some_iff] at hn hm
    cases hn.symm.trans hm
    rfl
  | _ => exact h.elim

theorem Stores.lt {number : ℚ} (h : cells.Stores row number) : row < cells.size := by
  cases cells with
  | integers kind cells =>
    obtain ⟨n, hn, -⟩ := h
    exact (Array.getElem?_eq_some_iff.mp hn).1
  | floats format cells =>
    obtain ⟨x, hx, -⟩ := h
    exact (Array.getElem?_eq_some_iff.mp hx).1
  | texts cells =>
    obtain ⟨text, htext, -⟩ := h
    exact (Array.getElem?_eq_some_iff.mp htext).1
  | _ => exact h.elim

theorem IsNumeric.exists_toIntegers (h : cells.IsNumeric) :
    ∃ numbers, cells.toIntegers = .ok numbers := by
  cases h <;> exact ⟨_, rfl⟩

theorem getElem?_map_bind {α : Type} {cells : Array (Option α)} {convert : α → Option ℤ}
    {value : ℤ} : (cells.map (·.bind convert))[row]? = some (some value) ↔
      ∃ a, cells[row]? = some (some a) ∧ convert a = some value := by
  simp [Option.bind_eq_some_iff]

/-- **A cell is converted** to the whole part of the number that it stores, if that is a whole
number of 64 bits, and to none if it stores none. -/
theorem getElem?_toIntegers_iff (hnumeric : cells.IsNumeric) {numbers : Array (Option ℤ)}
    (hconvert : cells.toIntegers = .ok numbers) {value : ℤ} :
    numbers[row]? = some (some value) ↔ ∃ number, cells.Stores row number ∧
      wholePart number = value ∧ CellText.fitsNumber value = true := by
  cases hnumeric with
  | integers kind cells =>
    cases hconvert
    simp only [getElem?_map_bind, Conversion.inRange_eq_some_iff]
    constructor
    · rintro ⟨n, hn, rfl, hfits⟩
      exact ⟨n, ⟨n, hn, rfl⟩, wholePart_intCast n, hfits⟩
    · rintro ⟨_, ⟨n, hn, rfl⟩, rfl, hfits⟩
      rw [wholePart_intCast] at hfits ⊢
      exact ⟨n, hn, rfl, hfits⟩
  | floats format cells =>
    cases hconvert
    simp only [getElem?_map_bind, FloatValue.truncate?_eq, Option.bind_eq_some_iff,
      Option.map_eq_some_iff, Conversion.inRange_eq_some_iff]
    constructor
    · rintro ⟨x, hx, _, ⟨number, hnumber, rfl⟩, rfl, hfits⟩
      exact ⟨number, ⟨x, hx, hnumber⟩, rfl, hfits⟩
    · rintro ⟨number, ⟨x, hx, hnumber⟩, rfl, hfits⟩
      exact ⟨x, hx, _, ⟨number, hnumber, rfl⟩, rfl, hfits⟩
  | texts cells =>
    cases hconvert
    simp only [getElem?_map_bind, Option.bind_eq_some_iff, Conversion.textInteger_eq_some_iff,
      Conversion.inRange_eq_some_iff]
    constructor
    · rintro ⟨text, htext, n, hn, rfl, hfits⟩
      exact ⟨n, ⟨text, htext, n, hn, rfl⟩, wholePart_intCast n, hfits⟩
    · rintro ⟨_, ⟨text, htext, n, hn, rfl⟩, rfl, hfits⟩
      rw [wholePart_intCast] at hfits ⊢
      exact ⟨text, htext, n, hn, rfl, hfits⟩

end ColumnCells

/-! ## Numbers in columns -/

namespace Frame

variable {frame : Frame} {name : String} {row : ℕ}

/-- The column of the name is of whole numbers, of floating point numbers or of texts. -/
def IsNumeric (frame : Frame) (name : String) : Prop :=
  ∃ column, frame.column? name = some column ∧ column.cells.IsNumeric

/-- A row of the column of the name stores a number. -/
def StoresAt (frame : Frame) (name : String) (row : ℕ) (number : ℚ) : Prop :=
  ∃ column, frame.column? name = some column ∧ column.cells.Stores row number

/-- A row of the column of the name stores a number whose whole part is a 16-bit number. -/
def StoresWordAt (frame : Frame) (name : String) (row : ℕ) : Prop :=
  ∃ number, frame.StoresAt name row number ∧ -1 < number ∧ number < 65536

theorem StoresAt.eq {number other : ℚ} (h : frame.StoresAt name row number)
    (h' : frame.StoresAt name row other) : other = number := by
  obtain ⟨column, hcolumn, hnumber⟩ := h
  obtain ⟨column', hcolumn', hother⟩ := h'
  cases hcolumn.symm.trans hcolumn'
  exact hnumber.eq hother

theorem height_eq_of_column? {column : Column} (h : frame.column? name = some column) :
    column.cells.size = frame.height :=
  frame.size_eq column (Array.mem_toList_iff.mpr (Array.mem_of_find?_eq_some h))

theorem StoresAt.lt {number : ℚ} (h : frame.StoresAt name row number) : row < frame.height := by
  obtain ⟨column, hcolumn, hnumber⟩ := h
  exact height_eq_of_column? hcolumn ▸ hnumber.lt

/-- What a column is converted to, row by row. -/
theorem IsNumeric.exists_converts (h : frame.IsNumeric name) :
    ∃ numbers, frame.Converts name numbers ∧ numbers.size = frame.height ∧
      ∀ row value, numbers[row]? = some (some value) ↔ ∃ number, frame.StoresAt name row number ∧
        wholePart number = value ∧ CellText.fitsNumber value = true := by
  obtain ⟨column, hcolumn, hnumeric⟩ := h
  obtain ⟨numbers, hconvert⟩ := hnumeric.exists_toIntegers
  refine ⟨numbers, ⟨column, hcolumn, hconvert⟩, ?_, fun row value => ?_⟩
  · rw [size_toIntegers hconvert, height_eq_of_column? hcolumn]
  · rw [ColumnCells.getElem?_toIntegers_iff hnumeric hconvert]
    simp [StoresAt, hcolumn]

theorem wholePart_isWord_iff {number : ℚ} :
    0 ≤ wholePart number ∧ wholePart number ≤ 65535 ↔ -1 < number ∧ number < 65536 := by
  have hle := wholePart_le_iff number 65535
  norm_num at hle
  rw [wholePart_nonneg_iff, hle]

theorem fitsNumber_of_isWord {value : ℤ} (h : 0 ≤ value ∧ value ≤ 65535) :
    CellText.fitsNumber value = true := by
  simp only [CellText.fitsNumber, Bool.and_eq_true, decide_eq_true_eq]
  omega

/-- **A numeric column can be read** exactly if each row stores a number whose whole part is a
16-bit number. -/
theorem IsNumeric.readable_iff_stores (h : frame.IsNumeric name) :
    frame.Readable name ↔ ∀ row < frame.height, frame.StoresWordAt name row := by
  obtain ⟨numbers, hconverts, hsize, hrows⟩ := h.exists_converts
  constructor
  · rintro ⟨cells, hcells, hwords⟩ row hrow
    cases hconverts.eq hcells
    have hrow' : row < numbers.size := hsize ▸ hrow
    obtain ⟨value, hvalue, hbounds⟩ := hwords numbers[row] (Array.getElem_mem hrow')
    have hat : numbers[row]? = some (some value) := by rw [Array.getElem?_eq_getElem hrow', hvalue]
    obtain ⟨number, hnumber, rfl, -⟩ := (hrows row value).mp hat
    exact ⟨number, hnumber, wholePart_isWord_iff.mp hbounds⟩
  · intro hstores
    refine ⟨numbers, hconverts, fun cell hcell => ?_⟩
    obtain ⟨row, hrow, rfl⟩ := Array.mem_iff_getElem.mp hcell
    obtain ⟨number, hnumber, hbounds⟩ := hstores row (hsize ▸ hrow)
    have hword := wholePart_isWord_iff.mpr hbounds
    have hat := (hrows row _).mpr ⟨number, hnumber, rfl, fitsNumber_of_isWord hword⟩
    rw [Array.getElem?_eq_getElem hrow] at hat
    exact ⟨wholePart number, Option.some.inj hat, hword⟩

/-- **What is read** of a numeric column is the whole part of what each row stores. -/
theorem IsNumeric.holdsWords_iff (h : frame.IsNumeric name) {words : Array UInt16} :
    frame.HoldsWords name words ↔ words.size = frame.height ∧ ∀ row (h : row < words.size),
      ∃ number, frame.StoresAt name row number ∧ wholePart number = words[row].toNat := by
  obtain ⟨numbers, hconverts, hsize, hrows⟩ := h.exists_converts
  constructor
  · intro hwords
    refine ⟨hwords.size_eq, fun row hrow => ?_⟩
    have hat : numbers[row]? = some (some (words[row].toNat : ℤ)) := by
      rw [← hconverts.eq hwords]
      simp [hrow]
    obtain ⟨number, hnumber, hword, -⟩ := (hrows row _).mp hat
    exact ⟨number, hnumber, hword⟩
  · rintro ⟨hcount, hstores⟩
    suffices hsame : numbers = words.map fun word => some (word.toNat : ℤ) by
      rw [HoldsWords, ← hsame]
      exact hconverts
    refine Array.ext (by simp [hsize, hcount]) fun row hrow hrow' => ?_
    rw [Array.size_map] at hrow'
    obtain ⟨number, hnumber, hword⟩ := hstores row hrow'
    have hlt := words[row].toNat_lt
    have hat := (hrows row _).mpr ⟨number, hnumber, hword, fitsNumber_of_isWord (by omega)⟩
    rw [Array.getElem?_eq_getElem hrow] at hat
    rw [Option.some.inj hat, Array.getElem_map]

/-- What is read of a numeric column is what is stored there exactly if that is whole. -/
theorem IsNumeric.stores_words_iff (h : frame.IsNumeric name) {words : Array UInt16}
    (hwords : frame.HoldsWords name words) :
    (∀ row (h : row < words.size), frame.StoresAt name row words[row].toNat) ↔
      ∀ row number, frame.StoresAt name row number → ∃ n : ℤ, number = n := by
  obtain ⟨hsize, hparts⟩ := h.holdsWords_iff.mp hwords
  constructor
  · intro hequal row number hnumber
    have hrow : row < words.size := hsize ▸ hnumber.lt
    have hsame : number = words[row].toNat := (hequal row hrow).eq hnumber
    exact ⟨words[row].toNat, by exact_mod_cast hsame⟩
  · intro hwhole row hrow
    obtain ⟨number, hnumber, hword⟩ := hparts row hrow
    obtain ⟨n, rfl⟩ := hwhole row number hnumber
    rw [wholePart_intCast] at hword
    subst hword
    exact_mod_cast hnumber

/-- A numeric column is refused for a value in it. -/
theorem IsNumeric.exists_invalidValue (h : frame.IsNumeric name)
    (hnot : ¬frame.Readable name) : ∃ reason, frame.ColumnFault name (.invalidValue reason) := by
  cases hwords : frame.words name with
  | ok words => exact absurd (readable_iff.mpr ⟨words, words_eq_ok_iff.mp hwords⟩) hnot
  | error error =>
    obtain ⟨numbers, ⟨column, hcolumn, hconvert⟩, -⟩ := h.exists_converts
    have hfault := words_eq_error_iff.mp hwords
    cases hfault with
    | missing hmissing => cases hcolumn.symm.trans hmissing
    | notConverted hcolumn' hnone =>
      cases hcolumn.symm.trans hcolumn'
      cases hconvert.symm.trans hnone
    | empty => exact ⟨_, words_eq_error_iff.mp hwords⟩
    | outOfRange => exact ⟨_, words_eq_error_iff.mp hwords⟩

/-! ## What decoding reads -/

/-- Numbers that are read from a column: a field of the attribute that a frame is decoded as,
or the indices of a constant pool. -/
inductive Reads (frame : Frame) : String → Array UInt16 → Prop
  | field {kind : AttributeKind} {decoded : Attribute} {name : String} {words : Array UInt16}
      (hdecode : frame.decode kind = .ok (.ok (some decoded)))
      (hfield : (name, words) ∈ decoded.fields) : Reads frame name words
  | index {words : Array UInt16} (hwords : frame.words "index" = .ok words) :
      Reads frame "index" words

theorem kind_ne_raw {kind : AttributeKind} (h : name ∈ kind.fields) : kind ≠ .raw := by
  rintro rfl
  exact absurd h List.not_mem_nil

theorem decode_raw {decoded : Attribute} : frame.decode .raw ≠ .ok (.ok (some decoded)) := by
  intro h
  cases h

theorem holds_of_decode {kind : AttributeKind} {decoded : Attribute}
    (h : frame.decode kind = .ok (.ok (some decoded))) :
    decoded.kind = kind ∧ frame.Holds decoded := by
  have hkind : kind ≠ .raw := by
    rintro rfl
    exact decode_raw h
  obtain ⟨_, hsame, hheld⟩ := (decode_eq_ok_iff hkind).mp h
  cases hsame
  exact hheld

theorem Reads.holdsWords {words : Array UInt16} (h : frame.Reads name words) :
    frame.HoldsWords name words := by
  cases h with
  | field hdecode hfield => exact (holds_of_decode hdecode).2 _ hfield
  | index hwords => exact words_eq_ok_iff.mp hwords

/-- Decoding as a kind with a field whose column cannot be read fails. -/
theorem exists_error_of_not_readable {kind : AttributeKind} (hname : name ∈ kind.fields)
    (h : ¬frame.Readable name) : ∃ error, frame.decode kind = .error error := by
  refine (frame.decode_cases (kind_ne_raw hname)).resolve_left ?_
  rintro ⟨decoded, hdecode⟩
  obtain ⟨rfl, hholds⟩ := holds_of_decode hdecode
  exact h (hholds.readable name hname)

/-- A constant pool is made of the indices and the texts of the values, row by row. -/
theorem constantPool_eq_ok_iff {pool : ConstantPool} :
    frame.constantPool = .ok pool ↔ ∃ indices column texts, frame.words "index" = .ok indices ∧
      frame.column? "value" = some column ∧ column.cells.toTexts = .ok texts ∧
      pool = .ofList (indices.zip (texts.map (·.getD CellText.empty))).toList := by
  simp only [constantPool, bind_eq_ok_iff, exists_and_left]
  refine exists_congr fun indices => and_congr_right fun _ => ?_
  cases frame.column? "value" with
  | none => simp
  | some column => cases htexts : column.cells.toTexts <;> simp [htexts, eq_comm]

/-- The indices of a constant pool are numbers read from the frame. -/
theorem exists_reads_of_constantPool {pool : ConstantPool} (h : frame.constantPool = .ok pool) :
    ∃ words, frame.Reads "index" words ∧
      ∀ index, (pool.resolve? index).isSome = true → index ∈ words := by
  obtain ⟨indices, column, texts, hindices, -, -, rfl⟩ := constantPool_eq_ok_iff.mp h
  refine ⟨indices, .index hindices, fun index hindex => ?_⟩
  rw [ConstantPool.resolve?_ofList, Option.isSome_map, List.find?_isSome] at hindex
  obtain ⟨entry, hentry, hsame⟩ := hindex
  rw [List.mem_reverse, Array.toList_zip] at hentry
  rw [← beq_iff_eq.mp hsame, ← Array.mem_toList_iff]
  exact (List.of_mem_zip hentry).1

theorem constantPool_of_columnFault {error : Error} (h : frame.ColumnFault "index" error) :
    frame.constantPool = .error error := by
  rw [constantPool, bind_eq_error_iff]
  exact .inl (words_eq_error_iff.mpr h)

/-- **A number is read as it is stored exactly if it is whole.** Of a column of whole numbers,
floating point numbers or texts, decoding an attribute or a constant pool reads from each row
the whole part of the number stored there: all that is read is equal to what is stored exactly
if no row stores a number with a fraction. If a row stores no number between -1 and 65536,
decoding fails, and with an invalid value unless a column before this one cannot be read. -/
theorem reads_stored_iff_whole (frame : Frame) :
    (∀ name words, frame.Reads name words → frame.IsNumeric name →
      words.size = frame.height ∧
      (∀ row (h : row < words.size), ∃ number, frame.StoresAt name row number ∧
        wholePart number = words[row].toNat) ∧
      ((∀ row (h : row < words.size), frame.StoresAt name row words[row].toNat) ↔
        ∀ row number, frame.StoresAt name row number → ∃ n : ℤ, number = n)) ∧
    (∀ pool, frame.constantPool = .ok pool → ∃ words, frame.Reads "index" words ∧
      ∀ index, (pool.resolve? index).isSome = true → index ∈ words) ∧
    (∀ name, frame.IsNumeric name → (∃ row < frame.height, ¬frame.StoresWordAt name row) →
      (∀ kind before after, AttributeKind.fields kind = before ++ name :: after →
        (∃ error, frame.decode kind = .error error) ∧
        ((∀ earlier ∈ before, frame.Readable earlier) →
          ∃ reason, frame.decode kind = .error (.invalidValue reason))) ∧
      (name = "index" → ∃ reason, frame.constantPool = .error (.invalidValue reason))) := by
  refine ⟨fun name words hreads hnumeric => ?_, fun pool => exists_reads_of_constantPool, ?_⟩
  · obtain ⟨hsize, hparts⟩ := hnumeric.holdsWords_iff.mp hreads.holdsWords
    exact ⟨hsize, hparts, hnumeric.stores_words_iff hreads.holdsWords⟩
  · rintro name hnumeric ⟨row, hrow, hnone⟩
    have hnot : ¬frame.Readable name :=
      fun hreadable => hnone (hnumeric.readable_iff_stores.mp hreadable row hrow)
    obtain ⟨reason, hfault⟩ := hnumeric.exists_invalidValue hnot
    refine ⟨fun kind before after hfields => ⟨?_, fun hbefore => ⟨reason, ?_⟩⟩, ?_⟩
    · exact exists_error_of_not_readable (by simp [hfields]) hnot
    · exact decode_eq_error_iff.mpr ⟨before, name, after, hfields, hbefore, hfault⟩
    · rintro rfl
      exact ⟨reason, constantPool_of_columnFault hfault⟩

/-- One index, with a half. -/
def halfFloat : Frame where
  columns := #[⟨"exception_index", .floats .binary64 #[some (.finite false 3 (-1))]⟩]
  height := 1
  size_eq := by decide
  nodup := by decide

/-- The same index as a text. -/
def halfText : Frame where
  columns := #[⟨"exception_index", .texts #[some "1.5"]⟩]
  height := 1
  size_eq := by decide
  nodup := by decide

theorem halfFloat_storesAt : halfFloat.StoresAt "exception_index" 0 (3 / 2) := by
  refine ⟨_, rfl, .finite false 3 (-1), rfl, ?_⟩
  norm_num [FloatValue.value?]

theorem halfFloat_isNumeric : halfFloat.IsNumeric "exception_index" := ⟨_, rfl, .floats _ _⟩

theorem halfFloat_decode :
    halfFloat.decode .exceptions = .ok (.ok (some (.exceptions #[1]))) := by
  have hwords : halfFloat.HoldsWords "exception_index" #[1] := by
    refine halfFloat_isNumeric.holdsWords_iff.mpr ⟨rfl, fun row hrow => ?_⟩
    obtain rfl : row = 0 := Nat.lt_one_iff.mp hrow
    have hword : wholePart (3 / 2) = 1 := by norm_num [wholePart, Int.floor_eq_iff]
    exact ⟨3 / 2, halfFloat_storesAt, hword⟩
  exact (decode_eq_ok_iff (by decide)).mpr
    ⟨_, rfl, rfl, fun field hfield => List.mem_singleton.mp hfield ▸ hwords⟩

/-- The number is read without its half, and the text is refused. -/
theorem reads_stored_iff_whole_half :
    halfFloat.Reads "exception_index" #[1] ∧ halfFloat.IsNumeric "exception_index" ∧
      (∃ number, halfFloat.StoresAt "exception_index" 0 number ∧ wholePart number = 1) ∧
      halfText.IsNumeric "exception_index" ∧
      (∃ row < halfText.height, ¬halfText.StoresWordAt "exception_index" row) ∧
      ∃ reason, halfText.decode .exceptions = .error (.invalidValue reason) := by
  have hreads : halfFloat.Reads "exception_index" #[1] :=
    .field halfFloat_decode List.mem_cons_self
  have htext : halfText.IsNumeric "exception_index" := ⟨_, rfl, .texts _⟩
  have hnone : ∃ row < halfText.height, ¬halfText.StoresWordAt "exception_index" row := by
    refine ⟨0, by decide, ?_⟩
    rintro ⟨number, ⟨column, hcolumn, hnumber⟩, -⟩
    cases hcolumn
    obtain ⟨text, htext, n, hn, -⟩ := hnumber
    cases htext
    rw [← Conversion.textInteger_eq_some_iff] at hn
    cases hn
  obtain ⟨-, hparts, -⟩ := (reads_stored_iff_whole halfFloat).1 _ _ hreads halfFloat_isNumeric
  obtain ⟨hrefused, -⟩ := (reads_stored_iff_whole halfText).2.2 _ htext hnone
  exact ⟨hreads, halfFloat_isNumeric, hparts 0 (by decide), htext, hnone,
    (hrefused .exceptions [] [] rfl).2 (by simp)⟩

/-- One and a half is read as one, and a class of that index is declared. -/
theorem half_read_as_one :
    halfFloat.StoresAt "exception_index" 0 (3 / 2) ∧
      ¬halfFloat.StoresAt "exception_index" 0 1 ∧
      halfFloat.decode .exceptions = .ok (.ok (some (.exceptions #[1]))) := by
  refine ⟨halfFloat_storesAt, fun hone => ?_, halfFloat_decode⟩
  have hsame := hone.eq halfFloat_storesAt
  norm_num at hsame

end Frame

end AttributeBrowser
