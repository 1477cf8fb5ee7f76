import AttributeBrowser.Proofs.Frame.ColumnWidths
import AttributeBrowser.Proofs.Frame.Numbers

/-!
# Whole numbers as they are shown

A cell of a column of whole numbers is held in one of two ways, as a number or as the text of
one that is too large for that. Neither shows: the text of a cell is the decimal text of the
number stored (`Writes`), from the least number of a kind to the largest one. So the texts of a
column tell its cells apart, empty ones included.
-/

namespace AttributeBrowser

/-- The numbers that a column of the kind can store. -/
def IntegerKind.Holds : IntegerKind → ℤ → Prop
  | .int32, value => -0x80000000 ≤ value ∧ value < 0x80000000
  | .int64, value => -0x8000000000000000 ≤ value ∧ value < 0x8000000000000000
  | .uint32, value => 0 ≤ value ∧ value < 0x100000000
  | .uint64, value => 0 ≤ value ∧ value < 0x10000000000000000

/-! ## Decimal texts -/

/-- A number below zero is written with a sign in front. -/
theorem writes_intRepr (value : ℤ) : Writes value.repr.toList value := by
  cases value with
  | ofNat n => exact writes_repr n
  | negSucc n =>
    have h := Writes.minus (isNumeral_repr (n + 1))
    rw [Nat.toList_repr, Nat.ofDigitChars_ten_toDigits, ← Nat.toList_repr] at h
    rw [Int.repr, String.toList_append]
    exact h

/-- A written number is read as itself. -/
theorem textInteger_repr (value : ℤ) : Conversion.textInteger value.repr = some value :=
  Conversion.textInteger_eq_some_iff.mpr (writes_intRepr value)

namespace CellText

/-- The mark of an empty cell writes no number. -/
theorem repr_ne_empty (value : ℤ) : value.repr ≠ empty := by
  intro h
  have hread := textInteger_repr value
  have hempty : Conversion.textInteger empty = none := by decide
  rw [h, hempty] at hread
  cases hread

/-- What is shown for what a cell stores. -/
def ofStored (stored : Option ℤ) : String := (stored.map Int.repr).getD empty

/-- The text tells what is stored. -/
theorem ofStored_inj {stored other : Option ℤ} :
    ofStored stored = ofStored other ↔ stored = other := by
  constructor
  · intro h
    cases stored with
    | none =>
      cases other with
      | none => rfl
      | some value => exact absurd h.symm (repr_ne_empty value)
    | some value =>
      cases other with
      | none => exact absurd h (repr_ne_empty value)
      | some value' =>
        have hrepr : value.repr = value'.repr := h
        rw [← textInteger_repr value, hrepr, textInteger_repr]
  · intro h
    rw [h]

/-- A number of 64 bits with a sign is held as it is, and so only the largest kind has numbers
that are held as texts. -/
theorem ofInteger_of_holds {kind : IntegerKind} {value : ℤ} (h : kind.Holds value) :
    (value < 0x8000000000000000 ∧ ofInteger value = .number value) ∨
      (0x8000000000000000 ≤ value ∧ kind = .uint64 ∧ ofInteger value = .text value.repr) := by
  have hlow : -0x8000000000000000 ≤ value := by
    cases kind <;> simp only [IntegerKind.Holds] at h <;> omega
  by_cases hfits : value < 0x8000000000000000
  · left
    exact ⟨hfits, if_pos (by simp [fitsNumber, hlow, hfits])⟩
  · right
    refine ⟨by omega, ?_, if_neg (by simp [fitsNumber, hfits])⟩
    cases kind with
    | uint64 => rfl
    | _ =>
      simp only [IntegerKind.Holds] at h
      omega

end CellText

/-! ## Columns of whole numbers -/

namespace ColumnCells

variable {kind : IntegerKind} {cells : Array (Option ℤ)} {row : ℕ}

theorem cell_integers (kind : IntegerKind) (cells : Array (Option ℤ)) (row : ℕ) :
    (integers kind cells).cell row =
      (cells[row]?.join.map CellText.ofInteger).getD (.text CellText.empty) := rfl

theorem display_integers (kind : IntegerKind) (cells : Array (Option ℤ)) (row : ℕ) :
    ((integers kind cells).cell row).display = CellText.ofStored cells[row]?.join := by
  rw [cell_integers]
  cases cells[row]?.join with
  | none => rfl
  | some value => exact CellText.display_ofInteger value

end ColumnCells

namespace Frame

/-- **Whole numbers are shown exactly.** In a column of them every row is shown, also behind the
last one. A number is shown as its decimal text, held as a number if it is one of 64 bits with a
sign, and else, in a column of the largest kind, as a text. Where nothing is stored a mark is
shown that writes no number. So two cells of a column show the same text exactly if they store
the same, and equal texts of numbers are those of equal numbers. -/
theorem integers_shown_exactly {frame : Frame} {maxWidth : ℕ} {raw : Source}
    (h : frame.source maxWidth = .ok raw) {place : ℕ} {name : String} {kind : IntegerKind}
    {cells : Array (Option ℤ)}
    (hcolumn : frame.columns[place]? = some ⟨name, .integers kind cells⟩) (row : ℕ) :
    ∃ cell, raw.valueAt row place = .ok cell ∧
      (∀ value, cells[row]? = some (some value) →
        cell.display = value.repr ∧ Writes cell.display.toList value ∧
        (kind.Holds value →
          (value < 0x8000000000000000 ∧ cell = .number value) ∨
          (0x8000000000000000 ≤ value ∧ kind = .uint64 ∧ cell = .text value.repr))) ∧
      (cells[row]?.join = none → cell = .text "∅") ∧
      (∀ value : ℤ, value.repr ≠ "∅") ∧
      ∀ other, ∃ cell', raw.valueAt other place = .ok cell' ∧
        (cell.display = cell'.display ↔ cells[row]?.join = cells[other]?.join) := by
  have hcell := valueAt_source h hcolumn
  have hshown := ColumnCells.display_integers kind cells
  refine ⟨_, hcell row, ?_, ?_, CellText.repr_ne_empty, ?_⟩
  · intro value hvalue
    have hdisplay : ((ColumnCells.integers kind cells).cell row).display = value.repr := by
      rw [hshown, hvalue]
      rfl
    refine ⟨hdisplay, ?_, ?_⟩
    · rw [hdisplay]
      exact writes_intRepr value
    · intro hholds
      rw [ColumnCells.cell_integers, hvalue]
      exact CellText.ofInteger_of_holds hholds
  · intro hnone
    rw [ColumnCells.cell_integers, hnone]
    rfl
  · intro other
    refine ⟨_, hcell other, ?_⟩
    rw [hshown, hshown]
    exact CellText.ofStored_inj

/-- A column of the largest kind, with numbers on both sides of the largest one with a sign. -/
def largeNumbers : Frame where
  columns := #[⟨"a", .integers .uint64
    #[some 0x7fffffffffffffff, some 0x8000000000000000, none, some 0xffffffffffffffff]⟩]
  height := 4
  size_eq := by decide
  nodup := by decide

/-- The largest number with a sign is held as a number and the next one as its text; the empty
row shows the same as the one behind the end. -/
theorem integers_shown_exactly_large :
    ∃ raw, largeNumbers.source 40 = .ok raw ∧
      IntegerKind.uint64.Holds 0x8000000000000000 ∧
      raw.valueAt 0 0 = .ok (.number 0x7fffffffffffffff) ∧
      raw.valueAt 1 0 = .ok (.text "9223372036854775808") ∧
      raw.valueAt 2 0 = .ok (.text "∅") ∧ raw.valueAt 4 0 = .ok (.text "∅") := by
  obtain ⟨raw, hraw⟩ : ∃ raw, largeNumbers.source 40 = .ok raw :=
    exists_source_iff.mpr (by simp [largeNumbers, ColumnCells.toTexts])
  have hcolumn : largeNumbers.columns[0]? = some ⟨"a", .integers .uint64
    #[some 0x7fffffffffffffff, some 0x8000000000000000, none, some 0xffffffffffffffff]⟩ := rfl
  have hholds : IntegerKind.uint64.Holds 0x8000000000000000 := by
    constructor <;> decide
  have hfits : IntegerKind.uint64.Holds 0x7fffffffffffffff := by
    constructor <;> decide
  obtain ⟨first, hfirst, hnumber, -⟩ := integers_shown_exactly hraw hcolumn 0
  obtain ⟨second, hsecond, htext, -⟩ := integers_shown_exactly hraw hcolumn 1
  obtain ⟨third, hthird, -, hempty, -⟩ := integers_shown_exactly hraw hcolumn 2
  obtain ⟨last, hlast, -, hend, -⟩ := integers_shown_exactly hraw hcolumn 4
  refine ⟨raw, hraw, hholds, ?_, ?_, ?_, ?_⟩
  · rcases (hnumber _ rfl).2.2 hfits with ⟨-, rfl⟩ | ⟨hlarge, -⟩
    · exact hfirst
    · exact absurd hlarge (by decide)
  · rcases (htext _ rfl).2.2 hholds with ⟨hsmall, -⟩ | ⟨-, -, rfl⟩
    · exact absurd hsmall (by decide)
    · exact hsecond
  · rw [hthird, hempty rfl]
  · rw [hlast, hend rfl]

end Frame

end AttributeBrowser
