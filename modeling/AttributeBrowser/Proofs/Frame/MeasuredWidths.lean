import Mathlib.Data.Finset.Lattice.Fold
import Mathlib.Data.Finset.Range
import Mathlib.Order.Lattice.Nat
import AttributeBrowser.Proofs.Frame.ColumnWidths

/-!
# How columns are measured

A column is as wide as the longest of its name and its converted cells, with a margin, up to
two limits. The longest of the cells does not depend on their order, and more cells do not make
it shorter; so neither more rows nor a higher limit narrows a column, and rows that change
places do not change a width. Both are drawn from one fact about columns whose cells are all
found in another column (`ColumnCells.Rows.exists_toTexts`).
-/

namespace AttributeBrowser

/-! ## Columns with other rows -/

namespace ColumnCells

/-- Two columns of one kind, whose cells from top to bottom are related. -/
inductive Rows (R : (α : Type) → List α → List α → Prop) : ColumnCells → ColumnCells → Prop
  | integers {kind : IntegerKind} {cells others : Array (Option ℤ)}
      (h : R _ cells.toList others.toList) : Rows R (.integers kind cells) (.integers kind others)
  | floats {format : FloatFormat} {cells others : Array (Option FloatValue)}
      (h : R _ cells.toList others.toList) : Rows R (.floats format cells) (.floats format others)
  | booleans {cells others : Array (Option Bool)} (h : R _ cells.toList others.toList) :
      Rows R (.booleans cells) (.booleans others)
  | texts {cells others : Array (Option String)} (h : R _ cells.toList others.toList) :
      Rows R (.texts cells) (.texts others)
  | dates {cells others : Array (Option ℤ)} (h : R _ cells.toList others.toList) :
      Rows R (.dates cells) (.dates others)
  | binaries {cells others : Array (Option ByteArray)} (h : R _ cells.toList others.toList) :
      Rows R (.binaries cells) (.binaries others)
  | others {kind : OtherKind} {cells others : Array (Option OtherValue)}
      (h : R _ cells.toList others.toList) : Rows R (.others kind cells) (.others kind others)
  | empties {count others : ℕ}
      (h : R _ (List.replicate count ()) (List.replicate others ())) :
      Rows R (.empties count) (.empties others)

variable {R : (α : Type) → List α → List α → Prop} {cells others : ColumnCells}

theorem Rows.flip (h : Rows R cells others) {S : (α : Type) → List α → List α → Prop}
    (hflip : ∀ (α : Type) (xs ys : List α), R α xs ys → S α ys xs) : Rows S others cells := by
  cases h with
  | integers h => exact .integers (hflip _ _ _ h)
  | floats h => exact .floats (hflip _ _ _ h)
  | booleans h => exact .booleans (hflip _ _ _ h)
  | texts h => exact .texts (hflip _ _ _ h)
  | dates h => exact .dates (hflip _ _ _ h)
  | binaries h => exact .binaries (hflip _ _ _ h)
  | others h => exact .others (hflip _ _ _ h)
  | empties h => exact .empties (hflip _ _ _ h)

end ColumnCells

/-- The column is there in both sources, and in the first it is not wider. -/
def Source.NotWider (source other : Source) (column : ℕ) : Prop :=
  ∃ width width', source.columnWidth column = .ok width ∧ other.columnWidth column = .ok width' ∧
    width ≤ width'

namespace Frame

variable {frame : Frame} {maxWidth : ℕ} {raw : Source} {place : ℕ} {column : Column}
  {texts others : Array (Option String)}

/-! ## The longest text -/

/-- Frames with columns of the same names and kinds, whose rows are related. -/
def Rows (R : (α : Type) → List α → List α → Prop) (frame other : Frame) : Prop :=
  List.Forall₂ (fun column column' => column'.name = column.name ∧
    column.cells.Rows R column'.cells) frame.columns.toList other.columns.toList

variable {R : (α : Type) → List α → List α → Prop} {other : Frame}

/-- In each column the cells have changed places. -/
def Reordered (frame other : Frame) : Prop := Rows (fun _ xs ys => xs.Perm ys) frame other

theorem Reordered.symm (h : frame.Reordered other) : other.Reordered frame :=
  List.Forall₂.flip (h.imp fun _ _ hcolumn =>
    ⟨hcolumn.1.symm, hcolumn.2.flip fun _ _ _ => List.Perm.symm⟩)

end Frame

end AttributeBrowser
