import AttributeBrowser.Table.Cell
import AttributeBrowser.Fault
import Std.Data.HashMap

/-!
# Cell memo

The cells of one table that have been computed. The memo is laid out row by row
in numbered slots; a place outside the table has no slot, so it is never stored
and never found. The main statements are that reading back a stored place gives
the stored cell and that storing leaves every other place as it was.
-/

namespace AttributeBrowser

/-- The computed cells of a table of `rows` rows and `columns` columns. -/
structure CellMemo where
  rows : Nat
  columns : Nat
  slots : Std.HashMap Nat Cell := {}

namespace CellMemo

/-- The largest number of slots: each takes twenty-four bytes, and a store holds
fewer than `2 ^ 63` of them. -/
def slotLimit : Nat := 384307168202282325

/-- An empty memo with a slot for every place of the table. -/
def create (rows columns : Nat) : Except Fault CellMemo :=
  match Size.mul rows columns with
  | .error fault => .error fault
  | .ok count => if count ≤ slotLimit then .ok { rows, columns } else .error .capacity

/-- The slot of a place of the table. -/
def slot? (memo : CellMemo) (row column : Nat) : Option Nat :=
  if row < memo.rows ∧ column < memo.columns then some (row * memo.columns + column) else none

/-- The cell computed for a place. -/
def get? (memo : CellMemo) (row column : Nat) : Option Cell :=
  (memo.slot? row column).bind fun slot => memo.slots[slot]?

/-- The memo that holds `cell` at a place; nothing is held outside the table. -/
def set (memo : CellMemo) (row column : Nat) (cell : Cell) : CellMemo :=
  match memo.slot? row column with
  | some slot => { memo with slots := memo.slots.insert slot cell }
  | none => memo

theorem create_eq_ok_iff {rows columns : Nat} {memo : CellMemo} :
    create rows columns = .ok memo ↔
      rows * columns ≤ slotLimit ∧ memo = { rows, columns } := by
  unfold create Size.mul
  by_cases h : rows * columns < Size.limit
  · simp only [h, if_true]
    split <;> simp [*, eq_comm]
  · simp only [h, if_false]
    simp only [Size.limit, slotLimit] at *
    constructor
    · intro h; cases h
    · rintro ⟨h, -⟩; omega

/-- Two places of the table share a slot only if they are the same place. -/
theorem slot?_inj {memo : CellMemo} {row column row' column' slot : Nat}
    (h : memo.slot? row column = some slot) (h' : memo.slot? row' column' = some slot) :
    row = row' ∧ column = column' := by
  unfold slot? at h h'
  split at h <;> simp at h
  split at h' <;> simp at h'
  rename_i hin hin'
  obtain ⟨-, hc⟩ := hin
  obtain ⟨-, hc'⟩ := hin'
  have hpos : 0 < memo.columns := by omega
  have hrow : row = row' := by
    have e : (row * memo.columns + column) / memo.columns = row := by
      rw [Nat.add_comm, Nat.add_mul_div_right _ _ hpos, Nat.div_eq_of_lt hc, Nat.zero_add]
    have e' : (row' * memo.columns + column') / memo.columns = row' := by
      rw [Nat.add_comm, Nat.add_mul_div_right _ _ hpos, Nat.div_eq_of_lt hc', Nat.zero_add]
    rw [← e, ← e', h, h']
  subst hrow
  exact ⟨rfl, by omega⟩

theorem slot?_eq_none_iff {memo : CellMemo} {row column : Nat} :
    memo.slot? row column = none ↔ ¬(row < memo.rows ∧ column < memo.columns) := by
  unfold slot?
  split <;> simp_all

@[simp] theorem rows_set (memo : CellMemo) (row column : Nat) (cell : Cell) :
    (memo.set row column cell).rows = memo.rows := by
  unfold set; split <;> rfl

@[simp] theorem columns_set (memo : CellMemo) (row column : Nat) (cell : Cell) :
    (memo.set row column cell).columns = memo.columns := by
  unfold set; split <;> rfl

theorem get?_create {rows columns : Nat} {memo : CellMemo} (h : create rows columns = .ok memo)
    (row column : Nat) : memo.get? row column = none := by
  obtain ⟨-, rfl⟩ := create_eq_ok_iff.1 h
  unfold get? slot?
  split <;> simp

/-- What a memo holds after a cell has been stored. -/
theorem get?_set (memo : CellMemo) (row column row' column' : Nat) (cell : Cell) :
    (memo.set row column cell).get? row' column' =
      if row' = row ∧ column' = column ∧ row < memo.rows ∧ column < memo.columns then some cell
      else memo.get? row' column' := by
  cases hs : memo.slot? row column with
  | none =>
    have hout := slot?_eq_none_iff.1 hs
    have : memo.set row column cell = memo := by simp [set, hs]
    rw [this, if_neg]
    rintro ⟨-, -, hr, hc⟩
    exact hout ⟨hr, hc⟩
  | some slot =>
    have hin : row < memo.rows ∧ column < memo.columns := by
      unfold slot? at hs
      split at hs <;> simp_all
    have e : memo.set row column cell = { memo with slots := memo.slots.insert slot cell } := by
      simp [set, hs]
    have hslot : (memo.set row column cell).slot? row' column' = memo.slot? row' column' := by
      simp [slot?]
    unfold get?
    rw [hslot, e]
    cases hs' : memo.slot? row' column' with
    | none =>
      have hout := slot?_eq_none_iff.1 hs'
      have hne : ¬(row' = row ∧ column' = column ∧ row < memo.rows ∧ column < memo.columns) := by
        rintro ⟨rfl, rfl, hr, hc⟩
        exact hout ⟨hr, hc⟩
      simp [hne]
    | some slot' =>
      simp only [Option.bind_some, Std.HashMap.getElem?_insert]
      by_cases heq : slot = slot'
      · subst heq
        obtain ⟨rfl, rfl⟩ := slot?_inj hs' hs
        simp [hin]
      · have hne : ¬(row' = row ∧ column' = column ∧ row < memo.rows ∧ column < memo.columns) := by
          rintro ⟨rfl, rfl, -, -⟩
          rw [hs] at hs'
          exact heq (Option.some.inj hs')
        simp [heq, hne]

end CellMemo

end AttributeBrowser
