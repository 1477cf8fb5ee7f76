import AttributeBrowser.Fault

/-!
# Row numbers

The texts of the row numbers 0, 1, 2, …, made once and shared by all tables.
The store only grows, to exactly the size asked for; the texts it has are kept
and only the new rows are written. A row behind the end reads `null`.
-/

namespace AttributeBrowser

/-- The texts made so far, and how often the store has grown. -/
structure RowNumbers where
  texts : Array String := #[]
  growths : Nat := 0
deriving Repr

namespace RowNumbers

/-- A store of this many rows, `2 ^ 59`, cannot be made: an entry takes sixteen bytes,
and a store holds fewer than `2 ^ 63` of them. -/
def capacity : Nat := 0x800000000000000

/-- What a row behind the end reads. -/
def missing : String := "null"

/-- The number of rows whose text is there. -/
def size (numbers : RowNumbers) : Nat := numbers.texts.size

/-- Whether there is no row number yet. -/
def isEmpty (numbers : RowNumbers) : Bool := numbers.size == 0

/-- The store with the texts of at least the first `count` rows. -/
def ensure (numbers : RowNumbers) (count : Nat) : Except Fault RowNumbers :=
  if count ≤ numbers.size then .ok numbers
  else if count < capacity then
    let fresh := (Array.range' numbers.size (count - numbers.size)).map Nat.repr
    .ok { texts := numbers.texts ++ fresh, growths := numbers.growths + 1 }
  else .error .capacity

/-- The text of a row. -/
def text (numbers : RowNumbers) (row : Nat) : String := numbers.texts.getD row missing

@[simp] theorem size_empty : ({} : RowNumbers).size = 0 := rfl

@[simp] theorem growths_empty : ({} : RowNumbers).growths = 0 := rfl

theorem ensure_eq_error_iff {numbers : RowNumbers} {count : Nat} {fault : Fault} :
    numbers.ensure count = .error fault ↔
      numbers.size < count ∧ capacity ≤ count ∧ fault = .capacity := by
  unfold ensure
  by_cases h : count ≤ numbers.size
  · simp [h, Nat.not_lt.2 h]
  · by_cases hc : count < capacity
    · simp [h, hc, Nat.not_le.2 hc]
    · simp [h, hc, Nat.not_le.1 h, Nat.not_lt.1 hc, eq_comm]

end RowNumbers

end AttributeBrowser
