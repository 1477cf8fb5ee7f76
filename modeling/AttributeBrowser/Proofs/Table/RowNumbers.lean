import AttributeBrowser.Proofs.Number.DecimalText
import AttributeBrowser.Table.RowNumbers

/-!
# Row numbers: what the store holds

The store of row numbers is told by one number, its size: it holds the decimal
texts of the rows below it and nothing else (`Counting`). Growing keeps this and
makes the size the larger of the old one and the one asked for, so the store after
any requests is known without following how it was filled.
-/

namespace AttributeBrowser

namespace RowNumbers

/-- The store after one request; a request that cannot be met changes nothing. -/
def request (numbers : RowNumbers) (count : Nat) : RowNumbers :=
  match numbers.ensure count with
  | .ok next => next
  | .error _ => numbers

/-- An empty store after some requests. -/
def after (requests : List Nat) : RowNumbers := requests.foldl request {}

/-- The store holds the decimal texts of its first rows, and could be made. -/
structure Counting (numbers : RowNumbers) : Prop where
  texts : ∀ row, row < numbers.size → numbers.texts[row]? = some row.repr
  bounded : numbers.size < capacity

theorem Counting.empty : Counting {} where
  texts := by
    intro row h
    simp at h
  bounded := by decide

/-- A request is met exactly if a store of that many rows can be made. -/
theorem Counting.exists_ensure_iff {numbers : RowNumbers} (h : Counting numbers) {count : Nat} :
    (∃ next, numbers.ensure count = .ok next) ↔ count < capacity := by
  have hb := h.bounded
  constructor
  · rintro ⟨next, hn⟩
    by_cases hc : count < capacity
    · exact hc
    · have he : numbers.ensure count = .error .capacity :=
        ensure_eq_error_iff.mpr ⟨by omega, by omega, rfl⟩
      rw [he] at hn
      cases hn
  · intro hc
    cases hn : numbers.ensure count with
    | ok next => exact ⟨next, rfl⟩
    | error fault =>
      obtain ⟨-, hle, -⟩ := ensure_eq_error_iff.mp hn
      omega

theorem size_ensure {numbers next : RowNumbers} {count : Nat}
    (h : numbers.ensure count = .ok next) : next.size = max numbers.size count := by
  unfold ensure at h
  split at h
  · cases h
    omega
  · split at h
    · cases h
      simp only [size, Array.size_append, Array.size_map, Array.size_range'] at *
      omega
    · cases h

/-- The new rows are written behind the old ones, each with its own number. -/
theorem Counting.ensure {numbers next : RowNumbers} (h : Counting numbers) {count : Nat}
    (hn : numbers.ensure count = .ok next) : Counting next := by
  have hc : count < capacity := h.exists_ensure_iff.mp ⟨next, hn⟩
  have hsize := size_ensure hn
  refine ⟨?_, by have := h.bounded; omega⟩
  intro row hrow
  unfold RowNumbers.ensure at hn
  split at hn
  · cases hn
    exact h.texts row hrow
  · cases hn
    -- an old row keeps its text, and a new one is numbered by its place behind them
    by_cases hold : row < numbers.size
    · rw [Array.getElem?_append_left hold]
      exact h.texts row hold
    · have hge : numbers.size ≤ row := by omega
      have hlt : row - numbers.size < count - numbers.size := by omega
      have hrow' : numbers.size + (row - numbers.size) = row := by omega
      rw [Array.getElem?_append_right hge]
      simp [show numbers.texts.size = numbers.size from rfl, hlt, hrow']

theorem Counting.request {numbers : RowNumbers} (h : Counting numbers) (count : Nat) :
    Counting (numbers.request count) := by
  unfold RowNumbers.request
  split
  · rename_i hn
    exact h.ensure hn
  · exact h

/-- Any requests leave a store that counts. -/
theorem Counting.after (requests : List Nat) : Counting (after requests) := by
  suffices ∀ numbers, Counting numbers → Counting (requests.foldl RowNumbers.request numbers) from
    this {} Counting.empty
  induction requests with
  | nil => intro numbers h; exact h
  | cons count rest ih => intro numbers h; exact ih _ (h.request count)

/-- A row reads its number, or `null` behind the end. -/
theorem Counting.text_eq {numbers : RowNumbers} (h : Counting numbers) (row : Nat) :
    numbers.text row = if row < numbers.size then row.repr else missing := by
  unfold text
  rw [Array.getD_eq_getD_getElem?]
  split
  · rename_i hrow
    rw [h.texts row hrow]
    rfl
  · rename_i hrow
    rw [Array.getElem?_eq_none (Nat.le_of_not_lt hrow)]
    rfl

/-- No row number reads `null`: it is made of digits. -/
theorem repr_ne_missing (row : Nat) : row.repr ≠ missing := by
  intro h
  have hn : 'n' ∈ row.repr.toList := by
    rw [h]
    decide
  exact not_mem_repr (by decide) row hn

end RowNumbers

end AttributeBrowser
