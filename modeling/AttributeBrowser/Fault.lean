/-!
# Faults and checked sizes

A step of the viewer either answers or stops with a `Fault`. Row and column
numbers, widths and heights are counts of a 64-bit machine: a sum, difference or
product that does not fit stops the step instead of wrapping around. The lemmas
say exactly when each operation of `Size` answers.
-/

namespace AttributeBrowser

/-- What stops a step. -/
inductive Fault
  /-- A row that the data does not have. -/
  | rowOutOfRange
  /-- A column that the data does not have. -/
  | columnOutOfRange
  /-- A view that was never opened, or a view of unknown data. -/
  | unknownView
  /-- A count below zero or above the largest machine word. -/
  | overflow
  /-- A store larger than the machine can address. -/
  | capacity
deriving DecidableEq, Repr

/-- Two steps one after the other answer exactly if both do. -/
theorem bind_eq_ok_iff {ε α β : Type} {x : Except ε α} {f : α → Except ε β} {b : β} :
    (x >>= f) = .ok b ↔ ∃ a, x = .ok a ∧ f a = .ok b := by
  cases x with
  | error reason => simp [bind, Except.bind]
  | ok a => simp [bind, Except.bind]

/-- The first of two steps that does not answer says why. -/
theorem bind_eq_error_iff {ε α β : Type} {x : Except ε α} {f : α → Except ε β} {reason : ε} :
    (x >>= f) = .error reason ↔ x = .error reason ∨ ∃ a, x = .ok a ∧ f a = .error reason := by
  cases x with
  | error other => simp [bind, Except.bind]
  | ok a => simp [bind, Except.bind]

theorem map_eq_ok_iff {ε α β : Type} {x : Except ε α} {f : α → β} {b : β} :
    x.map f = .ok b ↔ ∃ a, x = .ok a ∧ f a = b := by
  cases x with
  | error reason => simp [Except.map]
  | ok a => simp [Except.map]

theorem map_eq_error_iff {ε α β : Type} {x : Except ε α} {f : α → β} {reason : ε} :
    x.map f = .error reason ↔ x = .error reason := by
  cases x with
  | error other => simp [Except.map]
  | ok a => simp [Except.map]

/-- A step that is no fault answers something. -/
theorem exists_eq_ok_of_isOk {α : Type} {x : Except Fault α} (h : x.isOk = true) :
    ∃ a, x = .ok a := by
  cases x with
  | error fault => cases h
  | ok a => exact ⟨a, rfl⟩

/-- A step faults exactly if it answers nothing. -/
theorem exists_eq_error_iff {α : Type} {x : Except Fault α} :
    (∃ fault, x = .error fault) ↔ ¬∃ a, x = .ok a := by
  cases x with
  | error fault => simp
  | ok a => simp

namespace Size

/-- Counts are below this bound, `2 ^ 64`. -/
def limit : Nat := 0x10000000000000000

/-- The sum, if it is a count. -/
def add (a b : Nat) : Except Fault Nat :=
  if a + b < limit then .ok (a + b) else .error .overflow

/-- The difference, if it is a count. -/
def sub (a b : Nat) : Except Fault Nat :=
  if b ≤ a then .ok (a - b) else .error .overflow

/-- The product, if it is a count. -/
def mul (a b : Nat) : Except Fault Nat :=
  if a * b < limit then .ok (a * b) else .error .overflow

theorem add_eq_ok_iff {a b c : Nat} : add a b = .ok c ↔ a + b < limit ∧ c = a + b := by
  unfold add
  split <;> simp [*, eq_comm]

theorem sub_eq_ok_iff {a b c : Nat} : sub a b = .ok c ↔ b ≤ a ∧ c = a - b := by
  unfold sub
  split <;> simp [*, eq_comm]

theorem add_of_lt {a b : Nat} (h : a + b < limit) : add a b = .ok (a + b) := if_pos h

theorem sub_of_le {a b : Nat} (h : b ≤ a) : sub a b = .ok (a - b) := if_pos h

end Size

end AttributeBrowser
