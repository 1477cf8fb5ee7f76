import AttributeBrowser.Number.Decimal

/-!
# Decimals as text

Both ways to write a power of ten behind the digits are one (`scientificText`): of the digits
of a decimal, and of so many digits of a quotient.
-/

namespace AttributeBrowser

/-- A number is written with digits alone. -/
theorem not_mem_repr {c : Char} (h : c.isDigit = false) (n : Nat) : c ∉ n.repr.toList := by
  intro hmem
  rw [Nat.toList_repr] at hmem
  have hdigit := Nat.isDigit_of_mem_toDigits (by decide) (by decide) hmem
  rw [h] at hdigit
  cases hdigit

namespace Decimal

/-- A point behind the first of some digits, if there are more. -/
def pointed : List Char → List Char
  | first :: second :: rest => first :: '.' :: second :: rest
  | digits => digits

/-- Digits with a point behind the first one, and a power of ten. -/
def scientificText (digits : Nat) (exponent : Int) : String :=
  String.ofList (pointed digits.repr.toList) ++ "e" ++ exponent.repr

/-- So many digits of a quotient behind the first one, and the power of ten of that one. -/
def leadingDigits (places num den : Nat) : Nat × Int :=
  let exponent := Rounding.floorLog10 num den
  let (num, den) := Rounding.scale 10 num den (exponent - places)
  let rounded := Rounding.halfEven num den
  if rounded = Nat.pow 10 (places + 1) then (rounded / 10, exponent + 1) else (rounded, exponent)

theorem scientificText_eq (digits : Nat) (exponent : Int) : scientificText digits exponent =
    match digits.repr.toList with
    | [] => ""
    | first :: rest =>
      String.ofList (if rest.isEmpty then [first] else first :: '.' :: rest) ++ "e" ++
        exponent.repr := by
  have hne : digits.repr.toList ≠ [] := by
    rw [Nat.toList_repr]
    exact Nat.toDigits_ne_nil
  unfold scientificText
  cases hdigits : digits.repr.toList with
  | nil => exact absurd hdigits hne
  | cons first rest => cases rest <;> rfl

theorem scientific_eq (d : Decimal) :
    d.scientific = scientificText d.digits (d.pointPlace - 1) := by
  rw [scientificText_eq]
  rfl

theorem scientificFixed_eq (places num den : Nat) : scientificFixed places num den =
    scientificText (leadingDigits places num den).1 (leadingDigits places num den).2 := by
  rw [scientificText_eq]
  rfl

end Decimal

end AttributeBrowser
