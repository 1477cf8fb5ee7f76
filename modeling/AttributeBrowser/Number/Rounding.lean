/-!
# Rounding quotients

A quotient of two natural numbers rounded to the nearest whole number, a half to
the even neighbour, and the place of its first decimal or binary digit. All is
exact arithmetic on natural numbers.
-/

namespace AttributeBrowser

namespace Rounding

/-- The whole number nearest to `num / den`; a half goes to the even neighbour. -/
def halfEven (num den : Nat) : Nat :=
  let quotient := num / den
  let rest := 2 * (num % den)
  if rest < den then quotient
  else if den < rest then quotient + 1
  else quotient + quotient % 2

/-- The whole number nearest to `num / den`; a half goes up. -/
def halfUp (num den : Nat) : Nat := (2 * num + den) / (2 * den)

/-- `num / den` divided by `base ^ exponent`, as a numerator and a denominator. -/
def scale (base num den : Nat) (exponent : Int) : Nat × Nat :=
  if exponent < 0 then (num * Nat.pow base exponent.natAbs, den)
  else (num, den * Nat.pow base exponent.natAbs)

/-- The exponent `e` with `2 ^ e ≤ num / den < 2 ^ (e + 1)`, for positive numbers. -/
def floorLog2 (num den : Nat) : Int :=
  let guess : Int := num.log2 - den.log2
  let (num, den) := scale 2 num den guess
  if den ≤ num then guess else guess - 1

/-- The number of decimal digits, guessed from the number of binary ones. -/
def digitCount (n : Nat) : Nat :=
  let guess := n.log2 * 30103 / 100000
  if n < Nat.pow 10 guess then guess
  else if n < Nat.pow 10 (guess + 1) then guess + 1
  else guess + 2

/-- The exponent `e` with `10 ^ e ≤ num / den < 10 ^ (e + 1)`, for positive numbers. -/
def floorLog10 (num den : Nat) : Int :=
  if den ≤ num then digitCount (num / den) - 1
  else
    let places := digitCount (den / num) - 1
    if den ≤ num * Nat.pow 10 places then -places else -(places + 1)

end Rounding

end AttributeBrowser
