import AttributeBrowser.Frame.Conversion
import AttributeBrowser.Proofs.Number.Canonical
import AttributeBrowser.Proofs.Number.RoundedDigits
import AttributeBrowser.Proofs.Number.Shortest
import AttributeBrowser.Proofs.Number.TextLengths

/-!
# Two texts of a floating point number

A number of the larger format converts to its shortest digits, and it is shown by other rules.
Both lengths depend on three numbers (`Shape`): how many shortest digits there are, the place
of the last of them, and the place of the first digit of the number itself.
-/

namespace AttributeBrowser

open Decimal

/-! ## Lengths told by places -/

/-- The length of so many digits, the last one at this place, with the point among them. -/
def positionalLength (count : ℕ) (last : ℤ) : ℤ :=
  if 0 ≤ last then count + last else if 0 < count + last then count + 1 else 2 - last

/-- The length of so many digits with a power of ten. -/
def scientificLength (count : ℕ) (place : ℤ) : ℤ :=
  (if count = 1 then 1 else count + 1) + 1 + place.repr.length

/-- The length of the converted text, without a sign. -/
def castLength (count : ℕ) (last : ℤ) : ℤ :=
  if -5 < count + last ∧ count + last ≤ 16 then
    positionalLength count last + if 0 ≤ last then 2 else 0
  else scientificLength count (count + last - 1)

/-- The length of the sign. -/
def signLength (negative : Bool) : ℕ := if negative then 1 else 0

theorem length_signText (negative : Bool) :
    (CellText.signText negative).length = signLength negative := by
  cases negative <;> decide

/-! ## The shape of a number -/

/-- A number of the larger format has its first digit at `leading`, and its shortest digits are
`count` with the last one at `last`, however ties are broken. -/
structure Shape (mantissa : ℕ) (exponent : ℤ) (count : ℕ) (last leading : ℤ) : Prop where
  pos : 0 < mantissa
  leading_eq : leading = FloatValue.leadingPlace mantissa exponent
  low : (10 : ℚ) ^ leading ≤ mantissa * 2 ^ exponent
  high : (mantissa * 2 ^ exponent : ℚ) < 10 ^ (leading + 1)
  found : ∀ tie, Found .binary64 mantissa exponent (leading + 1)
    (shortest .binary64 tie mantissa exponent)
  exponent_eq : ∀ tie, (shortest .binary64 tie mantissa exponent).exponent = last
  length_eq : ∀ tie, (shortest .binary64 tie mantissa exponent).digits.repr.length = count
  pointPlace_eq : ∀ tie, (shortest .binary64 tie mantissa exponent).pointPlace = count + last
  unit_lt : (mantissa * 2 ^ exponent : ℚ) < 2 ^ (20 : ℤ) → (2 : ℚ) ^ exponent < 2 ^ (-32 : ℤ)

theorem exists_shape {negative : Bool} {mantissa : ℕ} {exponent : ℤ} (hm : 0 < mantissa)
    (h : FloatFormat.binary64.Holds (.finite negative mantissa exponent)) :
    ∃ count last leading, Shape mantissa exponent count last leading := by
  have ⟨hlt, hmin, _⟩ := h
  simp only [FloatFormat.binary64] at hlt hmin
  have hbound : (mantissa * 2 ^ exponent : ℚ) < 2 ^ (1100 : ℤ) :=
    h.lt_zpow.trans_le (zpow_le_zpow_right₀ (by norm_num) (by decide))
  obtain ⟨hlow, hhigh⟩ := FloatValue.leadingPlace_spec hm (by omega) hbound
  have hfound : ∀ tie, Found .binary64 mantissa exponent _ _ := found_shortest hm hlt hlow
  have hexponent : ∀ tie, (shortest .binary64 tie mantissa exponent).exponent =
      (shortest .binary64 .even mantissa exponent).exponent :=
    fun tie => (hfound tie).exponent_eq (hfound .even)
  have hlength : ∀ tie, (shortest .binary64 tie mantissa exponent).digits.repr.length =
      (shortest .binary64 .even mantissa exponent).digits.repr.length := by
    intro tie
    have htie := (hfound tie).length_digits hm hlow hhigh
    have heven := (hfound .even).length_digits hm hlow hhigh
    rw [hexponent tie] at htie
    exact_mod_cast htie.trans heven.symm
  refine ⟨_, _, _, hm, rfl, hlow, hhigh, hfound, hexponent, hlength, fun tie => ?_,
    fun hsmall => ?_⟩
  · rw [(hfound tie).pointPlace_eq hm hlow hhigh hlt (by decide), hexponent, hlength]
  · have hplaces : exponent + 52 < 20 := h.exponent_lt hsmall (by decide)
    exact zpow_lt_zpow_right₀ (by norm_num) (by omega)

section Shape

variable {mantissa count : ℕ} {exponent last leading : ℤ}
  (h : Shape mantissa exponent count last leading)

include h

theorem Shape.count_pos : 0 < count := by
  rw [← h.length_eq .even]
  exact length_repr_pos _

/-- The shortest digits begin where the number does, or are the power of ten above it. -/
theorem Shape.cases : (count = 1 ∧ last = leading + 1) ∨
    (last ≤ leading ∧ count + last = leading + 1) := by
  have hlength := (h.found .even).length_digits h.pos h.low h.high
  have hfirst := (h.found .even).le_first
  rw [h.length_eq, h.exponent_eq] at hlength
  rw [h.exponent_eq] at hfirst
  split at hlength
  · exact .inr ⟨‹_›, by omega⟩
  · exact .inl ⟨by omega, by omega⟩

/-! ## Lengths -/

theorem Shape.length_positional (tie : Tie) :
    ((shortest .binary64 tie mantissa exponent).positional.length : ℤ) =
      positionalLength count last := by
  have hplace := h.pointPlace_eq tie
  have hpositional := Decimal.length_positional
    (show (shortest .binary64 tie mantissa exponent).pointPlace = _ + _ by
      rw [hplace, h.length_eq tie, h.exponent_eq tie])
  rwa [hplace, h.length_eq tie, h.exponent_eq tie] at hpositional

theorem Shape.length_scientific (tie : Tie) :
    ((shortest .binary64 tie mantissa exponent).scientific.length : ℤ) =
      scientificLength count (count + last - 1) := by
  rw [scientific_eq, length_scientificText, h.length_eq, h.pointPlace_eq, scientificLength]
  push_cast
  rfl

/-- **The length of the converted text.** -/
theorem Shape.length_floatText (negative : Bool) :
    ((Conversion.floatText .binary64 (.finite negative mantissa exponent)).length : ℤ) =
      signLength negative + castLength count last := by
  have hzero : ".0".length = 2 := by decide
  simp only [Conversion.floatText, if_neg h.pos.ne', String.length_append, length_signText,
    Nat.cast_add, add_right_inj, h.pointPlace_eq, h.exponent_eq, castLength]
  change ((if -5 < (count : ℤ) + last ∧ (count : ℤ) + last ≤ 16 then _ else _ :
    String).length : ℤ) = _
  split
  · split
    · rw [String.length_append, hzero, Nat.cast_add, h.length_positional]
      rfl
    · rw [h.length_positional, add_zero]
  · exact h.length_scientific .even

/-- The length of the shortest digits without an exponent. -/
theorem Shape.length_plainFloat (negative : Bool) :
    ((CellText.plainFloat negative mantissa exponent).length : ℤ) =
      signLength negative + positionalLength count last := by
  rw [CellText.plainFloat, if_neg h.pos.ne', String.length_append, length_signText,
    Nat.cast_add, h.length_positional]

end Shape

/-! ## The shown text -/

/-- How long the shown text of a number of this shape is, one case for each way to show it. -/
inductive ShownLength (sign count : ℕ) (last leading : ℤ) : ℤ → Prop
  /-- A whole number below 999999, with one place. -/
  | whole (hlow : 0 ≤ leading) (hhigh : leading ≤ 5) :
      ShownLength sign count last leading (sign + leading + 3)
  /-- Five digits and an exponent, which may be rounded up. -/
  | rounded {place : ℤ} (hlong : 9 < sign + positionalLength count last)
      (hrange : leading ≤ -7 ∨ 5 ≤ leading)
      (hplace : place = leading ∨ place = leading + 1 ∧ (last ≤ leading → 5 ≤ count)) :
      ShownLength sign count last leading (sign + 7 + place.repr.length)
  /-- Six places without trailing zeros: no more places than the shortest digits have, if these
  are few. -/
  | fixed {length : ℤ} (hlong : 9 < sign + positionalLength count last)
      (hlow : -7 ≤ leading) (hhigh : leading ≤ 5)
      (hnear : leading = -7 → last ≤ leading → 3 ≤ count)
      (hsmall : leading < 0 → length ≤ sign + 8)
      (hlarge : 0 ≤ leading → length ≤ sign + leading + 4 ∨
        length ≤ sign + leading + 2 + if -3 ≤ last ∧ last < 0 then -last else 6) :
      ShownLength sign count last leading length
  /-- A whole number of few digits, with an exponent. -/
  | scientific (hshort : sign + positionalLength count last ≤ 9) (hlow : 5 ≤ leading) :
      ShownLength sign count last leading (sign + scientificLength count (count + last - 1))
  /-- All digits, if they are few. -/
  | positional (hshort : sign + positionalLength count last ≤ 9) :
      ShownLength sign count last leading (sign + positionalLength count last)

section ShownLength

variable {sign count : ℕ} {last leading length : ℤ}
  (h : ShownLength sign count last leading length) (hsign : sign ≤ 1) (hcount : 0 < count)
  (hcases : (count = 1 ∧ last = leading + 1) ∨ (last ≤ leading ∧ count + last = leading + 1))

include h hsign hcount hcases

/-- Where the converted text has no exponent, the shown one is not much longer. -/
theorem ShownLength.le_of_plain (hplain : -5 < count + last ∧ count + last ≤ 16) :
    length ≤ sign + castLength count last + 2 := by
  rw [castLength, if_pos hplain]
  cases h with
  | whole hlow hhigh =>
    rw [positionalLength]
    split
    · omega
    · split <;> omega
  | @rounded place hlong hrange hplace =>
    have hlength : place.repr.length ≤ 2 :=
      length_intRepr_le (by omega) (by omega) (by decide)
    rw [positionalLength]
    split
    · omega
    · split <;> omega
  | fixed hlong hlow hhigh hnear hsmall hlarge =>
    rw [positionalLength] at hlong ⊢
    split at hlong
    · omega
    · split at hlong
      · rw [if_neg (by omega)]
        split at hlarge <;> omega
      · omega
  | scientific hshort hlow =>
    have hlength : (count + last - 1).repr.length ≤ 1 := by
      refine length_intRepr_le (by omega) ?_ (by decide)
      rw [positionalLength] at hshort
      split at hshort
      · omega
      · split at hshort <;> omega
    rw [scientificLength, positionalLength]
    by_cases hzeros : 0 ≤ last
    · rw [if_pos hzeros]
      split <;> omega
    · rw [if_neg hzeros, if_pos (show 0 < (count : ℤ) + last by omega)]
      split <;> omega
  | positional hshort =>
    split <;> omega

/-- Where the converted text has an exponent, the shown one is longer for one or two digits, but
not for two digits in six places. -/
theorem ShownLength.lt_iff_of_not_plain (hexponent : ¬(-5 < count + last ∧ count + last ≤ 16)) :
    sign + castLength count last + 2 < length ↔
      count ≤ 2 ∧ ¬(sign = 1 ∧ count + last = -5 ∧ count = 2) := by
  have htwo : -7 ≤ count + last - 1 ∧ (count : ℤ) + last - 1 ≤ -6 →
      ((count : ℤ) + last - 1).repr.length = 2 := by
    intro hrange
    rcases (show (count : ℤ) + last - 1 = -7 ∨ (count : ℤ) + last - 1 = -6 by omega) with
      heq | heq <;> rw [heq] <;> decide
  rw [castLength, if_neg hexponent, scientificLength]
  cases h with
  | whole hlow hhigh => omega
  | @rounded place hlong hrange hplace =>
    have hsucc := length_intRepr_succ_le leading
    rcases hcases with ⟨hone, hlast⟩ | ⟨hlast, hfirst⟩
    · -- a power of ten
      rw [if_pos hone, show (count : ℤ) + last - 1 = leading + 1 by omega]
      refine iff_of_true ?_ (by omega)
      rcases hplace with rfl | ⟨rfl, -⟩ <;> omega
    · rw [show (count : ℤ) + last - 1 = leading by omega]
      rcases hplace with rfl | ⟨rfl, hfive⟩
      · split <;> omega
      · have hcarry := hfive hlast
        rw [if_neg (by omega)]
        omega
  | fixed hlong hlow hhigh hnear hsmall hlarge =>
    -- the first digit is the sixth or seventh place behind the point
    have hlength := hsmall (by omega)
    rw [positionalLength, if_neg (by omega), if_neg (by omega)] at hlong
    rw [htwo (by omega)]
    have hdigits : 3 ≤ count ∨ sign = 1 ∧ count = 2 ∧ count + last = -5 := by
      rcases (show leading = -7 ∨ leading = -6 by omega) with hseven | hsix
      · have hthree := hnear hseven
        omega
      · omega
    refine iff_of_false ?_ (by omega)
    split <;> omega
  | scientific hshort hlow =>
    rw [positionalLength] at hshort
    split at hshort
    · omega
    · split at hshort <;> omega
  | positional hshort =>
    rw [positionalLength] at hshort ⊢
    split at hshort
    · omega
    · split at hshort
      · omega
      · rw [htwo (by omega), if_neg (show ¬0 ≤ last by omega),
          if_neg (show ¬0 < (count : ℤ) + last by omega)]
        split <;> omega

/-- **Which numbers are shown too long**: those that convert to one or two digits with an
exponent, but not the negative ones with two digits that are rounded to six places. -/
theorem ShownLength.stretched_iff : sign + castLength count last + 2 < length ↔
    (count + last ≤ -5 ∨ 16 < count + last) ∧ count ≤ 2 ∧
      ¬(sign = 1 ∧ count + last = -5 ∧ count = 2) := by
  by_cases hplain : -5 < count + last ∧ count + last ≤ 16
  · have hle := h.le_of_plain hsign hcount hcases hplain
    omega
  · rw [h.lt_iff_of_not_plain hsign hcount hcases hplain]
    omega

end ShownLength

end AttributeBrowser
