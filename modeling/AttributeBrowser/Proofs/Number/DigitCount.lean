import Mathlib.Data.Nat.Cast.Order.Field
import AttributeBrowser.Proofs.Number.FloatValue

/-!
# Counting decimal digits

The number of decimal digits is guessed from the number of binary ones. The guess is right for
all numbers of less than 1100 binary digits, which is more than a floating point number has in
front of its point or behind it. So is the place of the first digit of a quotient of such
numbers (`floorLog10_spec`).
-/

namespace AttributeBrowser

/-! ## Lengths -/

theorem length_repr_pos (n : ℕ) : 0 < n.repr.length := by
  rw [← String.length_toList, Nat.toList_repr]
  exact Nat.length_toDigits_pos

theorem length_repr_le_iff {n bound : ℕ} (hbound : 0 < bound) :
    n.repr.length ≤ bound ↔ n < 10 ^ bound := by
  rw [← String.length_toList, Nat.toList_repr]
  exact Nat.length_toDigits_le_iff (by decide) hbound

theorem lt_pow_length_repr (n : ℕ) : n < 10 ^ n.repr.length :=
  (length_repr_le_iff (length_repr_pos n)).mp le_rfl

/-- The length of a written number tells its size. -/
theorem length_repr_eq_iff {n count : ℕ} (hpos : 0 < n) :
    n.repr.length = count + 1 ↔ 10 ^ count ≤ n ∧ n < 10 ^ (count + 1) := by
  have hnext : n.repr.length ≤ count + 1 ↔ n < 10 ^ (count + 1) :=
    length_repr_le_iff (Nat.succ_pos count)
  have hlength := length_repr_pos n
  cases count with
  | zero => omega
  | succ count =>
    have hsame : n.repr.length ≤ count + 1 ↔ n < 10 ^ (count + 1) :=
      length_repr_le_iff (Nat.succ_pos count)
    omega

namespace Rounding

/-- Counting by binary digits is right up to one place. -/
theorem guess_bounds : ∀ bits < 1100, 10 ^ (bits * 30103 / 100000) ≤ 10 * 2 ^ bits ∧
    2 ^ (bits + 1) ≤ 10 ^ (bits * 30103 / 100000 + 2) := by
  decide +kernel

variable {n : ℕ}

/-- **The count of digits** is right. -/
theorem digitCount_spec (hpos : 0 < n) (hbits : n.log2 < 1100) :
    ∃ count, digitCount n = count + 1 ∧ 10 ^ count ≤ n ∧ n < 10 ^ (count + 1) := by
  obtain ⟨hlow, hhigh⟩ := guess_bounds n.log2 hbits
  have hle : 2 ^ n.log2 ≤ n := Nat.log2_self_le hpos.ne'
  have hlt : n < 2 ^ (n.log2 + 1) := Nat.lt_log2_self
  unfold digitCount
  simp only [Nat.pow_eq]
  generalize n.log2 * 30103 / 100000 = guess at hlow hhigh ⊢
  by_cases hguess : n < 10 ^ guess
  · obtain ⟨count, rfl⟩ : ∃ count, guess = count + 1 := by
      refine Nat.exists_eq_succ_of_ne_zero ?_
      rintro rfl
      omega
    rw [if_pos hguess]
    rw [pow_succ] at hlow
    exact ⟨count, rfl, by omega, hguess⟩
  · rw [if_neg hguess]
    by_cases hnext : n < 10 ^ (guess + 1)
    · rw [if_pos hnext]
      exact ⟨guess, rfl, Nat.le_of_not_lt hguess, hnext⟩
    · rw [if_neg hnext]
      exact ⟨guess + 1, rfl, Nat.le_of_not_lt hnext, hlt.trans_le hhigh⟩

/-- The count of digits is the length of the written number. -/
theorem digitCount_eq_length (hpos : 0 < n) (hbits : n.log2 < 1100) :
    digitCount n = n.repr.length := by
  obtain ⟨count, hcount, hle, hlt⟩ := digitCount_spec hpos hbits
  rw [hcount, (length_repr_eq_iff hpos).mpr ⟨hle, hlt⟩]

/-- **The place of the first digit** of a quotient. -/
theorem floorLog10_spec {num den : ℕ} (hnum : 0 < num) (hden : 0 < den)
    (hlarge : (num / den).log2 < 1100) (hsmall : (den / num).log2 < 1100) :
    (10 : ℚ) ^ floorLog10 num den ≤ num / den ∧
      (num / den : ℚ) < 10 ^ (floorLog10 num den + 1) := by
  have hden' : (0 : ℚ) < den := Nat.cast_pos.mpr hden
  unfold floorLog10
  simp only [Nat.pow_eq]
  split
  · rename_i hle
    obtain ⟨count, hcount, hlow, hhigh⟩ := digitCount_spec (Nat.div_pos hle hden) hlarge
    rw [hcount, Nat.cast_add_one, add_sub_cancel_right, ← Nat.cast_add_one, zpow_natCast,
      zpow_natCast, le_div_iff₀ hden', div_lt_iff₀ hden']
    rw [Nat.le_div_iff_mul_le hden] at hlow
    rw [Nat.div_lt_iff_lt_mul hden] at hhigh
    exact ⟨by exact_mod_cast hlow, by exact_mod_cast hhigh⟩
  · rename_i hlt
    obtain ⟨count, hcount, hlow, hhigh⟩ :=
      digitCount_spec (Nat.div_pos (Nat.le_of_not_le hlt) hnum) hsmall
    rw [hcount, Nat.add_sub_cancel]
    rw [Nat.le_div_iff_mul_le hnum] at hlow
    rw [Nat.div_lt_iff_lt_mul hnum] at hhigh
    have hpow : (0 : ℚ) < 10 ^ count := by positivity
    split
    · -- the quotient is a power of ten
      rename_i hle
      have heq : (den : ℚ) = 10 ^ count * num := by
        exact_mod_cast Nat.le_antisymm (hle.trans_eq (Nat.mul_comm _ _)) hlow
      have hvalue : (num / den : ℚ) = 10 ^ (-(count : ℤ)) := by
        rw [heq, zpow_neg, zpow_natCast]
        field_simp
      rw [hvalue]
      exact ⟨le_rfl, zpow_lt_zpow_right₀ (by norm_num) (by omega)⟩
    · rename_i hnot
      have hlow' : (10 : ℚ) ^ count * num < den := by
        exact_mod_cast Nat.mul_comm _ _ ▸ Nat.lt_of_not_le hnot
      have hhigh' : (den : ℚ) < 10 ^ (count + 1) * num := by exact_mod_cast hhigh
      rw [show -((count : ℤ) + 1) + 1 = -(count : ℤ) by ring, zpow_neg, zpow_neg, zpow_natCast,
        ← Nat.cast_add_one, zpow_natCast, le_div_iff₀ hden', div_lt_iff₀ hden',
        inv_mul_le_iff₀ (by positivity), lt_inv_mul_iff₀ hpow]
      exact ⟨hhigh'.le, hlow'⟩

theorem scale_snd_pos {base den : ℕ} (hbase : 0 < base) (num : ℕ) (hden : 0 < den)
    (exponent : ℤ) : 0 < (scale base num den exponent).2 := by
  unfold scale
  split
  · exact hden
  · exact Nat.mul_pos hden (Nat.pow_pos hbase)

end Rounding

namespace FloatValue

variable {mantissa : ℕ} {exponent : ℤ}

/-- The size of a number is a quotient of positive numbers. -/
theorem magnitude_pos (hm : 0 < mantissa) (exponent : ℤ) :
    0 < (magnitude mantissa exponent).1 ∧ 0 < (magnitude mantissa exponent).2 := by
  refine ⟨?_, Rounding.scale_snd_pos (by decide) _ Nat.one_pos _⟩
  unfold magnitude Rounding.scale
  split
  · exact Nat.mul_pos hm (Nat.pow_pos (by decide))
  · exact hm

theorem magnitude_zero (exponent : ℤ) : (magnitude 0 exponent).1 = 0 := by
  unfold magnitude Rounding.scale
  split <;> simp

theorem magnitude_eq (mantissa : ℕ) (exponent : ℤ) :
    ((magnitude mantissa exponent).1 : ℚ) / (magnitude mantissa exponent).2 =
      mantissa * 2 ^ exponent := by
  have hvalue := cast_scale (show 0 < 2 by decide) mantissa 1 (-exponent)
  rwa [zpow_neg, div_inv_eq_mul, Nat.cast_one, div_one, Nat.cast_ofNat] at hvalue

/-- The place of the first digit of `mantissa * 2 ^ exponent`. -/
def leadingPlace (mantissa : ℕ) (exponent : ℤ) : ℤ :=
  Rounding.floorLog10 (magnitude mantissa exponent).1 (magnitude mantissa exponent).2

theorem log2_lt_of_lt_zpow {n bits : ℕ} (h : (n : ℚ) < 2 ^ (bits : ℤ)) (hbits : 0 < bits) :
    n.log2 < bits := by
  rcases Nat.eq_zero_or_pos n with rfl | hpos
  · simpa using hbits
  · rw [zpow_natCast] at h
    exact (Nat.log2_lt hpos.ne').mpr (by exact_mod_cast h)

/-- **The place of the first digit** of a number that is not too large or small. -/
theorem leadingPlace_spec (hm : 0 < mantissa) (hlow : -1100 < exponent)
    (hhigh : (mantissa * 2 ^ exponent : ℚ) < 2 ^ (1100 : ℤ)) :
    (10 : ℚ) ^ leadingPlace mantissa exponent ≤ mantissa * 2 ^ exponent ∧
      (mantissa * 2 ^ exponent : ℚ) < 10 ^ (leadingPlace mantissa exponent + 1) := by
  obtain ⟨hnum, hden⟩ := magnitude_pos hm exponent
  have hvalue := magnitude_eq mantissa exponent
  rw [← hvalue]
  refine Rounding.floorLog10_spec hnum hden (log2_lt_of_lt_zpow ?_ (by decide))
    (log2_lt_of_lt_zpow ?_ (by decide))
  · refine Nat.cast_div_le.trans_lt ?_
    rw [hvalue]
    exact hhigh
  · refine Nat.cast_div_le.trans_lt ?_
    have hmantissa : (1 : ℚ) ≤ mantissa := by exact_mod_cast hm
    rw [← inv_div, hvalue]
    calc ((mantissa : ℚ) * 2 ^ exponent)⁻¹
        ≤ (2 ^ exponent)⁻¹ :=
          inv_anti₀ (by positivity) (le_mul_of_one_le_left (by positivity) hmantissa)
      _ = 2 ^ (-exponent) := (zpow_neg 2 exponent).symm
      _ < 2 ^ (1100 : ℤ) := zpow_lt_zpow_right₀ (by norm_num) (by omega)

end FloatValue

end AttributeBrowser
