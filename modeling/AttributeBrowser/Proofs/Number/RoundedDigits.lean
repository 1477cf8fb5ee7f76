import AttributeBrowser.Proofs.Number.DecimalText
import AttributeBrowser.Proofs.Number.DigitCount

/-!
# Rounded digits

Rounding a quotient gives the nearest whole number, and the first digits of a quotient are
rounded to so many digits; if they are rounded up to a power of ten, its place is one higher.
-/

namespace AttributeBrowser

namespace Rounding

variable {num den : ℕ}

/-- **Rounding** goes no farther than a half. -/
theorem abs_halfEven_sub_le (num : ℕ) (hden : 0 < den) :
    |(halfEven num den : ℚ) - num / den| ≤ 1 / 2 := by
  have hden' : (0 : ℚ) < den := Nat.cast_pos.mpr hden
  have hsplit : (num : ℚ) = (num / den : ℕ) * den + (num % den : ℕ) := by
    exact_mod_cast (Nat.div_add_mod' num den).symm
  have hvalue : (num : ℚ) / den = (num / den : ℕ) + (num % den : ℕ) / den := by
    rw [div_eq_iff hden'.ne', add_mul, div_mul_cancel₀ _ hden'.ne']
    exact hsplit
  have hnonneg : (0 : ℚ) ≤ (num % den : ℕ) / den := by positivity
  have hless : ((num % den : ℕ) / den : ℚ) < 1 := by
    rw [div_lt_one hden']
    exact_mod_cast Nat.mod_lt _ hden
  have hhalf : ((num % den : ℕ) / den : ℚ) ≤ 1 / 2 ↔ 2 * (num % den) ≤ den := by
    rw [div_le_div_iff₀ hden' two_pos, one_mul, mul_comm]
    exact_mod_cast Iff.rfl
  have hhalf' : (1 / 2 : ℚ) ≤ (num % den : ℕ) / den ↔ den ≤ 2 * (num % den) := by
    rw [div_le_div_iff₀ two_pos hden', one_mul, mul_comm _ (2 : ℚ)]
    exact_mod_cast Iff.rfl
  rw [hvalue, abs_le]
  unfold halfEven
  simp only
  split
  · rename_i hlt
    have hle := hhalf.mpr hlt.le
    constructor <;> linarith
  · rename_i hge
    have hge' := hhalf'.mpr (Nat.le_of_not_lt hge)
    split
    · rw [Nat.cast_add_one]
      constructor <;> linarith
    · rename_i hle
      have hle' := hhalf.mpr (Nat.le_of_not_lt hle)
      rw [Nat.cast_add]
      rcases Nat.mod_two_eq_zero_or_one (num / den) with heven | hodd
      · rw [heven, Nat.cast_zero]
        constructor <;> linarith
      · rw [hodd, Nat.cast_one]
        constructor <;> linarith

/-- Rounding does not pass a whole number. -/
theorem halfEven_le (hden : 0 < den) {bound : ℕ} (h : (num / den : ℚ) ≤ bound) :
    halfEven num den ≤ bound := by
  have hnear := abs_le.mp (abs_halfEven_sub_le num hden)
  have hlt : (halfEven num den : ℚ) < bound + 1 := by linarith
  exact Nat.lt_succ_iff.mp (by exact_mod_cast hlt)

theorem le_halfEven (hden : 0 < den) {bound : ℕ} (h : (bound : ℚ) ≤ num / den) :
    bound ≤ halfEven num den := by
  have hnear := abs_le.mp (abs_halfEven_sub_le num hden)
  have hlt : (bound : ℚ) < halfEven num den + 1 := by linarith
  exact Nat.lt_succ_iff.mp (by exact_mod_cast hlt)

/-- What is nearer than a half is what rounding gives. -/
theorem halfEven_eq_of_near (hden : 0 < den) {n : ℕ} (h : |(n : ℚ) - num / den| < 1 / 2) :
    halfEven num den = n := by
  have hnear := abs_halfEven_sub_le num hden
  rw [abs_le] at hnear
  rw [abs_lt] at h
  have hlow : (halfEven num den : ℚ) < n + 1 := by linarith
  have hhigh : (n : ℚ) < halfEven num den + 1 := by linarith
  have hlow' : halfEven num den < n + 1 := by exact_mod_cast hlow
  have hhigh' : n < halfEven num den + 1 := by exact_mod_cast hhigh
  omega

end Rounding

namespace Decimal

open Rounding

/-- **The first digits of a quotient.** They are as many as wanted, and the place of the first
one is one higher if the quotient is rounded up to a power of ten. -/
theorem leadingDigits_cases (places : ℕ) {num den : ℕ} (hden : 0 < den)
    (hlow : (10 : ℚ) ^ floorLog10 num den ≤ num / den)
    (hhigh : (num / den : ℚ) < 10 ^ (floorLog10 num den + 1)) :
    (10 ^ places ≤ (leadingDigits places num den).1 ∧
      (leadingDigits places num den).1 < 10 ^ (places + 1)) ∧
    ((leadingDigits places num den).2 = floorLog10 num den ∨
      (leadingDigits places num den).2 = floorLog10 num den + 1 ∧
        (10 : ℚ) ^ (floorLog10 num den + 1) ≤
          num / den + 10 ^ (floorLog10 num den - places) / 2) := by
  set leading := floorLog10 num den with hleading
  set scaled := scale 10 num den (leading - places) with hscaled
  have hpos : 0 < scaled.2 := scale_snd_pos (by decide) num hden _
  have hvalue : (scaled.1 : ℚ) / scaled.2 = num / den / 10 ^ (leading - places) :=
    FloatValue.cast_scale (by decide) num den _
  have hunit : (0 : ℚ) < 10 ^ (leading - places) := by positivity
  have hpower : ∀ count : ℕ, (10 : ℚ) ^ (places + count) * 10 ^ (leading - places) =
      10 ^ (leading + count) := by
    intro count
    rw [← zpow_natCast, ← zpow_add₀ (by norm_num)]
    congr 1
    push_cast
    ring
  have hfirst : 10 ^ places ≤ halfEven scaled.1 scaled.2 := by
    refine le_halfEven hpos ?_
    rw [hvalue, le_div_iff₀ hunit, Nat.cast_pow, Nat.cast_ofNat]
    exact (hpower 0).trans_le (by simpa using hlow)
  have hlast : halfEven scaled.1 scaled.2 ≤ 10 ^ (places + 1) := by
    refine halfEven_le hpos ?_
    rw [hvalue, div_le_iff₀ hunit, Nat.cast_pow, Nat.cast_ofNat, hpower]
    exact hhigh.le
  have hsame : leadingDigits places num den = if halfEven scaled.1 scaled.2 = 10 ^ (places + 1)
      then (halfEven scaled.1 scaled.2 / 10, leading + 1)
      else (halfEven scaled.1 scaled.2, leading) := rfl
  rw [hsame]
  split
  · rename_i hcarry
    refine ⟨?_, .inr ⟨rfl, ?_⟩⟩
    · have htens : 0 < 10 ^ places := Nat.pow_pos (by decide)
      rw [hcarry, pow_succ, Nat.mul_div_cancel _ (by decide)]
      omega
    · have hnear := abs_le.mp (abs_halfEven_sub_le scaled.1 hpos)
      have hup : (10 : ℚ) ^ (places + 1) - 1 / 2 ≤ num / den / 10 ^ (leading - places) := by
        rw [hcarry, hvalue, Nat.cast_pow, Nat.cast_ofNat] at hnear
        linarith
      rw [le_div_iff₀ hunit, sub_mul, hpower, Nat.cast_one] at hup
      linarith
  · exact ⟨⟨hfirst, by omega⟩, .inl rfl⟩

end Decimal

end AttributeBrowser
