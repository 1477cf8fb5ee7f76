import AttributeBrowser.Number.FloatFormat
import AttributeBrowser.Proofs.Number.RoundedDigits

/-!
# Numbers of a format

A number of a format has one form (`FloatFormat.Holds`): a mantissa of full precision, or the
smallest exponent. Converting such a number to its own format changes nothing.
-/

namespace AttributeBrowser

namespace Rounding

variable {m : ℕ} {e : ℤ}

theorem halfEven_mul {den : ℕ} (n : ℕ) (hden : 0 < den) : halfEven (n * den) den = n := by
  simp [halfEven, Nat.mul_mod_left, Nat.mul_div_cancel _ hden, hden]

theorem log2_mul_two_pow (hm : 0 < m) (shift : ℕ) : (m * 2 ^ shift).log2 = m.log2 + shift := by
  have hle := Nat.log2_self_le hm.ne'
  have hlt : m < 2 ^ (m.log2 + 1) := Nat.lt_log2_self
  rw [Nat.log2_eq_iff (Nat.mul_pos hm (Nat.pow_pos (by decide))).ne', pow_add,
    show m.log2 + shift + 1 = m.log2 + 1 + shift by omega, pow_add _ (m.log2 + 1)]
  exact ⟨Nat.mul_le_mul_right _ hle, Nat.mul_lt_mul_of_pos_right hlt (Nat.pow_pos (by decide))⟩

theorem magnitude_of_pos (m : ℕ) (he : 0 < e) :
    FloatValue.magnitude m e = (m * 2 ^ e.toNat, 1) := by
  rw [FloatValue.magnitude, scale, if_pos (by omega), show (-e).natAbs = e.toNat by omega]
  rfl

theorem magnitude_of_nonpos (m : ℕ) (he : e ≤ 0) :
    FloatValue.magnitude m e = (m, 2 ^ (-e).toNat) := by
  rw [FloatValue.magnitude, scale, if_neg (by omega), show (-e).natAbs = (-e).toNat by omega,
    Nat.one_mul]
  rfl

theorem floorLog2_two_pow (hm : 0 < m) (places : ℕ) :
    floorLog2 m (2 ^ places) = m.log2 - places := by
  have hle := Nat.log2_self_le hm.ne'
  unfold floorLog2 scale
  simp only [Nat.log2_two_pow, Nat.pow_eq]
  split
  · have hden : 2 ^ places ≤ m * 2 ^ ((m.log2 : ℤ) - places).natAbs := by
      calc 2 ^ places = 2 ^ m.log2 * 2 ^ ((m.log2 : ℤ) - places).natAbs := by
            rw [← pow_add]
            congr 1
            omega
        _ ≤ _ := Nat.mul_le_mul_right _ hle
    rw [if_pos hden]
  · have hden : 2 ^ places * 2 ^ ((m.log2 : ℤ) - places).natAbs ≤ m := by
      rw [← pow_add, show places + ((m.log2 : ℤ) - places).natAbs = m.log2 by omega]
      exact hle
    rw [if_pos hden]

/-- The place of the first binary digit. -/
theorem floorLog2_magnitude (hm : 0 < m) (e : ℤ) :
    floorLog2 (FloatValue.magnitude m e).1 (FloatValue.magnitude m e).2 = m.log2 + e := by
  rcases lt_or_ge 0 e with he | he
  · have hne : m * 2 ^ e.toNat ≠ 0 := (Nat.mul_pos hm (Nat.pow_pos (by decide))).ne'
    rw [magnitude_of_pos m he, floorLog2_one hne, log2_mul_two_pow hm]
    omega
  · rw [magnitude_of_nonpos m he, floorLog2_two_pow hm]
    omega

/-- Scaled by its own exponent, a number is its mantissa. -/
theorem halfEven_scale_magnitude (m : ℕ) (e : ℤ) :
    halfEven (scale 2 (FloatValue.magnitude m e).1 (FloatValue.magnitude m e).2 e).1
      (scale 2 (FloatValue.magnitude m e).1 (FloatValue.magnitude m e).2 e).2 = m := by
  have hpos : ∀ places : ℕ, 0 < 2 ^ places := fun places => Nat.pow_pos (by decide)
  rcases lt_or_ge 0 e with he | he
  · rw [magnitude_of_pos m he, scale, if_neg (by omega), show e.natAbs = e.toNat by omega,
      Nat.one_mul]
    exact halfEven_mul m (hpos _)
  · rw [magnitude_of_nonpos m he, scale]
    split
    · rw [show e.natAbs = (-e).toNat by omega]
      exact halfEven_mul m (hpos _)
    · rw [show e = 0 by omega]
      simp [halfEven_one]

end Rounding

namespace FloatFormat

/-- The number is one of the format, in its form: the mantissa has all binary digits of the
format, or the exponent is the smallest one. -/
def Holds (format : FloatFormat) : FloatValue → Prop
  | .finite _ mantissa exponent =>
    mantissa < 2 ^ format.precision ∧ format.minExponent ≤ exponent ∧
      (format.minExponent < exponent → 2 ^ (format.precision - 1) ≤ mantissa) ∧
      mantissa.log2 + exponent < format.maxExponent
  | _ => True

instance (format : FloatFormat) (value : FloatValue) : Decidable (format.Holds value) :=
  match value with
  | .finite _ _ _ => inferInstanceAs (Decidable (_ ∧ _))
  | .nan | .infinite _ => .isTrue trivial

/-- **A number of a format** is converted to itself. -/
theorem convert_of_holds {format : FloatFormat} {value : FloatValue} (h : format.Holds value) :
    format.convert value = value := by
  cases value with
  | nan => rfl
  | infinite negative => rfl
  | finite negative mantissa exponent =>
    obtain ⟨hlt, hmin, hfull, hmax⟩ := h
    change format.round negative (FloatValue.magnitude mantissa exponent).1
      (FloatValue.magnitude mantissa exponent).2 = _
    rcases Nat.eq_zero_or_pos mantissa with rfl | hm
    · have hexponent : exponent = format.minExponent := by
        by_contra hne
        have hfull' := hfull (by omega)
        have hpow : 0 < 2 ^ (format.precision - 1) := Nat.pow_pos (by decide)
        omega
      rw [round, if_pos (FloatValue.magnitude_zero exponent), hexponent]
    · have hlog := (Nat.log2_lt hm.ne').mpr hlt
      have hexponent : max ((mantissa.log2 : ℤ) + exponent - format.precision + 1)
          format.minExponent = exponent := by
        rcases hmin.eq_or_lt with heq | hlt'
        · omega
        · have hfull' := (Nat.le_log2 hm.ne').mpr (hfull hlt')
          omega
      have hne := (FloatValue.magnitude_pos hm exponent).1.ne'
      simp only [round, if_neg hne, Rounding.floorLog2_magnitude hm, hexponent,
        Rounding.halfEven_scale_magnitude, Nat.pow_eq, if_neg hlt.ne]
      rw [if_neg (by omega)]

section Finite

variable {format : FloatFormat} {negative : Bool} {mantissa : ℕ} {exponent : ℤ}
  (h : format.Holds (.finite negative mantissa exponent))

include h

/-- A format has a power of two above all its numbers. -/
theorem Holds.lt_zpow : (mantissa * 2 ^ exponent : ℚ) < 2 ^ format.maxExponent := by
  obtain ⟨-, -, -, hmax⟩ := h
  have hlog : (mantissa : ℚ) < 2 ^ (mantissa.log2 + 1) := by exact_mod_cast Nat.lt_log2_self
  calc (mantissa * 2 ^ exponent : ℚ) < 2 ^ (mantissa.log2 + 1) * 2 ^ exponent :=
        mul_lt_mul_of_pos_right hlog (by positivity)
    _ = 2 ^ ((mantissa.log2 + 1 : ℕ) + exponent) := by
        rw [zpow_add₀ (by norm_num), zpow_natCast]
    _ ≤ 2 ^ format.maxExponent := zpow_le_zpow_right₀ (by norm_num) (by omega)

/-- Below a power of two the last binary digit is as many places down as the format has. -/
theorem Holds.exponent_lt {place : ℤ} (hlt : (mantissa * 2 ^ exponent : ℚ) < 2 ^ place)
    (hplace : format.minExponent + (format.precision - 1 : ℕ) < place) :
    exponent + (format.precision - 1 : ℕ) < place := by
  obtain ⟨-, hmin, hfull, -⟩ := h
  rcases hmin.eq_or_lt with heq | hnormal
  · rwa [← heq]
  · have hmantissa : (2 : ℚ) ^ (format.precision - 1) ≤ mantissa := by
      exact_mod_cast hfull hnormal
    have hpower : (2 : ℚ) ^ (exponent + (format.precision - 1 : ℕ)) < 2 ^ place := by
      rw [zpow_add₀ (by norm_num), zpow_natCast, mul_comm]
      exact (mul_le_mul_of_nonneg_right hmantissa (by positivity)).trans_lt hlt
    exact (zpow_lt_zpow_iff_right₀ (by norm_num)).mp hpower

end Finite

end FloatFormat

end AttributeBrowser
