import Mathlib.Algebra.Order.Field.Power
import Mathlib.Algebra.Order.Floor.Ring
import Mathlib.Data.Rat.Floor
import Mathlib.Tactic.Linarith
import Mathlib.Tactic.NormNum
import Mathlib.Tactic.Positivity
import AttributeBrowser.Number.FloatFormat

/-!
# The numbers that floating point stands for

A finite floating point number stands for a rational number, and truncating it gives the
whole part of that. A format holds every whole number below the power of two that its
precision names, since rounding one leaves it as it is.
-/

namespace AttributeBrowser

/-! ## Whole parts -/

/-- A number without its fraction, of either sign. -/
def wholePart (number : ℚ) : ℤ := if 0 ≤ number then ⌊number⌋ else ⌈number⌉

theorem wholePart_of_nonneg {number : ℚ} (h : 0 ≤ number) : wholePart number = ⌊number⌋ :=
  if_pos h

theorem wholePart_of_neg {number : ℚ} (h : number < 0) : wholePart number = ⌈number⌉ :=
  if_neg (not_le.mpr h)

@[simp] theorem wholePart_intCast (n : ℤ) : wholePart n = n := by
  unfold wholePart
  split <;> simp

theorem wholePart_neg {number : ℚ} (h : 0 ≤ number) : wholePart (-number) = -wholePart number := by
  rcases h.eq_or_lt with rfl | hpos
  · simp [wholePart]
  · rw [wholePart_of_neg (neg_lt_zero.mpr hpos), wholePart_of_nonneg h, Int.ceil_neg]

theorem wholePart_nonneg_iff {number : ℚ} : 0 ≤ wholePart number ↔ -1 < number := by
  by_cases h : 0 ≤ number
  · rw [wholePart_of_nonneg h]
    exact iff_of_true (Int.floor_nonneg.mpr h) (by linarith)
  · rw [wholePart_of_neg (not_le.mp h), Int.le_ceil_iff]
    norm_num

theorem wholePart_le_iff (number : ℚ) (bound : ℕ) :
    wholePart number ≤ bound ↔ number < bound + 1 := by
  by_cases h : 0 ≤ number
  · rw [wholePart_of_nonneg h, Int.floor_le_iff]
    norm_num
  · have hneg := not_le.mp h
    rw [wholePart_of_neg hneg, Int.ceil_le]
    have hbound : (0 : ℚ) ≤ bound := bound.cast_nonneg
    exact iff_of_true (by push_cast; linarith) (by linarith)

/-! ## Values -/

namespace FloatValue

/-- The rational number that a finite number is. -/
def value? : FloatValue → Option ℚ
  | .finite negative mantissa exponent =>
    some ((if negative then -1 else 1) * (mantissa * 2 ^ exponent))
  | _ => none

/-- Scaling divides a quotient by the power. -/
theorem cast_scale {base : ℕ} (hbase : 0 < base) (num den : ℕ) (exponent : ℤ) :
    ((Rounding.scale base num den exponent).1 : ℚ) / (Rounding.scale base num den exponent).2 =
      num / den / (base : ℚ) ^ exponent := by
  have hne : (base : ℚ) ≠ 0 := Nat.cast_ne_zero.mpr (Nat.pos_iff_ne_zero.mp hbase)
  unfold Rounding.scale
  split
  · rename_i hneg
    have hexp : exponent = -(exponent.natAbs : ℤ) := by omega
    rw [hexp, zpow_neg, zpow_natCast, div_inv_eq_mul, Int.natAbs_neg, Int.natAbs_natCast]
    push_cast [Nat.pow_eq]
    ring
  · rename_i hpos
    have hexp : exponent = (exponent.natAbs : ℤ) := by omega
    rw [hexp, zpow_natCast, Int.natAbs_natCast, div_div]
    push_cast [Nat.pow_eq]
    rfl

/-- **Truncating** gives the whole part of what a number stands for. -/
theorem truncate?_eq (x : FloatValue) : x.truncate? = x.value?.map wholePart := by
  cases x with
  | nan => rfl
  | infinite negative => rfl
  | finite negative mantissa exponent =>
    have hvalue := cast_scale (show 0 < 2 by decide) mantissa 1 (-exponent)
    rw [zpow_neg, div_inv_eq_mul, Nat.cast_one, div_one, Nat.cast_ofNat] at hvalue
    have hpos : (0 : ℚ) ≤ mantissa * 2 ^ exponent := by positivity
    have hwhole : wholePart (mantissa * 2 ^ exponent) =
        ((magnitude mantissa exponent).1 / (magnitude mantissa exponent).2 : ℕ) := by
      rw [wholePart_of_nonneg hpos, ← hvalue, Rat.floor_natCast_div_natCast]
      rfl
    cases negative with
    | false => simp [truncate?, value?, hwhole]
    | true => simp [truncate?, value?, wholePart_neg hpos, hwhole]

end FloatValue

/-! ## Whole numbers of a format -/

namespace Rounding

theorem halfEven_one (num : ℕ) : halfEven num 1 = num := by
  simp [halfEven, Nat.mod_one]

theorem floorLog2_one {n : ℕ} (h : n ≠ 0) : floorLog2 n 1 = n.log2 := by
  have hle := Nat.log2_self_le h
  have hlog : Nat.log2 1 = 0 := by decide
  have hnot : ¬(n.log2 : ℤ) < 0 := by omega
  simp [floorLog2, scale, hlog, hnot, hle]

theorem scale_two_neg (n shift : ℕ) : scale 2 n 1 (-(shift : ℤ)) = (n * 2 ^ shift, 1) := by
  unfold scale
  split <;> simp_all

end Rounding

namespace FloatFormat

variable {format : FloatFormat} {n : ℕ}

/-- A whole number with places to spare is shifted to the left, and nothing is rounded off. -/
theorem round_natCast (hmax : format.precision ≤ format.maxExponent) (hne : n ≠ 0) {shift : ℕ}
    (hshift : max ((n.log2 : ℤ) - format.precision + 1) format.minExponent = -(shift : ℤ))
    (hle : n.log2 + shift + 1 ≤ format.precision) :
    format.round false n 1 = .finite false (n * 2 ^ shift) (-(shift : ℤ)) := by
  have hmantissa : n * 2 ^ shift < 2 ^ format.precision := by
    calc n * 2 ^ shift < 2 ^ (n.log2 + 1) * 2 ^ shift :=
          Nat.mul_lt_mul_of_pos_right Nat.lt_log2_self (by positivity)
      _ = 2 ^ (n.log2 + shift + 1) := by ring
      _ ≤ 2 ^ format.precision := Nat.pow_le_pow_right (by decide) hle
  have hpos : n * 2 ^ shift ≠ 0 := Nat.mul_ne_zero hne (by positivity)
  have hsize : (n * 2 ^ shift).log2 < format.precision := (Nat.log2_lt hpos).mpr hmantissa
  have hfits : ¬(n * 2 ^ shift ≠ 0 ∧
      format.maxExponent ≤ (n * 2 ^ shift).log2 + -(shift : ℤ)) := by omega
  simp only [round, hne, if_false, Rounding.floorLog2_one hne, hshift, Rounding.scale_two_neg,
    Rounding.halfEven_one, Nat.pow_eq, hmantissa.ne, hfits]

/-- **A format holds every whole number** below the power of two that its precision names. -/
theorem value?_round_natCast (hmin : format.minExponent ≤ 0)
    (hmax : format.precision ≤ format.maxExponent) (hn : n < 2 ^ format.precision) :
    (format.round false n 1).value? = some (n : ℚ) := by
  rcases Nat.eq_zero_or_pos n with rfl | hpos
  · simp [round, FloatValue.value?]
  · have hne : n ≠ 0 := Nat.pos_iff_ne_zero.mp hpos
    have hlog : n.log2 < format.precision := (Nat.log2_lt hne).mpr hn
    -- the last digit of the result is a unit or less
    obtain ⟨shift, hshift⟩ := Int.exists_eq_neg_ofNat (show
      max ((n.log2 : ℤ) - format.precision + 1) format.minExponent ≤ 0 by omega)
    rw [round_natCast hmax hne hshift (by omega)]
    simp [FloatValue.value?]

end FloatFormat

end AttributeBrowser
