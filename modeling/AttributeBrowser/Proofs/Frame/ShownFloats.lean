import AttributeBrowser.Frame.Source
import AttributeBrowser.Proofs.Frame.FloatTexts

/-!
# How floating point numbers are shown

Each way to show a number has a length that its shape tells (`Shape.shownLength`). The shown
digits are rounded ones, and so are the shortest digits: both are near the number, which tells
how many zeros rounding leaves at the end, and when it carries into a new first digit.
-/

namespace AttributeBrowser

open Decimal

/-! ## Whole numbers -/

theorem length_repr_of_place {whole : ℕ} {leading : ℤ} (hlow : (10 : ℚ) ^ leading ≤ whole)
    (hhigh : (whole : ℚ) < 10 ^ (leading + 1)) :
    0 ≤ leading ∧ (whole.repr.length : ℤ) = leading + 1 := by
  have hpos : 0 < whole := by
    have hpos' : (0 : ℚ) < whole := lt_of_lt_of_le (by positivity) hlow
    exact_mod_cast hpos'
  have hone : (10 : ℚ) ^ (0 : ℤ) ≤ whole := by exact_mod_cast hpos
  have hleading : 0 < leading + 1 :=
    (zpow_lt_zpow_iff_right₀ (by norm_num)).mp (hone.trans_lt hhigh)
  obtain ⟨count, rfl⟩ := Int.eq_ofNat_of_zero_le (show 0 ≤ leading by omega)
  have hlength : whole.repr.length = count + 1 :=
    (length_repr_eq_iff hpos).mpr ⟨by exact_mod_cast hlow, by exact_mod_cast hhigh⟩
  exact ⟨by omega, by omega⟩

section Places

variable {num den : ℕ}

/-! ## Bounds of a quotient -/

theorem lt_mul_iff_div_lt (hden : 0 < den) {bound : ℕ} :
    num < bound * den ↔ (num / den : ℚ) < bound := by
  rw [div_lt_iff₀ (Nat.cast_pos.mpr hden)]
  exact_mod_cast Iff.rfl

theorem mul_lt_iff_lt_div (hden : 0 < den) {bound : ℕ} :
    bound * den < num ↔ (bound : ℚ) < num / den := by
  rw [lt_div_iff₀ (Nat.cast_pos.mpr hden)]
  exact_mod_cast Iff.rfl

/-! ## Rounding to places -/

/-- Rounding a quotient below a power of ten gives at most this power. -/
theorem rounded_le (places : ℕ) (hden : 0 < den) {count : ℕ} (h : (num / den : ℚ) < 10 ^ count) :
    Rounding.halfEven (num * 10 ^ places) den ≤ 10 ^ (count + places) := by
  refine Rounding.halfEven_le hden ?_
  rw [Nat.cast_mul, Nat.cast_pow, Nat.cast_pow, Nat.cast_ofNat, mul_div_right_comm, pow_add]
  exact mul_le_mul_of_nonneg_right h.le (by positivity)

/-- A number below one has one digit in front of the point. -/
theorem length_six_places_le (hden : 0 < den) (h : (num / den : ℚ) < 1) :
    (CellText.trimZeros (fixed 6 num den)).length ≤ 8 := by
  have hle : Rounding.halfEven (num * 10 ^ 6) den ≤ 10 ^ (0 + 6) :=
    rounded_le 6 hden (by simpa using h)
  have hwhole : (Rounding.halfEven (num * 10 ^ 6) den / 10 ^ 6).repr.length ≤ 1 := by
    rw [length_repr_le_iff (by decide), pow_one]
    omega
  have htrimmed : (CellText.trimZeros (fixed 6 num den)).length ≤
      (Rounding.halfEven (num * 10 ^ 6) den / 10 ^ 6).repr.length + 1 + 6 :=
    CellText.length_trimZeros_fixed_le (by decide) (Nat.add_zero 6) (one_dvd _)
  omega

/-- Six places are as many as wanted, or the number is carried into a new first digit and has
one place. -/
theorem length_six_places_le_of_dvd (hden : 0 < den) {count : ℕ}
    (h : (num / den : ℚ) < 10 ^ (count + 1)) {kept dropped : ℕ} (hkept : 0 < kept)
    (hplaces : kept + dropped = 6)
    (hdvd : 10 ^ dropped ∣ Rounding.halfEven (num * 10 ^ 6) den) :
    (CellText.trimZeros (fixed 6 num den)).length ≤ count + 4 ∨
      (CellText.trimZeros (fixed 6 num den)).length ≤ count + 2 + kept := by
  rcases (rounded_le 6 hden h).eq_or_lt with heq | hlt
  · left
    have hcarry : (Rounding.halfEven (num * 10 ^ 6) den / 10 ^ 6).repr.length = count + 1 + 1 := by
      rw [heq, pow_add, Nat.mul_div_cancel _ (by decide),
        length_repr_eq_iff (Nat.pow_pos (by decide))]
      exact ⟨le_rfl, Nat.pow_lt_pow_right (by decide) (Nat.lt_succ_self _)⟩
    have hzeros : 10 ^ 5 ∣ Rounding.halfEven (num * 10 ^ 6) den := by
      rw [heq]
      exact Nat.pow_dvd_pow 10 (by omega)
    have htrimmed := CellText.length_trimZeros_fixed_le Nat.one_pos (by decide) hzeros
    omega
  · right
    have hwhole : (Rounding.halfEven (num * 10 ^ 6) den / 10 ^ 6).repr.length ≤ count + 1 := by
      rw [length_repr_le_iff (Nat.succ_pos _), Nat.div_lt_iff_lt_mul (by decide), ← pow_add]
      exact hlt
    have htrimmed := CellText.length_trimZeros_fixed_le hkept hplaces hdvd
    omega

end Places

/-! ## The bound of small numbers -/

/-- The smallest number that is shown without an exponent, just below `10 ^ -6`. -/
def tiny : ℚ := 4722366482869645 * 2 ^ (-72 : ℤ)

theorem tiny_bounds : (10 : ℚ) ^ (-6 : ℤ) - 10 ^ (-9 : ℤ) < tiny ∧ tiny < 10 ^ (-6 : ℤ) := by
  norm_num [tiny]

theorem isTiny_iff (num : ℕ) {den : ℕ} (hden : 0 < den) :
    CellText.isTiny num den = true ↔ (num / den : ℚ) < tiny := by
  have hparsed : FloatFormat.binary64.ofDecimal false 1 (-6) =
      .finite false 4722366482869645 (-72) := by decide +kernel
  obtain ⟨-, hpos⟩ := FloatValue.magnitude_pos (show 0 < 4722366482869645 by decide) (-72)
  have hvalue := FloatValue.magnitude_eq 4722366482869645 (-72)
  have htiny : tiny = (FloatValue.magnitude 4722366482869645 (-72)).1 /
      (FloatValue.magnitude 4722366482869645 (-72)).2 := by
    rw [hvalue, tiny]
    norm_num
  rw [CellText.isTiny, hparsed, htiny, div_lt_div_iff₀ (Nat.cast_pos.mpr hden)
    (Nat.cast_pos.mpr hpos)]
  simp only [decide_eq_true_eq]
  exact_mod_cast Iff.rfl

/-! ## The shortest digits -/

section Shape

variable {mantissa count : ℕ} {exponent last leading : ℤ}
  (h : Shape mantissa exponent count last leading)

include h

/-- The shortest digits are near the number. -/
theorem Shape.abs_value_sub_le (tie : Tie) :
    |(shortest .binary64 tie mantissa exponent).value - mantissa * 2 ^ exponent| ≤
      2 ^ exponent / 2 :=
  (h.found tie).reads.abs_sub_le

theorem Shape.leading_lt {place : ℤ} (hplace : (mantissa * 2 ^ exponent : ℚ) < 10 ^ place) :
    leading < place :=
  (zpow_lt_zpow_iff_right₀ (by norm_num)).mp (h.low.trans_lt hplace)

theorem Shape.le_leading {place : ℤ} (hplace : (10 : ℚ) ^ place ≤ mantissa * 2 ^ exponent) :
    place ≤ leading :=
  Int.lt_add_one_iff.mp ((zpow_lt_zpow_iff_right₀ (by norm_num)).mp (hplace.trans_lt h.high))

/-- A decimal with that many digits is a step below the next power of ten. -/
theorem Shape.value_le (tie : Tie) (hlast : last ≤ leading) :
    (shortest .binary64 tie mantissa exponent).value ≤ 10 ^ (leading + 1) - 10 ^ last := by
  have hstep : (0 : ℚ) < 10 ^ last := by positivity
  have hdigits : (shortest .binary64 tie mantissa exponent).digits + 1 ≤ 10 ^ count := by
    rw [← h.length_eq tie]
    exact lt_pow_length_repr _
  have hpower : (10 : ℚ) ^ count * 10 ^ last = 10 ^ (leading + 1) := by
    rw [← zpow_natCast, ← zpow_add₀ (by norm_num)]
    have hcases := h.cases
    congr 1
    omega
  rw [value, h.exponent_eq, ← hpower, ← sub_one_mul]
  refine mul_le_mul_of_nonneg_right ?_ hstep.le
  have hcast : ((shortest .binary64 tie mantissa exponent).digits + 1 : ℚ) ≤ 10 ^ count := by
    exact_mod_cast hdigits
  linarith

/-- **Rounding up to a power of ten** takes a number nearer to it than its shortest digits are,
if there are fewer digits than were rounded to. -/
theorem Shape.five_le_count (hlast : last ≤ leading)
    (hcarry : (10 : ℚ) ^ (leading + 1) ≤ mantissa * 2 ^ exponent + 10 ^ (leading - 4) / 2) :
    5 ≤ count := by
  by_contra hfew
  have hcases := h.cases
  have hcoarse : (10 : ℚ) ^ (leading - 3) ≤ 10 ^ last :=
    zpow_le_zpow_right₀ (by norm_num) (by omega)
  have hten : (10 : ℚ) ^ (leading - 3) = 10 * 10 ^ (leading - 4) := by
    rw [← zpow_one_add₀ (by norm_num)]
    congr 1
    ring
  have hunit : (0 : ℚ) < 10 ^ (leading - 4) := by positivity
  have hvalue := h.value_le .even hlast
  have hnear := abs_le.mp (h.abs_value_sub_le .even)
  -- the power of ten would read back, and there is no shorter decimal
  refine (h.found .even).coarsest (leading + 1) ?_ le_rfl 1 ?_
  · rw [h.exponent_eq]
    omega
  · rw [Nat.cast_one, one_mul]
    refine FloatFormat.readsAs_of_lt ((FloatFormat.lowest_lt _ _ _).trans h.high) ?_
    rw [FloatFormat.highest]
    linarith

/-- The numbers next to `10 ^ -6` have more digits than two. -/
theorem Shape.three_le_count (hleading : leading = -7) (hlast : last ≤ leading)
    (htiny : tiny ≤ mantissa * 2 ^ exponent) : 3 ≤ count := by
  by_contra hfew
  have hcases := h.cases
  have hcoarse : (10 : ℚ) ^ (-8 : ℤ) ≤ 10 ^ last :=
    zpow_le_zpow_right₀ (by norm_num) (by omega)
  have hvalue := h.value_le .even hlast
  have hnear := abs_le.mp (h.abs_value_sub_le .even)
  have hhigh := h.high
  rw [hleading] at hvalue hhigh
  have hunit := h.unit_lt (hhigh.trans (by norm_num))
  have hbounds := tiny_bounds.1
  norm_num at hcoarse hvalue hunit hbounds
  linarith

/-- With few places the shortest digits are what the number is rounded to. -/
theorem Shape.dvd_rounded {num den : ℕ} (hden : 0 < den)
    (hquotient : (num / den : ℚ) = mantissa * 2 ^ exponent) (hleading : leading ≤ 5)
    {kept dropped : ℕ} (hkept : last = -(kept : ℤ)) (hplaces : kept + dropped = 6) :
    10 ^ dropped ∣ Rounding.halfEven (num * 10 ^ 6) den := by
  have hsmall : (mantissa * 2 ^ exponent : ℚ) < 2 ^ (20 : ℤ) := by
    calc (mantissa * 2 ^ exponent : ℚ) < 10 ^ (leading + 1) := h.high
      _ ≤ 10 ^ (6 : ℤ) := zpow_le_zpow_right₀ (by norm_num) (by omega)
      _ < 2 ^ (20 : ℤ) := by norm_num
  have hunit := h.unit_lt hsmall
  have hnear := h.abs_value_sub_le .even
  have hdigits : ((shortest .binary64 .even mantissa exponent).digits * 10 ^ dropped : ℚ) =
      (shortest .binary64 .even mantissa exponent).value * 10 ^ 6 := by
    rw [value, h.exponent_eq, hkept, ← hplaces, pow_add, zpow_neg, zpow_natCast]
    field_simp
  have hrounded : Rounding.halfEven (num * 10 ^ 6) den =
      (shortest .binary64 .even mantissa exponent).digits * 10 ^ dropped := by
    refine Rounding.halfEven_eq_of_near hden ?_
    rw [Nat.cast_mul, Nat.cast_mul, Nat.cast_pow, Nat.cast_pow, Nat.cast_ofNat, hdigits,
      mul_div_right_comm, hquotient, ← sub_mul, abs_mul]
    norm_num at hunit ⊢
    linarith
  rw [hrounded]
  exact Nat.dvd_mul_left _ _

end Shape

/-! ## The ways to show a number -/

section Shape

variable {mantissa count sign num den : ℕ} {exponent last leading : ℤ}
  (h : Shape mantissa exponent count last leading) (hden : 0 < den)
  (hquotient : (num / den : ℚ) = mantissa * 2 ^ exponent)

include h hden hquotient

/-- A whole number below 999999. -/
theorem Shape.shown_whole (hwhole : num % den = 0) (hsmall : num < 999999 * den) :
    ShownLength sign count last leading (sign + (fixed 1 num den).length) := by
  obtain ⟨whole, rfl⟩ := Nat.dvd_of_mod_eq_zero hwhole
  have hden' : (den : ℚ) ≠ 0 := Nat.cast_ne_zero.mpr hden.ne'
  rw [Nat.cast_mul, mul_div_cancel_left₀ _ hden'] at hquotient
  obtain ⟨hleading, hlength⟩ := length_repr_of_place (h.low.trans_eq hquotient.symm)
    (hquotient.trans_lt h.high)
  have hbound : whole < 999999 := Nat.lt_of_mul_lt_mul_left (hsmall.trans_eq (Nat.mul_comm _ _))
  have hdigits : whole.repr.length ≤ 6 := by
    rw [length_repr_le_iff (by decide)]
    omega
  have hrounded : Rounding.halfEven (den * whole * 10 ^ 1) den = whole * 10 ^ 1 := by
    rw [Nat.mul_assoc, Nat.mul_comm]
    exact Rounding.halfEven_mul _ hden
  have hfixed : ((fixed 1 (den * whole) den).length : ℤ) = leading + 3 := by
    rw [length_fixed Nat.one_pos, hrounded, Nat.mul_div_cancel _ (by decide)]
    omega
  rw [hfixed, ← add_assoc]
  exact .whole hleading (by omega)

/-- Five digits, and the place of the first one, which may be rounded up. -/
theorem Shape.shown_rounded (hleading : leading = Rounding.floorLog10 num den)
    (hlong : 9 < sign + positionalLength count last)
    (hrange : CellText.isTiny num den = true ∨ 999999 * den < num) :
    ShownLength sign count last leading (sign + (scientificFixed 4 num den).length) := by
  have hlow := h.low
  have hhigh := h.high
  rw [← hquotient, hleading] at hlow hhigh
  obtain ⟨hdigits, hplace⟩ := leadingDigits_cases 4 hden hlow hhigh
  have hlength : ((scientificFixed 4 num den).length : ℤ) =
      7 + (leadingDigits 4 num den).2.repr.length := by
    rw [scientificFixed_eq, length_scientificText,
      (length_repr_eq_iff (Nat.lt_of_lt_of_le (by decide) hdigits.1)).mpr hdigits]
    push_cast
    ring
  rw [hlength, ← add_assoc]
  refine .rounded hlong ?_ ?_
  · rw [isTiny_iff num hden, mul_lt_iff_lt_div hden, hquotient, Nat.cast_ofNat] at hrange
    rcases hrange with hsmall | hlarge
    · have hlt := h.leading_lt (hsmall.trans tiny_bounds.2)
      exact .inl (by omega)
    · exact .inr (h.le_leading (le_trans (by norm_num) hlarge.le))
  · rw [← hleading, hquotient] at hplace
    exact hplace.imp_right fun hup => ⟨hup.1, fun hlast => h.five_le_count hlast hup.2⟩

/-- Six places without trailing zeros. -/
theorem Shape.length_six_places (hleading : leading ≤ 5) (hpos : 0 ≤ leading) :
    ((CellText.trimZeros (fixed 6 num den)).length : ℤ) ≤ leading + 4 ∨
      ((CellText.trimZeros (fixed 6 num den)).length : ℤ) ≤
        leading + 2 + if -3 ≤ last ∧ last < 0 then -last else 6 := by
  have hhigh := h.high
  rw [← hquotient] at hhigh
  obtain ⟨places, rfl⟩ := Int.eq_ofNat_of_zero_le hpos
  have hbound : (num / den : ℚ) < 10 ^ (places + 1) := by exact_mod_cast hhigh
  split
  · rename_i hfew
    obtain ⟨kept, hkept⟩ := Int.eq_ofNat_of_zero_le (show 0 ≤ -last by omega)
    have hplaces : kept + (6 - kept) = 6 := by omega
    have hdvd := h.dvd_rounded hden hquotient hleading (by omega) hplaces
    have hlength := length_six_places_le_of_dvd hden hbound (by omega) hplaces hdvd
    omega
  · have hlength := length_six_places_le_of_dvd hden hbound (by decide) (Nat.add_zero 6)
      (one_dvd _)
    omega

theorem Shape.shown_fixed (hlong : 9 < sign + positionalLength count last)
    (hrange : ¬(CellText.isTiny num den = true ∨ 999999 * den < num)) :
    ShownLength sign count last leading
      (sign + (CellText.trimZeros (fixed 6 num den)).length) := by
  rw [not_or, isTiny_iff num hden, mul_lt_iff_lt_div hden, hquotient, not_lt, not_lt,
    Nat.cast_ofNat] at hrange
  obtain ⟨hlow, hhigh⟩ := hrange
  have hleading : leading < 6 := h.leading_lt (hhigh.trans_lt (by norm_num))
  refine .fixed hlong ?_ (by omega) (fun hseven hlast => ?_) (fun hneg => ?_) (fun hpos => ?_)
  · refine h.le_leading (le_trans ?_ hlow)
    norm_num [tiny]
  · exact h.three_le_count hseven hlast hlow
  · have hone : (num / den : ℚ) < 1 := by
      rw [hquotient]
      exact h.high.trans_le (zpow_le_one_of_nonpos₀ (by norm_num) (by omega))
    have hlength := length_six_places_le hden hone
    omega
  · have hlength := h.length_six_places hden hquotient (by omega) hpos
    omega

/-- A whole number from 999999 on that is written in few digits. -/
theorem Shape.shown_scientific (hshort : sign + positionalLength count last ≤ 9)
    (hlarge : ¬num < 999999 * den) (tie : Tie) : ShownLength sign count last leading
      (sign + (shortest .binary64 tie mantissa exponent).scientific.length) := by
  rw [lt_mul_iff_div_lt hden, hquotient, not_lt, Nat.cast_ofNat] at hlarge
  rw [h.length_scientific]
  exact .scientific hshort (h.le_leading (le_trans (by norm_num) hlarge))

end Shape

/-- **How long a number of this shape is shown.** -/
theorem Shape.shownLength {mantissa count : ℕ} {exponent last leading : ℤ}
    (h : Shape mantissa exponent count last leading) (negative : Bool) :
    ShownLength (signLength negative) count last leading
      (CellText.ofFinite negative mantissa exponent).length := by
  obtain ⟨-, hden⟩ := FloatValue.magnitude_pos h.pos exponent
  have hquotient := FloatValue.magnitude_eq mantissa exponent
  have hleading := h.leading_eq
  have hplain := h.length_plainFloat negative
  rw [FloatValue.leadingPlace] at hleading
  unfold CellText.ofFinite
  generalize FloatValue.magnitude mantissa exponent = quotient at hden hquotient hleading ⊢
  obtain ⟨num, den⟩ := quotient
  simp only [beq_iff_eq] at hden hquotient hleading ⊢
  split
  · rename_i hwhole
    rw [String.length_append, length_signText, Nat.cast_add]
    exact h.shown_whole hden hquotient hwhole.1 hwhole.2
  · rename_i hnot
    split
    · have hlong : 9 < signLength negative + positionalLength count last := by omega
      split
      · rw [String.length_append, length_signText, Nat.cast_add]
        exact h.shown_rounded hden hquotient hleading hlong ‹_›
      · rw [String.length_append, length_signText, Nat.cast_add]
        exact h.shown_fixed hden hquotient hlong ‹_›
    · have hshort : signLength negative + positionalLength count last ≤ 9 := by omega
      split
      · rename_i hwhole
        rw [String.length_append, length_signText, Nat.cast_add]
        exact h.shown_scientific hden hquotient hshort (fun hlt => hnot ⟨hwhole, hlt⟩) .up
      · rw [hplain]
        exact .positional hshort

/-! ## Numbers that are shown too long -/

theorem length_ofFinite_zero (negative : Bool) (exponent : ℤ) :
    (CellText.ofFinite negative 0 exponent).length = signLength negative + 3 := by
  have hden : 0 < (FloatValue.magnitude 0 exponent).2 :=
    Rounding.scale_snd_pos (by decide) 0 Nat.one_pos _
  have hnum : (FloatValue.magnitude 0 exponent).1 = 0 := FloatValue.magnitude_zero exponent
  have hdigit : (Nat.repr 0).length = 1 := by decide
  unfold CellText.ofFinite
  generalize FloatValue.magnitude 0 exponent = quotient at hden hnum ⊢
  obtain ⟨num, den⟩ := quotient
  simp only at hden hnum
  subst hnum
  have hzero : Rounding.halfEven (0 * 10 ^ 1) den = 0 := by
    simpa using Rounding.halfEven_mul 0 hden
  simp only [Nat.zero_mod, beq_self_eq_true, true_and,
    if_pos (Nat.mul_pos (show 0 < 999999 by decide) hden), String.length_append,
    length_signText, length_fixed Nat.one_pos, hzero, Nat.zero_div, hdigit]

/-- The number converts to one or two digits with a power of ten, and it is not one of the
negative numbers with two digits that are rounded to six places. -/
def FloatValue.Stretched : FloatValue → Prop
  | .finite negative mantissa exponent =>
    let converted := shortest .binary64 .even mantissa exponent
    mantissa ≠ 0 ∧ (converted.pointPlace ≤ -5 ∨ 16 < converted.pointPlace) ∧
      converted.digits < 100 ∧
      ¬(negative = true ∧ converted.pointPlace = -5 ∧ 10 ≤ converted.digits)
  | _ => False

instance (value : FloatValue) : Decidable value.Stretched :=
  match value with
  | .finite _ _ _ => inferInstanceAs (Decidable (_ ∧ _))
  | .nan | .infinite _ => .isFalse id

/-- **Numbers that are shown too long** for their converted text and the margin. -/
theorem FloatValue.stretched_iff {value : FloatValue} (h : FloatFormat.binary64.Holds value) :
    value.Stretched ↔ (Conversion.floatText .binary64 value).length + Frame.margin <
      (CellText.ofFloat value).length := by
  cases value with
  | nan => exact iff_of_false id (by decide)
  | infinite negative =>
    refine iff_of_false id ?_
    cases negative <;> decide
  | finite negative mantissa exponent =>
    have hshown : CellText.ofFloat (.finite negative mantissa exponent) =
        CellText.ofFinite negative mantissa exponent := by
      rw [CellText.ofFloat, FloatFormat.convert_of_holds h]
    rw [hshown]
    rcases Nat.eq_zero_or_pos mantissa with rfl | hm
    · refine iff_of_false (fun hstretched => hstretched.1 rfl) ?_
      have hzero : "0.0".length = 3 := by decide
      rw [length_ofFinite_zero, Conversion.floatText, if_pos rfl, String.length_append,
        length_signText, hzero]
      omega
    · obtain ⟨count, last, leading, hshape⟩ := exists_shape hm h
      have hsign : signLength negative ≤ 1 ∧ (signLength negative = 1 ↔ negative = true) := by
        cases negative <;> decide
      have hconverted := hshape.length_floatText negative
      have hlengths := (hshape.shownLength negative).stretched_iff hsign.1 hshape.count_pos
        hshape.cases
      have hcount : count ≤ 2 ↔ (shortest .binary64 .even mantissa exponent).digits < 100 := by
        rw [← hshape.length_eq .even]
        exact length_repr_le_iff (by decide)
      have htwo : count ≤ 1 ↔ (shortest .binary64 .even mantissa exponent).digits < 10 := by
        rw [← hshape.length_eq .even]
        exact length_repr_le_iff (by decide)
      rw [Stretched, hshape.pointPlace_eq, ← hsign.2]
      simp only [Frame.margin]
      omega

/-- `1e16` is shown as `1.0000e16`, but `1e15` converts to all of its digits. -/
example : FloatValue.Stretched (.finite false 5000000000000000 1) ∧
    ¬FloatValue.Stretched (.finite false 8000000000000000 (-3)) := by
  decide +kernel

end AttributeBrowser
