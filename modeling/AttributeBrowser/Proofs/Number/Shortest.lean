import Mathlib.Tactic.LinearCombination
import AttributeBrowser.Number.Decimal
import AttributeBrowser.Proofs.Number.DigitCount

/-!
# The shortest digits

What reads back as a floating point number is an interval around it (`ReadsAs`). The shortest
digits are found on the coarsest grid of decimals that meets the interval, next to the number
(`found_shortest`). The tie between two decimals there does not move the grid
(`Found.exponent_eq`).
-/

namespace AttributeBrowser

namespace FloatFormat

variable {format : FloatFormat} {mantissa : ℕ} {exponent : ℤ} {x y : ℚ}

/-! ## What reads back -/

/-- The number below a power of two is half as far as the one above it. -/
def AtPower (format : FloatFormat) (mantissa : ℕ) (exponent : ℤ) : Prop :=
  mantissa = 2 ^ (format.precision - 1) ∧ format.minExponent < exponent

instance : Decidable (format.AtPower mantissa exponent) := inferInstanceAs (Decidable (_ ∧ _))

/-- Half way to the number below `mantissa * 2 ^ exponent`. -/
def lowest (format : FloatFormat) (mantissa : ℕ) (exponent : ℤ) : ℚ :=
  (mantissa - if format.AtPower mantissa exponent then 1 / 4 else 1 / 2) * 2 ^ exponent

/-- Half way to the number above `mantissa * 2 ^ exponent`. -/
def highest (mantissa : ℕ) (exponent : ℤ) : ℚ := (mantissa + 1 / 2) * 2 ^ exponent

/-- The number is read as `mantissa * 2 ^ exponent`: half way is if the mantissa is even. -/
def ReadsAs (format : FloatFormat) (mantissa : ℕ) (exponent : ℤ) (x : ℚ) : Prop :=
  if mantissa % 2 = 0 then format.lowest mantissa exponent ≤ x ∧ x ≤ highest mantissa exponent
  else format.lowest mantissa exponent < x ∧ x < highest mantissa exponent

theorem lowest_lt (format : FloatFormat) (mantissa : ℕ) (exponent : ℤ) :
    format.lowest mantissa exponent < mantissa * 2 ^ exponent := by
  have hpow : (0 : ℚ) < 2 ^ exponent := by positivity
  unfold lowest
  split <;> nlinarith

theorem lt_highest (mantissa : ℕ) (exponent : ℤ) :
    (mantissa * 2 ^ exponent : ℚ) < highest mantissa exponent := by
  have hpow : (0 : ℚ) < 2 ^ exponent := by positivity
  unfold highest
  linarith

theorem le_lowest (format : FloatFormat) (mantissa : ℕ) (exponent : ℤ) :
    (mantissa - 1 / 2) * 2 ^ exponent ≤ format.lowest mantissa exponent := by
  have hpow : (0 : ℚ) < 2 ^ exponent := by positivity
  unfold lowest
  split <;> nlinarith

theorem lowest_add_lt_highest (format : FloatFormat) (mantissa : ℕ) (exponent : ℤ) :
    format.lowest mantissa exponent + 3 / 4 * 2 ^ exponent ≤ highest mantissa exponent := by
  have hpow : (0 : ℚ) < 2 ^ exponent := by positivity
  unfold lowest highest
  split <;> nlinarith

theorem ReadsAs.bounds (h : format.ReadsAs mantissa exponent x) :
    format.lowest mantissa exponent ≤ x ∧ x ≤ highest mantissa exponent := by
  unfold ReadsAs at h
  split at h
  · exact h
  · exact ⟨h.1.le, h.2.le⟩

/-- What lies strictly between the bounds reads back. -/
theorem readsAs_of_lt (hlow : format.lowest mantissa exponent < x)
    (hhigh : x < highest mantissa exponent) : format.ReadsAs mantissa exponent x := by
  unfold ReadsAs
  split
  · exact ⟨hlow.le, hhigh.le⟩
  · exact ⟨hlow, hhigh⟩

/-- What lies between a number that reads back and the value does so too. -/
theorem ReadsAs.of_le (h : format.ReadsAs mantissa exponent x) (hxy : x ≤ y)
    (hy : y ≤ mantissa * 2 ^ exponent) : format.ReadsAs mantissa exponent y := by
  have hhigh := hy.trans_lt (lt_highest mantissa exponent)
  unfold ReadsAs at h ⊢
  split at h
  · rw [if_pos ‹_›]
    exact ⟨h.1.trans hxy, hhigh.le⟩
  · rw [if_neg ‹_›]
    exact ⟨h.1.trans_le hxy, hhigh⟩

theorem ReadsAs.of_ge (h : format.ReadsAs mantissa exponent x) (hyx : y ≤ x)
    (hy : mantissa * 2 ^ exponent ≤ y) : format.ReadsAs mantissa exponent y := by
  have hlow := (format.lowest_lt mantissa exponent).trans_le hy
  unfold ReadsAs at h ⊢
  split at h
  · rw [if_pos ‹_›]
    exact ⟨hlow.le, hyx.trans h.2⟩
  · rw [if_neg ‹_›]
    exact ⟨hlow, hyx.trans_lt h.2⟩

/-- A number that reads back is not farther away than half of the last binary digit. -/
theorem ReadsAs.abs_sub_le (h : format.ReadsAs mantissa exponent x) :
    |x - mantissa * 2 ^ exponent| ≤ 2 ^ exponent / 2 := by
  obtain ⟨hlow, hhigh⟩ := h.bounds
  have hle := format.le_lowest mantissa exponent
  unfold highest at hhigh
  rw [abs_le]
  constructor <;> linarith

/-- Zero is never read as another number. -/
theorem ReadsAs.pos (h : format.ReadsAs mantissa exponent x) (hm : 0 < mantissa) : 0 < x := by
  have hmantissa : (1 : ℚ) ≤ mantissa := by exact_mod_cast hm
  have hpow : (0 : ℚ) < 2 ^ exponent := by positivity
  have hlow := (format.le_lowest mantissa exponent).trans h.bounds.1
  nlinarith

end FloatFormat

/-! ## Grids -/

namespace Decimal

variable {format : FloatFormat} {mantissa : ℕ} {exponent place : ℤ} {tie : Tie}

/-- The number that a decimal is. -/
def value (d : Decimal) : ℚ := d.digits * 10 ^ d.exponent

/-- All numbers of a grid are over one denominator. -/
structure Grid.Over (grid : Grid) (format : FloatFormat) (mantissa : ℕ) (exponent place : ℤ)
    (den : ℚ) : Prop where
  pos : 0 < den
  step : (grid.step : ℚ) = den * 10 ^ place
  value : (grid.value : ℚ) = den * (mantissa * 2 ^ exponent)
  low : (grid.low : ℚ) = den * format.lowest mantissa exponent
  high : (grid.high : ℚ) = den * FloatFormat.highest mantissa exponent
  closed : grid.closed = decide (mantissa % 2 = 0)

/-- A unit divided by a power, over the denominator that `Rounding.scale` gives it. -/
theorem scale_one {base : ℕ} (hbase : 0 < base) (exponent : ℤ) :
    (0 : ℚ) < (Rounding.scale base 1 1 exponent).2 ∧
      ((Rounding.scale base 1 1 exponent).1 : ℚ) =
        (Rounding.scale base 1 1 exponent).2 * (base : ℚ) ^ (-exponent) := by
  have hden : (0 : ℚ) < (Rounding.scale base 1 1 exponent).2 :=
    Nat.cast_pos.mpr (Rounding.scale_snd_pos hbase 1 Nat.one_pos exponent)
  have hvalue := FloatValue.cast_scale hbase 1 1 exponent
  rw [div_eq_iff hden.ne', Nat.cast_one, div_one, one_div, ← zpow_neg, mul_comm] at hvalue
  exact ⟨hden, hvalue⟩

theorem Grid.exists_over (format : FloatFormat) (hm : 0 < mantissa) (exponent place : ℤ) :
    ∃ den, (Grid.at format mantissa exponent place).Over format mantissa exponent place den := by
  obtain ⟨hden, hunit⟩ := scale_one (show 0 < 2 by decide) (2 - exponent)
  obtain ⟨hones, htens⟩ := scale_one (show 0 < 10 by decide) (-place)
  have hpow : (2 : ℚ) ^ exponent = 4 * 2 ^ (-(2 - exponent)) := by
    rw [show (4 : ℚ) = 2 ^ (2 : ℤ) by norm_num, ← zpow_add₀ (by norm_num)]
    congr 1
    ring
  rw [neg_neg] at htens
  set unit := Rounding.scale 2 1 1 (2 - exponent) with hunit_def
  set tens := Rounding.scale 10 1 1 (-place) with htens_def
  have hfactor : ((unit.1 * tens.2 : ℕ) : ℚ) * 4 = unit.2 * tens.2 * 2 ^ exponent := by
    push_cast [hunit, hpow]
    ring
  have hmantissa : (1 : ℚ) ≤ mantissa := by exact_mod_cast hm
  have hlow : ((if format.AtPower mantissa exponent then 4 * mantissa - 1
      else 4 * mantissa - 2 : ℕ) : ℚ) = 4 * (mantissa - if format.AtPower mantissa exponent
        then 1 / 4 else 1 / 2) := by
    split
    · rw [Nat.cast_sub (by omega)]
      push_cast
      ring
    · rw [Nat.cast_sub (by omega)]
      push_cast
      ring
  refine ⟨unit.2 * tens.2, mul_pos hden hones, ?_, ?_, ?_, ?_, rfl⟩
  · change ((unit.2 * tens.1 : ℕ) : ℚ) = _
    push_cast [htens]
    ring
  · change ((4 * mantissa * (unit.1 * tens.2) : ℕ) : ℚ) = _
    rw [Nat.cast_mul]
    push_cast at hfactor ⊢
    linear_combination (mantissa : ℚ) * hfactor
  · change (((if format.AtPower mantissa exponent then 4 * mantissa - 1
      else 4 * mantissa - 2) * (unit.1 * tens.2) : ℕ) : ℚ) = _
    rw [Nat.cast_mul, hlow, FloatFormat.lowest]
    linear_combination (mantissa - if format.AtPower mantissa exponent
        then 1 / 4 else 1 / 2 : ℚ) * hfactor
  · change (((4 * mantissa + 2) * (unit.1 * tens.2) : ℕ) : ℚ) = _
    rw [Nat.cast_mul, FloatFormat.highest]
    push_cast at hfactor ⊢
    linear_combination (mantissa + 1 / 2 : ℚ) * hfactor

section Grid

/-- One of the two neighbours of the value that read back is taken, if there is one. -/
theorem Grid.nearest?_cases (grid : Grid) (tie : Tie) :
    (grid.nearest? tie = none ∧ grid.hits (grid.value / grid.step) = false ∧
      grid.hits (grid.value / grid.step + 1) = false) ∨
    ∃ digits, grid.nearest? tie = some digits ∧ grid.hits digits = true ∧
      (digits = grid.value / grid.step ∨ digits = grid.value / grid.step + 1) := by
  cases hbelow : grid.hits (grid.value / grid.step) with
  | false =>
    cases habove : grid.hits (grid.value / grid.step + 1) with
    | false => exact .inl ⟨by simp only [nearest?, hbelow, habove], rfl, rfl⟩
    | true => exact .inr ⟨_, by simp only [nearest?, hbelow, habove], habove, .inr rfl⟩
  | true =>
    cases habove : grid.hits (grid.value / grid.step + 1) with
    | false => exact .inr ⟨_, by simp only [nearest?, hbelow, habove], hbelow, .inl rfl⟩
    | true =>
      -- both read back, and either may be taken
      right
      simp only [nearest?, hbelow, habove]
      split
      · exact ⟨_, rfl, hbelow, .inl rfl⟩
      · split
        · exact ⟨_, rfl, habove, .inr rfl⟩
        · cases tie with
          | up => exact ⟨_, rfl, habove, .inr rfl⟩
          | even =>
            refine ⟨_, rfl, ?_⟩
            split
            · exact ⟨hbelow, .inl rfl⟩
            · exact ⟨habove, .inr rfl⟩

variable {grid : Grid} {den : ℚ} (h : grid.Over format mantissa exponent place den)

include h

theorem Grid.Over.hits_iff (count : ℕ) :
    grid.hits count = true ↔ format.ReadsAs mantissa exponent (count * 10 ^ place) := by
  have hpoint : ((count * grid.step : ℕ) : ℚ) = den * (count * 10 ^ place) := by
    push_cast [h.step]
    ring
  have hle : ∀ {m n : ℕ} {x y : ℚ}, (m : ℚ) = den * x → (n : ℚ) = den * y → (m ≤ n ↔ x ≤ y) := by
    intro m n x y hm hn
    rw [← Nat.cast_le (α := ℚ), hm, hn, mul_le_mul_iff_right₀ h.pos]
  have hlt : ∀ {m n : ℕ} {x y : ℚ}, (m : ℚ) = den * x → (n : ℚ) = den * y → (m < n ↔ x < y) := by
    intro m n x y hm hn
    rw [← Nat.cast_lt (α := ℚ), hm, hn, mul_lt_mul_iff_right₀ h.pos]
  simp only [Grid.hits, h.closed, FloatFormat.ReadsAs]
  by_cases heven : mantissa % 2 = 0
  · simp [heven, hle h.low hpoint, hle hpoint h.high]
  · simp [heven, hlt h.low hpoint, hlt hpoint h.high]

theorem Grid.Over.step_pos : 0 < grid.step := by
  have hpos : (0 : ℚ) < grid.step := by
    rw [h.step]
    exact mul_pos h.pos (by positivity)
  exact_mod_cast hpos

/-- The value lies between two neighbours of the grid. -/
theorem Grid.Over.between :
    ((grid.value / grid.step : ℕ) : ℚ) * 10 ^ place ≤ mantissa * 2 ^ exponent ∧
    (mantissa * 2 ^ exponent : ℚ) < ((grid.value / grid.step : ℕ) + 1) * 10 ^ place := by
  have hle : ((grid.value / grid.step * grid.step : ℕ) : ℚ) ≤ grid.value :=
    Nat.cast_le.mpr (Nat.div_mul_le_self _ _)
  have hlt : (grid.value : ℚ) < ((grid.value / grid.step + 1) * grid.step : ℕ) :=
    Nat.cast_lt.mpr (Nat.lt_mul_of_div_lt (Nat.lt_succ_self _) h.step_pos)
  push_cast [h.step, h.value] at hle hlt
  constructor
  · refine le_of_mul_le_mul_left ?_ h.pos
    linarith
  · refine lt_of_mul_lt_mul_left ?_ h.pos.le
    linarith

/-- If a number of the grid reads back, then so does a neighbour of the value. -/
theorem Grid.Over.hits_neighbour {count : ℕ} (hcount : grid.hits count = true) :
    grid.hits (grid.value / grid.step) = true ∨ grid.hits (grid.value / grid.step + 1) = true := by
  obtain ⟨hle, hlt⟩ := h.between
  have hten : (0 : ℚ) < 10 ^ place := by positivity
  rw [h.hits_iff] at hcount ⊢
  rw [h.hits_iff]
  by_cases hbelow : count ≤ grid.value / grid.step
  · left
    refine hcount.of_le ?_ hle
    exact mul_le_mul_of_nonneg_right (by exact_mod_cast hbelow) hten.le
  · right
    rw [Nat.cast_add_one]
    refine hcount.of_ge ?_ hlt.le
    exact mul_le_mul_of_nonneg_right (by exact_mod_cast Nat.lt_of_not_le hbelow) hten.le

/-- Nothing is found exactly if no number of the grid reads back. -/
theorem Grid.Over.nearest?_eq_none_iff (tie : Tie) : grid.nearest? tie = none ↔
    ∀ count : ℕ, ¬format.ReadsAs mantissa exponent (count * 10 ^ place) := by
  rcases grid.nearest?_cases tie with ⟨hnone, hbelow, habove⟩ | ⟨digits, hsome, hhit, -⟩
  · refine iff_of_true hnone fun count hcount => ?_
    rcases h.hits_neighbour ((h.hits_iff count).mpr hcount) with hhit | hhit
    · exact absurd (hhit.symm.trans hbelow) (by decide)
    · exact absurd (hhit.symm.trans habove) (by decide)
  · refine iff_of_false (by simp [hsome]) fun hnone => ?_
    exact hnone digits ((h.hits_iff digits).mp hhit)

/-- What is found reads back and is next to the value. -/
theorem Grid.Over.nearest?_eq_some {digits : ℕ} (hdigits : grid.nearest? tie = some digits) :
    format.ReadsAs mantissa exponent (digits * 10 ^ place) ∧
      (digits = grid.value / grid.step ∨ digits = grid.value / grid.step + 1) := by
  rcases grid.nearest?_cases tie with ⟨hnone, -, -⟩ | ⟨found, hsome, hhit, hnext⟩
  · cases hnone.symm.trans hdigits
  · cases hsome.symm.trans hdigits
    exact ⟨(h.hits_iff _).mp hhit, hnext⟩

end Grid

/-! ## The search -/

/-- The decimal reads back, no coarser grid from `first` down has a number that does, and it is
at most one step above the value. -/
structure Found (format : FloatFormat) (mantissa : ℕ) (exponent first : ℤ) (d : Decimal) :
    Prop where
  reads : format.ReadsAs mantissa exponent d.value
  le_first : d.exponent ≤ first
  coarsest : ∀ place, d.exponent < place → place ≤ first →
    ∀ count : ℕ, ¬format.ReadsAs mantissa exponent (count * 10 ^ place)
  near : ((d.digits : ℚ) - 1) * 10 ^ d.exponent ≤ mantissa * 2 ^ exponent

variable {first : ℤ}

/-- The search goes down by one place as long as no number of the grid reads back. -/
theorem found_search (hm : 0 < mantissa) (tie : Tie) {tries : ℕ} (hfirst : place ≤ first)
    (hcoarser : ∀ coarser, place < coarser → coarser ≤ first →
      ∀ count : ℕ, ¬format.ReadsAs mantissa exponent (count * 10 ^ coarser))
    (hreads : ∃ steps < tries, ∃ count : ℕ,
      format.ReadsAs mantissa exponent (count * 10 ^ (place - (steps : ℤ)))) :
    Found format mantissa exponent first (search format tie mantissa exponent tries place) := by
  induction tries generalizing place with
  | zero =>
    obtain ⟨steps, hsteps, -⟩ := hreads
    exact absurd hsteps (Nat.not_lt_zero steps)
  | succ tries ih =>
    obtain ⟨den, hover⟩ := Grid.exists_over format hm exponent place
    rw [search]
    split
    · rename_i digits hdigits
      obtain ⟨hread, hnext⟩ := hover.nearest?_eq_some hdigits
      obtain ⟨hle, -⟩ := hover.between
      have hten : (0 : ℚ) < 10 ^ place := by positivity
      refine ⟨hread, hfirst, hcoarser, ?_⟩
      rcases hnext with rfl | rfl
      · linarith
      · rw [Nat.cast_add_one, add_sub_cancel_right]
        exact hle
    · rename_i hnone
      have hhere := (hover.nearest?_eq_none_iff tie).mp hnone
      refine ih (by omega) (fun coarser hlt hle => ?_) ?_
      · rcases (show place ≤ coarser by omega).eq_or_lt with rfl | hlt
        · exact hhere
        · exact hcoarser coarser hlt hle
      · obtain ⟨steps, hsteps, count, hcount⟩ := hreads
        cases steps with
        | zero => exact absurd (by simpa using hcount) (hhere count)
        | succ steps =>
          refine ⟨steps, by omega, count, ?_⟩
          rwa [show place - 1 - (steps : ℤ) = place - ((steps + 1 : ℕ) : ℤ) by push_cast; ring]

/-- A grid that is fine enough has a number that reads back. -/
theorem exists_readsAs (hm : 0 < mantissa) (hfine : (10 : ℚ) ^ place < 3 / 4 * 2 ^ exponent) :
    ∃ count : ℕ, format.ReadsAs mantissa exponent (count * 10 ^ place) := by
  have hmantissa : (1 : ℚ) ≤ mantissa := by exact_mod_cast hm
  have hten : (0 : ℚ) < 10 ^ place := by positivity
  have hlowest : 0 ≤ format.lowest mantissa exponent := by
    refine le_trans ?_ (format.le_lowest mantissa exponent)
    exact mul_nonneg (by linarith) (by positivity)
  have hwide := format.lowest_add_lt_highest mantissa exponent
  refine ⟨⌊format.lowest mantissa exponent / 10 ^ place⌋₊ + 1, FloatFormat.readsAs_of_lt ?_ ?_⟩
  · rw [← div_lt_iff₀ hten, Nat.cast_add_one]
    exact Nat.lt_floor_add_one _
  · have hfloor := Nat.floor_le (div_nonneg hlowest hten.le)
    rw [le_div_iff₀ hten] at hfloor
    push_cast
    linarith

/-- As many places below the first digit as the number has binary digits are enough. -/
theorem fine_of_precision {precision : ℕ} {leading : ℤ} (hm : 0 < mantissa)
    (hprecision : mantissa < 2 ^ precision)
    (hleading : (10 : ℚ) ^ leading ≤ mantissa * 2 ^ exponent) :
    (10 : ℚ) ^ (leading - precision) < 3 / 4 * 2 ^ exponent := by
  have hpow : (0 : ℚ) < 2 ^ precision * 2 ^ exponent := by positivity
  have hne : precision ≠ 0 := by
    rintro rfl
    omega
  have hfive : (5 : ℚ) ≤ 5 ^ precision := le_self_pow₀ (by norm_num) hne
  have hten : (10 : ℚ) ^ precision = 5 ^ precision * 2 ^ precision := by
    rw [← mul_pow]
    norm_num
  have hvalue : (mantissa : ℚ) * 2 ^ exponent < 2 ^ precision * 2 ^ exponent :=
    mul_lt_mul_of_pos_right (by exact_mod_cast hprecision) (by positivity)
  rw [zpow_sub₀ (by norm_num), zpow_natCast, div_lt_iff₀ (by positivity), hten]
  nlinarith

/-- **The search for the shortest digits** comes to an end. -/
theorem found_shortest (hm : 0 < mantissa) (hprecision : mantissa < 2 ^ format.precision)
    (hleading : (10 : ℚ) ^ FloatValue.leadingPlace mantissa exponent ≤ mantissa * 2 ^ exponent)
    (tie : Tie) : Found format mantissa exponent (FloatValue.leadingPlace mantissa exponent + 1)
      (shortest format tie mantissa exponent) := by
  refine found_search hm tie le_rfl (fun coarser hlt hle => absurd hlt (not_lt.mpr hle)) ?_
  refine ⟨format.precision + 1, Nat.lt_succ_self _, exists_readsAs hm ?_⟩
  have hfine := fine_of_precision hm hprecision hleading
  rwa [Nat.cast_add_one, add_sub_add_right_eq_sub]

/-- The digits of a decimal of a known size. -/
theorem digits_of_value {d : Decimal} {count : ℕ}
    (hlow : (10 : ℚ) ^ (d.exponent + count) ≤ d.value)
    (hhigh : d.value < 10 ^ (d.exponent + count + 1)) :
    10 ^ count ≤ d.digits ∧ d.digits < 10 ^ (count + 1) := by
  have hten : (0 : ℚ) < 10 ^ d.exponent := by positivity
  rw [value, zpow_add₀ (by norm_num), mul_comm, mul_le_mul_iff_left₀ hten, zpow_natCast] at hlow
  rw [value, add_assoc, zpow_add₀ (by norm_num), mul_comm, mul_lt_mul_iff_right₀ hten,
    ← Nat.cast_add_one, zpow_natCast] at hhigh
  exact ⟨by exact_mod_cast hlow, by exact_mod_cast hhigh⟩

section Found

variable {leading : ℤ} {d : Decimal} (h : Found format mantissa exponent (leading + 1) d)
  (hm : 0 < mantissa) (hlow : (10 : ℚ) ^ leading ≤ mantissa * 2 ^ exponent)
  (hhigh : (mantissa * 2 ^ exponent : ℚ) < 10 ^ (leading + 1))

include h hm

theorem Found.digits_pos : 0 < d.digits := by
  have hpos := h.reads.pos hm
  rw [value] at hpos
  by_contra hzero
  rw [Nat.eq_zero_of_not_pos hzero, Nat.cast_zero, zero_mul] at hpos
  exact lt_irrefl _ hpos

include hlow hhigh

/-- **The size of the shortest decimal**: that of the number, or the power of ten above it. -/
theorem Found.cases : (d.digits = 1 ∧ d.exponent = leading + 1) ∨
    (d.exponent ≤ leading ∧ 10 ^ leading ≤ d.value ∧ d.value < 10 ^ (leading + 1)) := by
  have hpos := h.digits_pos hm
  have hten : (0 : ℚ) < 10 ^ d.exponent := by positivity
  -- a power of ten is on every finer grid
  have hpower : ∀ place, d.exponent < place → place ≤ leading + 1 →
      ¬format.ReadsAs mantissa exponent (10 ^ place) := by
    intro place hlt hle
    simpa using h.coarsest place hlt hle 1
  rcases h.le_first.eq_or_lt with heq | hlt
  · left
    have hnear := h.near.trans_lt hhigh
    rw [heq] at hnear
    have hone : (d.digits : ℚ) - 1 < 1 := by
      by_contra hnot
      exact absurd hnear (not_lt.mpr (le_mul_of_one_le_left (by positivity) (not_lt.mp hnot)))
    have hdigits : (d.digits : ℚ) < 2 := by linarith
    have hdigits' : d.digits < 2 := by exact_mod_cast hdigits
    exact ⟨by omega, heq⟩
  · right
    refine ⟨by omega, ?_, ?_⟩
    · by_contra hnot
      rcases (show d.exponent ≤ leading by omega).eq_or_lt with heq | hfiner
      · refine hnot ?_
        rw [value, ← heq]
        exact le_mul_of_one_le_left hten.le (by exact_mod_cast hpos)
      · exact hpower leading hfiner (by omega) (h.reads.of_le (not_le.mp hnot).le hlow)
    · by_contra hnot
      exact hpower (leading + 1) hlt le_rfl (h.reads.of_ge (not_lt.mp hnot) hhigh.le)

/-- **The number of digits** is told by the places of the first and the last one. -/
theorem Found.length_digits : (d.digits.repr.length : ℤ) =
    if d.exponent ≤ leading then leading + 1 - d.exponent else 1 := by
  rcases h.cases hm hlow hhigh with ⟨hone, hexponent⟩ | ⟨hle, hbelow, habove⟩
  · rw [hone, if_neg (by omega)]
    rfl
  · obtain ⟨count, rfl⟩ := Int.le.dest hle
    rw [if_pos hle, (length_repr_eq_iff (h.digits_pos hm)).mpr (digits_of_value hbelow habove)]
    push_cast
    ring

/-- There are not many more decimal digits than the format has binary ones. -/
theorem Found.length_le (hprecision : mantissa < 2 ^ format.precision) :
    d.digits.repr.length ≤ format.precision + 1 := by
  have hlength := h.length_digits hm hlow hhigh
  split at hlength
  · have hcoarse : (3 / 4 * 2 ^ exponent : ℚ) ≤ 10 ^ (d.exponent + 1) := by
      by_contra hnot
      obtain ⟨count, hcount⟩ := exists_readsAs hm (not_le.mp hnot)
      exact h.coarsest _ (by omega) (by omega) count hcount
    have hplaces : leading - format.precision < d.exponent + 1 :=
      (zpow_lt_zpow_iff_right₀ (by norm_num)).mp
        ((fine_of_precision hm hprecision hlow).trans_le hcoarse)
    omega
  · omega

/-- The point stands behind the first digit of the number, or of the power of ten above it. -/
theorem Found.pointPlace_eq (hprecision : mantissa < 2 ^ format.precision)
    (hformat : format.precision ≤ 200) :
    d.pointPlace = d.digits.repr.length + d.exponent := by
  have hpos := h.digits_pos hm
  have hlength := h.length_le hm hlow hhigh hprecision
  have hlog : d.digits.log2 < 1100 := by
    rw [Nat.log2_lt hpos.ne']
    calc d.digits < 10 ^ d.digits.repr.length := lt_pow_length_repr _
      _ ≤ (2 ^ 4) ^ d.digits.repr.length := Nat.pow_le_pow_left (by decide) _
      _ = 2 ^ (4 * d.digits.repr.length) := (pow_mul 2 4 _).symm
      _ ≤ 2 ^ 1100 := Nat.pow_le_pow_right (by decide) (by omega)
  rw [pointPlace, Rounding.digitCount_eq_length hpos hlog]

end Found

/-- The grid is the same for every tie. -/
theorem Found.exponent_eq {d other : Decimal} (h : Found format mantissa exponent first d)
    (hother : Found format mantissa exponent first other) : d.exponent = other.exponent := by
  rcases lt_trichotomy d.exponent other.exponent with hlt | heq | hlt
  · exact absurd hother.reads (h.coarsest _ hlt hother.le_first _)
  · exact heq
  · exact absurd h.reads (hother.coarsest _ hlt h.le_first _)

end Decimal

end AttributeBrowser
