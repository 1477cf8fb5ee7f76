import AttributeBrowser.Frame.CellText
import AttributeBrowser.Proofs.Number.DecimalText
import AttributeBrowser.Proofs.Number.DigitCount

/-!
# Lengths of written numbers

How many characters a decimal takes: with the point where it belongs, with a power of ten, or
with a fixed number of places.
-/

namespace AttributeBrowser

/-! ## Whole numbers -/

theorem length_repr_mono {m n : ℕ} (h : m ≤ n) : m.repr.length ≤ n.repr.length :=
  (length_repr_le_iff (length_repr_pos n)).mpr (h.trans_lt (lt_pow_length_repr n))

theorem length_repr_succ_le (n : ℕ) : (n + 1).repr.length ≤ n.repr.length + 1 := by
  rw [length_repr_le_iff (Nat.succ_pos _), pow_succ]
  have hlt := lt_pow_length_repr n
  omega

theorem length_intRepr (n : ℤ) :
    n.repr.length = (if n < 0 then 1 else 0) + n.natAbs.repr.length := by
  cases n with
  | ofNat n =>
    rw [if_neg (by simp), Nat.zero_add]
    rfl
  | negSucc n =>
    rw [if_pos (Int.negSucc_lt_zero n)]
    exact String.length_append "-" (n + 1).repr

theorem length_intRepr_succ_le (n : ℤ) : (n + 1).repr.length ≤ n.repr.length + 1 := by
  rw [length_intRepr, length_intRepr]
  rcases lt_or_ge n 0 with hn | hn
  · have hmono : (n + 1).natAbs.repr.length ≤ n.natAbs.repr.length := length_repr_mono (by omega)
    split <;> omega
  · have hsucc := length_repr_succ_le n.natAbs
    rw [show (n + 1).natAbs = n.natAbs + 1 by omega, if_neg (by omega), if_neg (by omega)]
    omega

/-- A number that is not negative has no sign. -/
theorem length_intRepr_le {n : ℤ} {digits : ℕ} (hn : 0 ≤ n) (h : n < 10 ^ digits)
    (hdigits : 0 < digits) : n.repr.length ≤ digits := by
  rw [length_intRepr, if_neg (by omega), Nat.zero_add, length_repr_le_iff hdigits]
  zify
  rwa [abs_of_nonneg hn]

namespace Decimal

@[simp] theorem length_zeros (n : ℕ) : (zeros n).length = n := by
  simp [zeros]

/-! ## Decimals -/

theorem length_pointed {digits : List Char} (h : digits ≠ []) :
    (pointed digits).length = if digits.length = 1 then 1 else digits.length + 1 := by
  match digits with
  | [] => exact absurd rfl h
  | [_] => rfl
  | _ :: _ :: _ => simp [pointed]

/-- The power of ten stands behind all digits, a point and a mark. -/
theorem length_scientificText (digits : ℕ) (exponent : ℤ) :
    (scientificText digits exponent).length =
      (if digits.repr.length = 1 then 1 else digits.repr.length + 1) + 1 +
        exponent.repr.length := by
  have hpos := length_repr_pos digits
  have hne : digits.repr.toList ≠ [] := by
    rw [← List.length_pos_iff, String.length_toList]
    exact hpos
  have hmark : "e".length = 1 := by decide
  rw [scientificText, String.length_append, String.length_append, String.length_ofList,
    length_pointed hne, String.length_toList, hmark]

/-- The length of all digits with the point among them. -/
theorem length_positional {d : Decimal}
    (hplace : d.pointPlace = d.digits.repr.length + d.exponent) :
    (d.positional.length : ℤ) = if 0 ≤ d.exponent then d.pointPlace
      else if 0 < d.pointPlace then d.digits.repr.length + 1 else 2 - d.exponent := by
  have hpoint : ".".length = 1 ∧ "0.".length = 2 := by decide
  unfold positional
  simp only
  split
  · rw [String.length_append, length_zeros, hplace]
    omega
  · split
    · simp only [String.length_append, String.length_ofList, List.length_take, List.length_drop,
        String.length_toList, hpoint.1]
      omega
    · rw [String.length_append, String.length_append, length_zeros, hpoint.2]
      omega

end Decimal

/-! ## Fixed places -/

open CalendarDate (padded)

theorem length_padded {length n : ℕ} (h : n < 10 ^ length) (hpos : 0 < length) :
    (padded length n).length = length := by
  have hle := (length_repr_le_iff hpos).mpr h
  rw [padded, String.length_append, Decimal.length_zeros]
  omega

namespace Decimal

/-- A number with places is its whole part and its padded fraction. -/
theorem fixed_eq {places num den : ℕ} (hplaces : 0 < places) : fixed places num den =
    (Rounding.halfEven (num * 10 ^ places) den / 10 ^ places).repr ++ "." ++
      padded places (Rounding.halfEven (num * 10 ^ places) den % 10 ^ places) := by
  unfold fixed padded
  simp only [if_neg hplaces.ne', Nat.pow_eq, String.append_assoc]

theorem length_fixed {places num den : ℕ} (hplaces : 0 < places) :
    (fixed places num den).length =
      (Rounding.halfEven (num * 10 ^ places) den / 10 ^ places).repr.length + 1 + places := by
  have hpoint : ".".length = 1 := by decide
  have hfraction := length_padded (Nat.mod_lt (Rounding.halfEven (num * 10 ^ places) den)
    (Nat.pow_pos (show 0 < 10 by decide))) hplaces
  rw [fixed_eq hplaces, String.length_append, String.length_append, hfraction, hpoint]

end Decimal

/-! ## Trailing zeros -/

theorem Decimal.zeros_add (m n : ℕ) :
    Decimal.zeros (m + n) = Decimal.zeros m ++ Decimal.zeros n := by
  rw [Decimal.zeros, ← List.replicate_append_replicate, String.ofList_append]
  rfl

/-- A factor of ten stands at the end as a zero. -/
theorem repr_mul_ten {n : ℕ} (hpos : 0 < n) : (n * 10).repr = n.repr ++ "0" := by
  apply String.toList_injective
  rw [String.toList_append, Nat.toList_repr, Nat.toList_repr,
    Nat.toDigits_of_base_le (by decide) (by omega), Nat.mul_div_cancel _ (by decide),
    Nat.mul_mod_left]
  rfl

theorem padded_mul_ten {length n : ℕ} (h : n < 10 ^ length) (hpos : 0 < length) :
    padded (length + 1) (n * 10) = padded length n ++ "0" := by
  rcases Nat.eq_zero_or_pos n with rfl | hn
  · obtain ⟨rest, rfl⟩ := Nat.exists_eq_succ_of_ne_zero hpos.ne'
    rw [Nat.zero_mul, padded, padded, show Nat.repr 0 = "0" by decide,
      show "0".length = 1 by decide, Nat.add_sub_cancel, Nat.succ_sub_one,
      Decimal.zeros_add rest 1]
    rfl
  · have hle := (length_repr_le_iff hpos).mpr h
    rw [padded, padded, repr_mul_ten hn, String.length_append, String.append_assoc,
      show "0".length = 1 by decide, Nat.add_sub_add_right]

theorem padded_mul_pow {length n : ℕ} (h : n < 10 ^ length) (hpos : 0 < length) (count : ℕ) :
    padded (length + count) (n * 10 ^ count) = padded length n ++ Decimal.zeros count := by
  induction count with
  | zero => simp [Decimal.zeros]
  | succ count ih =>
    have hlt : n * 10 ^ count < 10 ^ (length + count) := by
      rw [pow_add]
      exact Nat.mul_lt_mul_of_pos_right h (Nat.pow_pos (by decide))
    rw [← Nat.add_assoc, pow_succ, ← Nat.mul_assoc, padded_mul_ten hlt (by omega), ih,
      Decimal.zeros_add, String.append_assoc]
    rfl

/-- Zeros at the end are taken away, up to the first place. -/
theorem CellText.length_trimZeros_le (front : List Char) {places : List Char} (h : '.' ∉ places)
    (count : ℕ) :
    (trimZeros (String.ofList (front ++ '.' :: (places ++ List.replicate count '0')))).length ≤
      front.length + 1 + max 1 places.length := by
  have htrimmed : (front ++ '.' :: (places ++ List.replicate count '0')).reverse.dropWhile
      (· == '0') = (places.reverse ++ '.' :: front.reverse).dropWhile (· == '0') := by
    rw [List.reverse_append, List.reverse_cons, List.reverse_append, List.reverse_replicate,
      List.append_assoc, List.append_assoc, List.singleton_append, List.dropWhile_append_of_pos]
    simp
  unfold trimZeros
  simp only [String.toList_ofList, htrimmed, List.dropWhile_append]
  cases hrest : places.reverse.dropWhile (· == '0') with
  | nil =>
    -- nothing but zeros behind the point
    rw [List.isEmpty_nil, if_pos rfl, List.dropWhile_cons_of_neg (by decide)]
    change (String.ofList ('0' :: '.' :: front.reverse).reverse).length ≤ _
    rw [String.length_ofList, List.length_reverse, List.length_cons, List.length_cons,
      List.length_reverse]
    omega
  | cons last rest =>
    have hlast : last ∈ places := by
      refine List.mem_reverse.mp ((List.dropWhile_sublist (· == '0')).subset ?_)
      rw [hrest]
      exact List.mem_cons_self
    have hlength := (List.dropWhile_sublist (· == '0') (l := places.reverse)).length_le
    rw [hrest, List.length_reverse] at hlength
    rw [List.isEmpty_cons, if_neg (by decide), List.cons_append]
    split
    · rename_i heq
      cases heq
      exact absurd hlast h
    · simp only [String.length_ofList, List.length_reverse, List.length_cons, List.length_append]
      rw [List.length_cons] at hlength
      omega

theorem point_not_mem_padded (length n : ℕ) : '.' ∉ (padded length n).toList := by
  rw [padded, String.toList_append, List.mem_append, not_or, Decimal.zeros, String.toList_ofList]
  refine ⟨fun hmem => absurd (List.eq_of_mem_replicate hmem) (by decide), ?_⟩
  exact not_mem_repr (by decide) n

/-- **A fixed number of places** without the trailing zeros. -/
theorem CellText.length_trimZeros_fixed_le {kept dropped places num den : ℕ} (hkept : 0 < kept)
    (hplaces : kept + dropped = places)
    (hdvd : 10 ^ dropped ∣ Rounding.halfEven (num * 10 ^ places) den) :
    (trimZeros (Decimal.fixed places num den)).length ≤
      (Rounding.halfEven (num * 10 ^ places) den / 10 ^ places).repr.length + 1 + kept := by
  subst hplaces
  rw [Decimal.fixed_eq (by omega)]
  generalize Rounding.halfEven (num * 10 ^ (kept + dropped)) den = rounded at hdvd ⊢
  obtain ⟨rest, hrest⟩ : 10 ^ dropped ∣ rounded % 10 ^ (kept + dropped) :=
    (Nat.dvd_mod_iff (Nat.pow_dvd_pow 10 (Nat.le_add_left _ _))).mpr hdvd
  have hlt : rest < 10 ^ kept := by
    have hmod : rounded % 10 ^ (kept + dropped) < 10 ^ (kept + dropped) :=
      Nat.mod_lt _ (Nat.pow_pos (by decide))
    rw [hrest, pow_add, Nat.mul_comm] at hmod
    exact Nat.lt_of_mul_lt_mul_right hmod
  have htext : (rounded / 10 ^ (kept + dropped)).repr ++ "." ++
      padded (kept + dropped) (rounded % 10 ^ (kept + dropped)) =
      String.ofList ((rounded / 10 ^ (kept + dropped)).repr.toList ++
        '.' :: ((padded kept rest).toList ++ List.replicate dropped '0')) := by
    rw [hrest, Nat.mul_comm, padded_mul_pow hlt hkept]
    apply String.toList_injective
    simp [Decimal.zeros]
  have hlength := length_trimZeros_le (rounded / 10 ^ (kept + dropped)).repr.toList
    (point_not_mem_padded kept rest) dropped
  rw [String.length_toList, String.length_toList, length_padded hlt hkept] at hlength
  rw [htext]
  omega

end AttributeBrowser
