import AttributeBrowser.Text.Grapheme

/-!
# What is drawn of a text

A text is cut into graphemes without losing a character, and of these only the ones with a
control character are not drawn. A text of printed characters is drawn character by character,
each in one place.
-/

namespace AttributeBrowser

namespace Grapheme

/-! ## Texts without control characters -/

theorem flatten_cutFrom (begun : List Char) (tail : Tail) (rest : List Char) :
    (cutFrom begun tail rest).flatten = begun.reverse ++ rest := by
  induction rest generalizing begun tail with
  | nil => simp [cutFrom]
  | cons c rest ih =>
    rw [cutFrom]
    split
    · rw [ih, List.reverse_cons, List.append_assoc, List.singleton_append]
    · rw [List.flatten_cons, ih, List.reverse_singleton, List.singleton_append]

/-- **Cutting a text keeps all its characters** in their order. -/
theorem flatten_cut (text : List Char) : (cut text).flatten = text := by
  cases text with
  | nil => rfl
  | cons c rest => exact flatten_cutFrom [c] _ rest

/-- No grapheme is left out of a text without control characters. -/
theorem drawn_eq_map {text : String} (h : ∀ c ∈ text.toList, isControl c = false) :
    drawn text = (cut text.toList).map fun grapheme =>
      (String.ofList grapheme, width grapheme) := by
  have hkept : ∀ grapheme ∈ cut text.toList, (!grapheme.any isControl) = true := by
    intro grapheme hgrapheme
    rw [Bool.not_eq_true', List.any_eq_false]
    intro c hc
    have hmem := List.mem_flatten.mpr ⟨grapheme, hgrapheme, hc⟩
    rw [flatten_cut] at hmem
    simp [h c hmem]
  rw [drawn, List.filter_eq_self.mpr hkept]

/-- **A text without control characters is drawn whole.** -/
theorem join_drawn {text : String} (h : ∀ c ∈ text.toList, isControl c = false) :
    String.join ((drawn text).map (·.1)) = text := by
  rw [← String.toList_inj, String.toList_join, drawn_eq_map h, List.map_map, List.flatMap_map]
  simp only [Function.comp_apply, String.toList_ofList, List.flatMap_id', flatten_cut]

/-- A text that is drawn whole, each grapheme in places of its own. -/
structure IsWhole (text : String) : Prop where
  controls : ∀ c ∈ text.toList, isControl c = false
  places : ∀ grapheme ∈ drawn text, 0 < grapheme.2

/-- What is seen of a text whose graphemes without places are left out. -/
def seen (text : String) : String := String.join (((drawn text).filter (0 < ·.2)).map (·.1))

theorem IsWhole.seen {text : String} (h : IsWhole text) : seen text = text := by
  rw [Grapheme.seen, List.filter_eq_self.mpr (by simpa using h.places), join_drawn h.controls]

/-! ## Printed characters -/

/-- A character with a picture of its own on every screen, or the blank. -/
def IsPrinted (c : Char) : Prop := 0x20 ≤ c.toNat ∧ c.toNat < 0x7f

instance (c : Char) : Decidable (IsPrinted c) := inferInstanceAs (Decidable (_ ∧ _))

theorem IsPrinted.role {c : Char} (h : IsPrinted c) : role c = .other := by
  obtain ⟨hlow, hhigh⟩ := h
  have hreturn : c ≠ '\r' := by
    rintro rfl
    exact absurd hlow (by decide)
  have hfeed : c ≠ '\n' := by
    rintro rfl
    exact absurd hlow (by decide)
  rw [Grapheme.role, if_neg hreturn, if_neg hfeed, if_neg (by omega), if_pos (by omega)]

theorem IsPrinted.isControl {c : Char} (h : IsPrinted c) : isControl c = false := by
  obtain ⟨hlow, hhigh⟩ := h
  simp only [Grapheme.isControl, Bool.or_eq_false_iff, decide_eq_false_iff_not,
    Bool.and_eq_false_iff]
  omega

/-- No printed character goes on with another one. -/
theorem cutFrom_of_printed {c : Char} {rest : List Char} (hc : IsPrinted c)
    (h : ∀ c ∈ rest, IsPrinted c) :
    cutFrom [c] (Tail.ofRole (role c)) rest = (c :: rest).map ([·]) := by
  induction rest generalizing c with
  | nil => rfl
  | cons next rest ih =>
    obtain ⟨hnext, hrest⟩ := List.forall_mem_cons.mp h
    have hapart : (Tail.ofRole (role c)).joins (role next) = false := by
      rw [hc.role, hnext.role]
      rfl
    rw [cutFrom, hapart, if_neg Bool.false_ne_true, ih hnext hrest]
    rfl

/-- **Printed characters are drawn one by one**, each in one place. -/
theorem drawn_of_printed {text : String} (h : ∀ c ∈ text.toList, IsPrinted c) :
    drawn text = text.toList.map fun c => (String.singleton c, 1) := by
  have hcut : cut text.toList = text.toList.map ([·]) := by
    cases htext : text.toList with
    | nil => rfl
    | cons c rest =>
      rw [htext] at h
      obtain ⟨hc, hrest⟩ := List.forall_mem_cons.mp h
      exact cutFrom_of_printed hc hrest
  rw [drawn_eq_map fun c hc => (h c hc).isControl, hcut, List.map_map]
  refine List.map_congr_left fun c hc => ?_
  obtain ⟨hlow, hhigh⟩ := h c hc
  have hwidth : width [c] = 1 := by
    rw [width, charWidth]
    exact if_pos ⟨hlow, hhigh⟩
  simp only [Function.comp_apply, hwidth, Prod.mk.injEq, and_true]
  rfl

theorem IsWhole.of_printed {text : String} (h : ∀ c ∈ text.toList, IsPrinted c) :
    IsWhole text where
  controls c hc := (h c hc).isControl
  places grapheme hgrapheme := by
    rw [drawn_of_printed h] at hgrapheme
    obtain ⟨c, -, rfl⟩ := List.mem_map.mp hgrapheme
    exact Nat.one_pos

end Grapheme

end AttributeBrowser
