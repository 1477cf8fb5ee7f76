import AttributeBrowser.Proofs.Number.DecimalText
import AttributeBrowser.Proofs.Screen.LineTexts
import AttributeBrowser.Screen.Basic

/-!
# What the status line says

The pieces of the status line are written one behind the other as far as they fit: the name, the
position of the cursor, the message and the keys. So the position is read there, behind the name,
on every screen that is wide enough for both.
-/

namespace AttributeBrowser

namespace StatusLine

open Line

/-! ## Writing the pieces -/

/-- The graphemes of a text that a status line can show: those with places, and no more of them
than the line has. -/
def visible (width : Nat) (graphemes : List (String × Nat)) : List (String × Nat) :=
  graphemes.filter fun grapheme => ¬(grapheme.2 = 0 ∨ width < grapheme.2)

theorem visible_append (width : Nat) (first second : List (String × Nat)) :
    visible width (first ++ second) = visible width first ++ visible width second :=
  List.filter_append _ _

/-- Graphemes without their styles. -/
def bare (graphemes : List (String × Nat × Style)) : List (String × Nat) :=
  graphemes.map fun grapheme => (grapheme.1, grapheme.2.1)

variable {done : List Square} {last width : Nat} {read : String}

theorem filled_write (h : Filled done.reverse last read) (hwidth : done.length ≤ width)
    (graphemes : List (String × Nat × Style)) :
    ∃ front back last, Fits (width - done.length) (visible width (bare graphemes)) front back ∧
      Filled (write width done.length graphemes done).reverse last
        (read ++ String.join (front.map (·.1))) ∧
      (write width done.length graphemes done).length = done.length + places front := by
  induction graphemes generalizing done last read with
  | nil =>
    refine ⟨[], [], last, Fits.nil _, ?_, rfl⟩
    rw [List.map_nil, String.join_nil, String.append_empty]
    exact h
  | cons grapheme rest ih =>
    obtain ⟨symbol, size, style⟩ := grapheme
    rw [write]
    by_cases hskip : size = 0 ∨ width < size
    · have hvisible : visible width (bare ((symbol, size, style) :: rest)) =
          visible width (bare rest) := List.filter_cons_of_neg (by simp [hskip])
      rw [if_pos hskip, hvisible]
      exact ih h hwidth
    · have hvisible : visible width (bare ((symbol, size, style) :: rest)) =
          (symbol, size) :: visible width (bare rest) :=
        List.filter_cons_of_pos (by simp [hskip])
      rw [if_neg hskip, hvisible]
      split
      · rename_i hover
        refine ⟨[], _, last, Fits.nothing (by simp only; omega) _, ?_, rfl⟩
        rw [List.map_nil, String.join_nil, String.append_empty]
        exact h
      · rename_i hover
        have hmore := h.push { symbol := symbol, width := size, style := style }
          (show 0 < size by omega)
        have hlength : (blanks (size - 1) ++
            { symbol := symbol, width := size, style := style } :: done).length =
              done.length + size := by
          rw [List.length_append, blanks, List.length_replicate, List.length_cons]
          omega
        obtain ⟨front, back, last', hfits, hfilled, hcount⟩ :=
          ih hmore (Nat.le_trans (Nat.le_of_eq hlength) (by omega))
        rw [hlength] at hfits hfilled hcount
        refine ⟨(symbol, size) :: front, back, last', ?_, ?_, ?_⟩
        · refine Fits.cons ?_ (by simp only; omega)
          rwa [Nat.sub_sub]
        · rw [List.map_cons, String.join_cons, ← String.append_assoc]
          exact hfilled
        · rw [places_cons, ← Nat.add_assoc]
          exact hcount

/-- What a line of the given width can show: the name, the position of the cursor, the message
and the keys, one behind the other. -/
def graphemes (width : Nat) (window : Window) : List (String × Nat) :=
  visible width (Grapheme.drawn (" " ++ window.name ++ " ") ++
    (Grapheme.drawn (" " ++ position window ++ " ") ++
      (Grapheme.drawn (" " ++ window.message ++ " ") ++ Grapheme.drawn help)))

/-- **The status line reads** as the first graphemes of what it can show, as many as fit. -/
theorem text_line (width : Nat) (window : Window) :
    ∃ front back, Fits width (graphemes width window) front back ∧
      Line.text (line width window) =
        String.join (front.map (·.1)) ++ spaces (width - places front) := by
  simp only [line]
  generalize hstyled : (pieces window).flatMap _ = styled
  have hbare : visible width (bare styled) = graphemes width window := by
    rw [← hstyled, bare, List.map_flatMap]
    simp only [List.map_map, Function.comp_def, List.map_id', pieces, List.flatMap_cons,
      List.flatMap_nil, List.append_nil, graphemes]
  obtain ⟨front, back, last, hfits, hfilled, hlength⟩ :=
    filled_write filled_nil (Nat.zero_le width) styled
  simp only [List.length_nil, Nat.sub_zero, Nat.zero_add, String.empty_append, hbare]
    at hfits hfilled hlength
  have hle : (write width 0 styled []).reverse.length ≤ width := by
    rw [List.length_reverse, hlength]
    exact hfits.within
  exact ⟨front, back, hfits, by rw [hfilled.text_pad hle, List.length_reverse, hlength]⟩

theorem le_places_of_mem {grapheme : String × Nat} {graphemes : List (String × Nat)}
    (h : grapheme ∈ graphemes) : grapheme.2 ≤ places graphemes := by
  induction graphemes with
  | nil => cases h
  | cons first rest ih =>
    rw [places_cons]
    rcases List.mem_cons.mp h with rfl | h
    · exact Nat.le_add_right _ _
    · exact Nat.le_trans (ih h) (Nat.le_add_left _ _)

theorem places_filter_pos (graphemes : List (String × Nat)) :
    places (graphemes.filter (0 < ·.2)) = places graphemes := by
  induction graphemes with
  | nil => rfl
  | cons grapheme rest ih =>
    rw [List.filter_cons, places_cons]
    split
    · rw [places_cons, ih]
    · rename_i hzero
      simp only [decide_eq_true_eq] at hzero
      omega

/-- Of graphemes that fit, all with places can be shown. -/
theorem visible_of_places {graphemes : List (String × Nat)} (h : places graphemes ≤ width) :
    visible width graphemes = graphemes.filter (0 < ·.2) := by
  refine List.filter_congr fun grapheme hmem => ?_
  have hle := le_places_of_mem hmem
  rw [decide_eq_decide]
  omega

theorem isPrinted_of_mem_repr {c : Char} {n : Nat} (h : c ∈ n.repr.toList) :
    Grapheme.IsPrinted c := by
  have hdigit : c.isDigit = true := by
    cases hc : c.isDigit with
    | true => rfl
    | false => exact absurd h (not_mem_repr hc n)
  simp only [Char.isDigit, Bool.and_eq_true, decide_eq_true_eq, UInt32.le_iff_toNat_le] at hdigit
  have hbounds : 48 ≤ c.toNat ∧ c.toNat ≤ 57 := hdigit
  exact ⟨by omega, by omega⟩

theorem isPrinted_position {window : Window} {c : Char}
    (h : c ∈ (" " ++ position window ++ " ").toList) : Grapheme.IsPrinted c := by
  have hzero : Grapheme.IsPrinted '0' := ⟨by decide, by decide⟩
  have hslash : Grapheme.IsPrinted '/' := ⟨by decide, by decide⟩
  have hblank : ∀ c ∈ [' '], Grapheme.IsPrinted c :=
    List.forall_mem_singleton.mpr ⟨by decide, by decide⟩
  have hposition : ∀ c ∈ (position window).toList, Grapheme.IsPrinted c := by
    unfold position
    split
    · show ∀ c ∈ ['0', '/', '0'], Grapheme.IsPrinted c
      exact List.forall_mem_cons.mpr ⟨hzero, List.forall_mem_cons.mpr
        ⟨hslash, List.forall_mem_singleton.mpr hzero⟩⟩
    · intro c hc
      simp only [String.toList_append, List.mem_append] at hc
      rcases hc with (hc | hc) | hc
      · exact isPrinted_of_mem_repr hc
      · exact (List.forall_mem_singleton.mpr hslash : ∀ c ∈ ['/'], Grapheme.IsPrinted c) c hc
      · exact isPrinted_of_mem_repr hc
  simp only [String.toList_append, List.mem_append] at h
  rcases h with (h | h) | h
  · exact hblank c h
  · exact hposition c h
  · exact hblank c h

/-- **The status line says where the cursor is**, behind the name, if it is wide enough for
both. -/
theorem text_line_position {window : Window}
    (hwidth : places (Grapheme.drawn (" " ++ window.name ++ " ")) +
      (" " ++ position window ++ " ").length ≤ width) :
    ∃ rest, Line.text (line width window) =
      Grapheme.seen (" " ++ window.name ++ " ") ++ (" " ++ position window ++ " ") ++ rest := by
  have hprinted := @isPrinted_position window
  rw [← places_drawn_of_printed fun c => hprinted] at hwidth
  obtain ⟨front, back, hfits, htext⟩ := text_line width window
  rw [graphemes, visible_append, visible_append, ← List.append_assoc,
    visible_of_places (by omega), visible_of_places (by omega)] at hfits
  obtain ⟨more, rfl⟩ := hfits.exists_append (by
    rw [places_append, places_filter_pos, places_filter_pos]
    omega)
  have hposition := (Grapheme.IsWhole.of_printed fun c => hprinted).seen
  rw [List.map_append, List.map_append, String.join_append, String.join_append,
    String.append_assoc, ← Grapheme.seen, ← Grapheme.seen, hposition] at htext
  exact ⟨_, htext⟩

end StatusLine

end AttributeBrowser
