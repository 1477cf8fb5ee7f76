import AttributeBrowser.Frame.Conversion
import AttributeBrowser.Proofs.Frame.Decoding

/-!
# Cells converted to text

A column converts to text cell by cell (`ColumnCells.cast?`): there are as many texts as
cells, and each text depends on its own cell only.
-/

namespace AttributeBrowser

/-- The answers of a traversal, place by place. -/
theorem Frame.mapM_array_eq_ok_iff {ε α β : Type} {f : α → Except ε β} {xs : Array α}
    {ys : Array β} : xs.mapM f = .ok ys ↔ xs.size = ys.size ∧
      ∀ (place : Nat) (x : α) (y : β), xs[place]? = some x → ys[place]? = some y → f x = .ok y := by
  calc xs.mapM f = .ok ys
      ↔ xs.toList.mapM f = .ok ys.toList := by
        rw [Array.mapM_eq_mapM_toList]
        simp only [Functor.map, map_eq_ok_iff, ← Array.toList_inj, exists_eq_right]
    _ ↔ _ := by
        rw [mapM_eq_ok_iff, List.forall₂_iff_get]
        refine and_congr (by simp) (forall_congr' fun place => ?_)
        constructor
        · intro h x y hx hy
          obtain ⟨hxlt, rfl⟩ := Array.getElem?_eq_some_iff.mp hx
          obtain ⟨hylt, rfl⟩ := Array.getElem?_eq_some_iff.mp hy
          exact h hxlt hylt
        · intro h hx hy
          exact h _ _ (Array.getElem?_eq_getElem hx) (Array.getElem?_eq_getElem hy)

namespace ColumnCells

/-- The text that a cell converts to; none if it is empty or not there. -/
def cast? (cells : ColumnCells) (row : Nat) : Option String :=
  match cells with
  | .integers _ cells => cells[row]?.join.map Int.repr
  | .floats format cells => cells[row]?.join.map (Conversion.floatText format)
  | .booleans cells => cells[row]?.join.map CellText.ofBool
  | .texts cells => cells[row]?.join
  | .dates cells => cells[row]?.join.map CellText.ofDays
  | .binaries cells => cells[row]?.join.bind String.fromUTF8?
  | .others _ cells => cells[row]?.join.bind OtherValue.text?
  | .empties _ => none

theorem bytesText_eq {cell : Option ByteArray} {text : Option String}
    (h : Conversion.bytesText cell = .ok text) : text = cell.bind String.fromUTF8? := by
  cases cell with
  | none =>
    cases h
    rfl
  | some bytes =>
    simp only [Conversion.bytesText] at h
    split at h
    · cases h
      rw [Option.bind_some, ‹String.fromUTF8? bytes = _›]
    · cases h

theorem exists_text_of_bytesText {bytes : ByteArray} {text : Option String}
    (h : Conversion.bytesText (some bytes) = .ok text) :
    ∃ text, String.fromUTF8? bytes = some text := by
  cases htext : String.fromUTF8? bytes with
  | none => simp only [Conversion.bytesText, htext, reduceCtorEq] at h
  | some text => exact ⟨text, rfl⟩

theorem getElem?_map_join {α : Type} (cells : Array (Option α)) (convert : α → String)
    (row : Nat) : (cells.map (·.map convert))[row]?.join = cells[row]?.join.map convert := by
  rw [Array.getElem?_map, Option.join_map_eq_map_join]

theorem join_map_bind {α : Type} (stored : Option (Option α)) (convert : α → Option String) :
    (stored.map (·.bind convert)).join = stored.join.bind convert := by
  cases stored <;> rfl

/-- **Columns convert cell by cell.** -/
theorem toTexts_spec {cells : ColumnCells} {texts : Array (Option String)}
    (h : cells.toTexts = .ok texts) :
    texts.size = cells.size ∧ ∀ row : Nat, texts[row]?.join = cells.cast? row := by
  cases cells with
  | integers kind cells | floats format cells | booleans cells | dates cells =>
    cases h
    exact ⟨Array.size_map, getElem?_map_join cells _⟩
  | texts cells =>
    cases h
    exact ⟨rfl, fun _ => rfl⟩
  | binaries cells =>
    obtain ⟨hsize, hcells⟩ := Frame.mapM_array_eq_ok_iff.mp h
    refine ⟨hsize.symm, fun row => ?_⟩
    rcases Nat.lt_or_ge row cells.size with hrow | hrow
    · have hcell := Array.getElem?_eq_getElem hrow
      have htext := Array.getElem?_eq_getElem (hsize ▸ hrow)
      have heq := bytesText_eq (hcells row _ _ hcell htext)
      simp only [cast?, hcell, htext, Option.join_some, heq]
    · simp only [cast?, Array.getElem?_eq_none hrow, Array.getElem?_eq_none (hsize ▸ hrow),
        Option.join_none, Option.bind_none]
  | others kind cells =>
    simp only [toTexts] at h
    split at h
    · cases h
    · cases h
      exact ⟨Array.size_map, fun row => by rw [cast?, Array.getElem?_map, join_map_bind]⟩
  | empties count =>
    cases h
    refine ⟨Array.size_replicate, fun row => ?_⟩
    rw [Array.getElem?_replicate]
    split <;> rfl

/-- Bytes that convert are text. -/
theorem exists_text_of_toTexts {cells : Array (Option ByteArray)} {texts : Array (Option String)}
    (h : (binaries cells).toTexts = .ok texts) {row : Nat} {bytes : ByteArray}
    (hbytes : cells[row]? = some (some bytes)) : ∃ text, String.fromUTF8? bytes = some text := by
  obtain ⟨hsize, hcells⟩ := Frame.mapM_array_eq_ok_iff.mp h
  obtain ⟨hlt, -⟩ := Array.getElem?_eq_some_iff.mp hbytes
  exact exists_text_of_bytesText
    (hcells row _ _ hbytes (Array.getElem?_eq_getElem (hsize ▸ hlt)))

end ColumnCells

end AttributeBrowser
