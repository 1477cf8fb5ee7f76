import AttributeBrowser.Frame.Conversion
import AttributeBrowser.Proofs.Number.DecimalText

/-!
# Texts of one line

A text is `OneLine` if it has no line feed. Joining texts of one line makes one again, and
so all that is written of numbers, dates and bytes is one line, whatever the value.
-/

namespace AttributeBrowser

/-- The text has no line feed. -/
def OneLine (text : String) : Prop := '\n' ∉ text.toList

instance (text : String) : Decidable (OneLine text) := inferInstanceAs (Decidable (_ ∉ _))

@[simp] theorem oneLine_ofList {chars : List Char} :
    OneLine (String.ofList chars) ↔ '\n' ∉ chars := by
  rw [OneLine, String.toList_ofList]

@[simp] theorem oneLine_append {first second : String} :
    OneLine (first ++ second) ↔ OneLine first ∧ OneLine second := by
  simp only [OneLine, String.toList_append, List.mem_append, not_or]

/-- A part of a text of one line is one too. -/
theorem OneLine.of_subset {text : String} {chars : List Char} (h : OneLine text)
    (hsub : chars ⊆ text.toList) : OneLine (String.ofList chars) :=
  oneLine_ofList.mpr fun hmem => h (hsub hmem)

/-! ## Numbers -/

@[simp] theorem oneLine_natRepr (n : Nat) : OneLine n.repr := not_mem_repr (by decide) n

@[simp] theorem oneLine_intRepr (n : Int) : OneLine n.repr := by
  cases n with
  | ofNat n => exact oneLine_natRepr n
  | negSucc n => exact oneLine_append.mpr ⟨by decide, oneLine_natRepr (n + 1)⟩

namespace Decimal

@[simp] theorem oneLine_zeros (n : Nat) : OneLine (zeros n) := by
  simp [zeros]

theorem oneLine_positional (d : Decimal) : OneLine d.positional := by
  have hdigits := oneLine_natRepr d.digits
  unfold positional
  simp only
  split
  · simp
  · split
    · have htake := hdigits.of_subset (List.take_subset d.pointPlace.toNat _)
      have hdrop := hdigits.of_subset (List.drop_subset d.pointPlace.toNat _)
      exact oneLine_append.mpr ⟨oneLine_append.mpr ⟨htake, by decide⟩, hdrop⟩
    · simp only [oneLine_append, oneLine_zeros, hdigits, and_true]
      decide

/-- A point adds no line feed to digits. -/
theorem not_mem_pointed {digits : List Char} (h : '\n' ∉ digits) : '\n' ∉ pointed digits := by
  match digits with
  | [] => exact h
  | [_] => exact h
  | first :: second :: rest => simpa [pointed] using h

@[simp] theorem oneLine_scientificText (digits : Nat) (exponent : Int) :
    OneLine (scientificText digits exponent) := by
  have hdigits := oneLine_ofList.mpr (not_mem_pointed (oneLine_natRepr digits))
  exact oneLine_append.mpr ⟨oneLine_append.mpr ⟨hdigits, by decide⟩, oneLine_intRepr exponent⟩

theorem oneLine_scientific (d : Decimal) : OneLine d.scientific := by
  rw [scientific_eq]
  exact oneLine_scientificText _ _

theorem oneLine_scientificFixed (places num den : Nat) :
    OneLine (scientificFixed places num den) := by
  rw [scientificFixed_eq]
  exact oneLine_scientificText _ _

theorem oneLine_fixed (places num den : Nat) : OneLine (fixed places num den) := by
  unfold fixed
  simp only
  split
  · exact oneLine_natRepr _
  · simp only [oneLine_append, oneLine_natRepr, oneLine_zeros, and_true, true_and]
    decide

end Decimal

end AttributeBrowser
