import Mathlib.Data.List.Forall2
import AttributeBrowser.Text.Uppercase

/-!
# What has a plain capital form

Which texts have a given word of plain capital letters as their capital form. A plain
capital comes from itself and its small letter; beside these, only the dotless i and the
long s have one. A ligature becomes two or three letters, but none of these words has the
letters of one next to each other. So such a word is the capital form of the texts that
spell it letter by letter, and of no other.
-/

namespace AttributeBrowser

namespace Uppercase

variable {c capital : Char} {code : Nat} {text word : List Char}

/-- The capital letters of ASCII. -/
def plain : List Char :=
  ['A', 'B', 'C', 'D', 'E', 'F', 'G', 'H', 'I', 'J', 'K', 'L', 'M', 'N', 'O', 'P', 'Q', 'R', 'S',
    'T', 'U', 'V', 'W', 'X', 'Y', 'Z']

/-- The letters with a plain capital: itself, its small letter, and a third one for two of
them. -/
def lettersOf (capital : Char) : List Char :=
  [capital, capital.toLower] ++
    if capital = 'I' then ['ı'] else if capital = 'S' then ['ſ'] else []

/-- The plain capitals that ligatures begin with. -/
def pairs : List (Char × Char) := [('S', 'S'), ('F', 'F'), ('F', 'I'), ('F', 'L'), ('S', 'T')]

/-! ## One character -/

theorem eq_toNat_of_ofNat (hcapital : capital ∈ plain) (h : Char.ofNat code = capital) :
    code = capital.toNat := by
  have hzero : Char.ofNat 0 ∉ plain := by decide
  rw [← h] at hcapital ⊢
  by_cases hvalid : code.isValidChar
  · rw [Char.ofNat, dif_pos hvalid]
    rfl
  · rw [Char.ofNat, dif_neg hvalid] at hcapital
    exact absurd hcapital hzero

/-- Only three runs of the table lead to plain capitals. -/
theorem runs_plain : ∀ run ∈ runs.toList,
    0x5a < (run.1 : Int) + run.2.2.2 ∨ run = (0x61, 0x7a, 1, -32) ∨
      run = (0x131, 0x131, 1, -232) ∨ run = (0x17f, 0x17f, 1, -300) := by
  decide +kernel

/-- The codes whose single capital is a plain one. -/
theorem code_of_single (hcapital : single code = capital.toNat) (hlast : capital.toNat ≤ 0x5a) :
    code = capital.toNat ∨ code = capital.toNat + 32 ∨
      (code = 0x131 ∧ capital.toNat = 0x49) ∨ (code = 0x17f ∧ capital.toNat = 0x53) := by
  unfold single at hcapital
  split at hcapital
  · rename_i first last step way hfind
    have hmem := Array.mem_of_find?_eq_some hfind
    have hrun := Array.find?_some hfind
    simp only [Bool.and_eq_true, decide_eq_true_eq] at hrun
    rcases runs_plain _ (Array.mem_toList_iff.mpr hmem) with hfar | heq | heq | heq
    · simp only at hfar
      omega
    · cases heq
      omega
    · cases heq
      omega
    · cases heq
      omega
  · exact .inl hcapital

theorem toNat_of_mem_plain (hcapital : capital ∈ plain) :
    capital.toNat ≤ 0x5a ∧ capital.toLower.toNat = capital.toNat + 32 := by
  have hall : plain.all fun capital =>
      decide (capital.toNat ≤ 0x5a ∧ capital.toLower.toNat = capital.toNat + 32) := by decide
  exact of_decide_eq_true (List.all_eq_true.mp hall capital hcapital)

theorem mem_lettersOf_of_single (hcapital : capital ∈ plain)
    (h : Char.ofNat (single c.toNat) = capital) : c ∈ lettersOf capital := by
  obtain ⟨hlast, hlower⟩ := toNat_of_mem_plain hcapital
  have hcode := code_of_single (eq_toNat_of_ofNat hcapital h) hlast
  rw [← hlower] at hcode
  rcases hcode with heq | heq | ⟨heq, hi⟩ | ⟨heq, hs⟩
  · simp [lettersOf, Char.toNat_inj.mp heq]
  · simp [lettersOf, Char.toNat_inj.mp heq]
  · obtain rfl : capital = 'I' := Char.toNat_inj.mp hi
    obtain rfl : c = 'ı' := Char.toNat_inj.mp heq
    decide
  · obtain rfl : capital = 'S' := Char.toNat_inj.mp hs
    obtain rfl : c = 'ſ' := Char.toNat_inj.mp heq
    decide

/-- The tables are for small letters and what comes behind them. -/
theorem tables_begin : (∀ run ∈ runs.toList, 0x61 ≤ run.1) ∧
    ∀ entry ∈ several, 0x61 ≤ entry.1 := by
  decide +kernel

theorem ofChar_of_lt (h : c.toNat < 0x61) : ofChar c = [c] := by
  obtain ⟨hruns, hseveral⟩ := tables_begin
  have hlookup : several.lookup c.toNat = none := by
    rw [List.lookup_eq_none_iff]
    intro entry hentry
    have hbegin := hseveral entry hentry
    rw [bne_iff_ne]
    omega
  have hsingle : single c.toNat = c.toNat := by
    unfold single
    split
    · rename_i first last step way hfind
      have hbegin := hruns _ (Array.mem_toList_iff.mpr (Array.mem_of_find?_eq_some hfind))
      have hrun := Array.find?_some hfind
      simp only [Bool.and_eq_true, decide_eq_true_eq] at hbegin hrun
      omega
    · rfl
  simp only [ofChar, hlookup, hsingle, Char.ofNat_toNat]

theorem ofChar_toLower (hcapital : capital ∈ plain) : ofChar capital.toLower = [capital] := by
  have hall : plain.map (fun capital => ofChar capital.toLower) =
      plain.map fun capital => [capital] := by
    decide +kernel
  exact List.map_inj_left.mp hall capital hcapital

theorem ofChar_of_mem_lettersOf (hcapital : capital ∈ plain) (hc : c ∈ lettersOf capital) :
    ofChar c = [capital] := by
  obtain ⟨hlast, -⟩ := toNat_of_mem_plain hcapital
  rcases List.mem_append.mp hc with hc | hc
  · simp only [List.mem_cons, List.not_mem_nil, or_false] at hc
    rcases hc with rfl | rfl
    · exact ofChar_of_lt (by omega)
    · exact ofChar_toLower hcapital
  · split at hc
    · obtain rfl := List.mem_singleton.mp hc
      subst capital
      decide +kernel
    · split at hc
      · obtain rfl := List.mem_singleton.mp hc
        subst capital
        decide +kernel
      · cases hc

/-- Several letters, of which the first two are not both plain capitals unless a ligature
begins with them. -/
def AreSeveral : List Char → Prop
  | first :: second :: _ => first ∈ plain → second ∈ plain → (first, second) ∈ pairs
  | _ => False

instance : DecidablePred AreSeveral
  | [] => inferInstanceAs (Decidable False)
  | [_] => inferInstanceAs (Decidable False)
  | _ :: _ :: _ => inferInstanceAs (Decidable (_ → _ → _))

theorem areSeveral_several : ∀ entry ∈ several, AreSeveral (entry.2.map Char.ofNat) := by
  decide +kernel

theorem ofChar_cases (c : Char) :
    (∃ letter, ofChar c = [letter] ∧ (letter ∈ plain → c ∈ lettersOf letter)) ∨
      AreSeveral (ofChar c) := by
  unfold ofChar
  split
  · rename_i codes hlookup
    obtain ⟨before, after, hentries, -⟩ := List.lookup_eq_some_iff.mp hlookup
    right
    exact areSeveral_several (c.toNat, codes) (by rw [hentries]; simp)
  · left
    exact ⟨_, rfl, fun hplain => mem_lettersOf_of_single hplain rfl⟩

/-! ## Words -/

/-- The word has plain capitals only, and nowhere two that a ligature begins with. -/
def IsPlain (word : List Char) : Prop :=
  word ⊆ plain ∧ word.IsChain fun first second => (first, second) ∉ pairs

instance : DecidablePred IsPlain := fun _ => inferInstanceAs (Decidable (_ ∧ _))

theorem IsPlain.of_cons {letter : Char} (h : IsPlain (letter :: word)) :
    letter ∈ plain ∧ IsPlain word := by
  obtain ⟨hletters, hapart⟩ := h
  obtain ⟨hletter, hrest⟩ := List.cons_subset.mp hletters
  exact ⟨hletter, hrest, hapart.of_cons⟩

theorem AreSeveral.not_isPlain {letters rest : List Char} (h : AreSeveral letters) :
    ¬IsPlain (letters ++ rest) := by
  rintro ⟨hletters, hapart⟩
  rcases letters with _ | ⟨first, _ | ⟨second, others⟩⟩
  · exact h
  · exact h
  · have hpair := h (hletters (by simp)) (hletters (by simp))
    exact (List.isChain_cons_cons.mp hapart).1 hpair

/-- The text spells the word, letter by letter. -/
def Spells (text word : String) : Prop :=
  List.Forall₂ (fun c capital => c ∈ lettersOf capital) text.toList word.toList

theorem flatMap_ofChar_iff (hword : IsPlain word) : text.flatMap ofChar = word ↔
    List.Forall₂ (fun c capital => c ∈ lettersOf capital) text word := by
  constructor
  · intro h
    induction text generalizing word with
    | nil =>
      cases h
      exact .nil
    | cons c text ih =>
      rw [List.flatMap_cons] at h
      rcases ofChar_cases c with ⟨letter, hc, hletter⟩ | hseveral
      · rw [hc, List.singleton_append] at h
        rw [← h] at hword ⊢
        obtain ⟨hplain, hrest⟩ := hword.of_cons
        exact .cons (hletter hplain) (ih hrest rfl)
      · rw [← h] at hword
        exact absurd hword hseveral.not_isPlain
  · intro h
    induction h with
    | nil => rfl
    | cons hc hrest ih =>
      obtain ⟨hplain, hrest⟩ := hword.of_cons
      rw [List.flatMap_cons, ofChar_of_mem_lettersOf hplain hc, ih hrest]
      rfl

/-- **A plain word is the capital form** of the texts that spell it, and of no other. -/
theorem ofString_eq_iff {text word : String} (hword : IsPlain word.toList) :
    ofString text = word ↔ Spells text word := by
  rw [Spells, ← flatMap_ofChar_iff hword, ofString, ← String.toList_inj, String.toList_ofList]

end Uppercase

end AttributeBrowser
