import Mathlib.Data.List.Count
import AttributeBrowser.Proofs.Table.View

/-!
# Views: how often the source is asked

The calls that a view makes to its source are told by the places that were wanted of it
and nothing else (`Counts`): a cell that the source has is asked for once, however
often it is wanted, and a place where the source has no cell each time. A view whose
cells cannot be laid out in a memo never asks. `Asks.asked_eq` says when one request
asks; all else is drawn from it.
-/

namespace AttributeBrowser

namespace Source

variable {source : Source} {place : Nat × Nat}

/-- The source has a cell at a row and a column of its own. -/
def HasCell (source : Source) (place : Nat × Nat) : Prop :=
  place.1 < source.rowCount ∧ place.2 < source.columnCount ∧
    (source.valueAt place.1 place.2).isOk = true

instance (source : Source) (place : Nat × Nat) : Decidable (source.HasCell place) :=
  inferInstanceAs (Decidable (_ ∧ _ ∧ _))

/-- How often a view asks its source for a place that is wanted so often. -/
def callsFor (source : Source) (place : Nat × Nat) (wanted : Nat) : Nat :=
  if ¬source.FitsMemo then 0
  else if source.HasCell place then min wanted 1
  else wanted

theorem callsFor_of_not_fitsMemo (h : ¬source.FitsMemo) (wanted : Nat) :
    source.callsFor place wanted = 0 := if_pos h

theorem callsFor_of_hasCell (hfits : source.FitsMemo) (h : source.HasCell place) (wanted : Nat) :
    source.callsFor place wanted = min wanted 1 := by
  rw [callsFor, if_neg (not_not_intro hfits), if_pos h]

theorem callsFor_of_not_hasCell (hfits : source.FitsMemo) (h : ¬source.HasCell place)
    (wanted : Nat) : source.callsFor place wanted = wanted := by
  rw [callsFor, if_neg (not_not_intro hfits), if_neg h]

/-- A place takes no more calls than it is wanted, and a cell that is there takes one at most. -/
theorem callsFor_le (source : Source) (place : Nat × Nat) (wanted : Nat) :
    source.callsFor place wanted ≤ wanted ∧
      (source.HasCell place → source.callsFor place wanted ≤ 1) := by
  unfold callsFor
  split
  · exact ⟨Nat.zero_le _, fun _ => Nat.zero_le 1⟩
  · split
    · exact ⟨Nat.min_le_left _ _, fun _ => Nat.min_le_right _ _⟩
    · rename_i hno
      exact ⟨Nat.le_refl _, fun hcell => absurd hcell hno⟩

/-- The places of the source that reading these places of its table comes to, up to the
first one that cannot be read. -/
def read (source : Source) : List (Nat × Nat) → List (Nat × Nat)
  | [] => []
  | (_, 0) :: places => source.read places
  | (row, column + 1) :: places =>
    (row, column) ::
      if source.FitsMemo ∧ (source.valueAt row column).isOk = true then source.read places else []

end Source

namespace TableView

variable {view next : TableView} {row column : Nat} {result : Except Fault Cell}
  {numbers : RowNumbers} {wanted : List (Nat × Nat)}

/-! ## One request -/

/-- **The source is asked for what is not remembered**, if there can be a memo. -/
theorem Asks.asked_eq (h : Asks view row column result next) (hf : Faithful view) :
    next.asked =
      if view.source.FitsMemo ∧ view.remembered row column = none then
        (row, column) :: view.asked
      else view.asked := by
  have hfits := memoOrNew_eq_ok_iff hf
  cases h with
  | full hm =>
    rw [if_neg]
    rintro ⟨hyes, -⟩
    obtain ⟨memo, hok⟩ := hfits.mpr hyes
    rw [hm] at hok
    cases hok
  | recalled hm hg =>
    rw [get?_memoOrNew hm] at hg
    rw [if_neg]
    rintro ⟨-, hnone⟩
    rw [hnone] at hg
    cases hg
  | refused hm hg _ =>
    rw [get?_memoOrNew hm] at hg
    rw [if_pos ⟨hfits.mp ⟨_, hm⟩, hg⟩]
  | computed hm hg _ =>
    rw [get?_memoOrNew hm] at hg
    rw [if_pos ⟨hfits.mp ⟨_, hm⟩, hg⟩]

/-- A request adds to what is remembered the cell asked for, if the source has it, and
nothing else. -/
theorem Asks.isSome_remembered (h : Asks view row column result next) (hf : Faithful view)
    (place : Nat × Nat) :
    (next.remembered place.1 place.2).isSome ↔
      (view.remembered place.1 place.2).isSome ∨
        view.source.FitsMemo ∧ view.source.HasCell (row, column) ∧ place = (row, column) := by
  cases h with
  | full hm =>
    have hfull : ¬view.source.FitsMemo := by
      intro hyes
      obtain ⟨memo, hok⟩ := (memoOrNew_eq_ok_iff hf).mpr hyes
      rw [hm] at hok
      cases hok
    simp [hfull]
  | recalled hm hg =>
    rw [remembered_some, get?_memoOrNew hm]
    rw [get?_memoOrNew hm] at hg
    constructor
    · exact .inl
    · rintro (hold | ⟨-, -, rfl⟩)
      · exact hold
      · rw [hg]
        rfl
  | refused hm _ hv =>
    rw [remembered_some, get?_memoOrNew hm]
    have hno : ¬view.source.HasCell (row, column) := by
      rintro ⟨-, -, hok⟩
      rw [hv] at hok
      cases hok
    simp [hno]
  | computed hm _ hv =>
    obtain ⟨hfits, hrows, hcolumns⟩ := hf.memoOrNew_sized hm
    rw [remembered_some, CellMemo.get?_set, get?_memoOrNew hm, hrows, hcolumns]
    have hcell : view.source.HasCell (row, column) ↔
        row < view.source.rowCount ∧ column < view.source.columnCount := by
      simp only [Source.HasCell, hv, Except.isOk, Except.toBool, and_true]
    obtain ⟨row', column'⟩ := place
    simp only [hcell, Prod.mk.injEq, hfits, true_and]
    split
    · rename_i hplace
      simp [hplace]
    · rename_i hplace
      constructor
      · exact .inl
      · rintro (hold | ⟨hin, heq⟩)
        · exact hold
        · exact absurd ⟨heq.1, heq.2, hin⟩ hplace

/-! ## Calls and places wanted -/

/-- The calls made and the cells remembered are those that the places wanted explain. -/
structure Counts (view : TableView) (wanted : List (Nat × Nat)) : Prop where
  calls : ∀ place, view.asked.count place = view.source.callsFor place (wanted.count place)
  remembered : ∀ place : Nat × Nat, (view.remembered place.1 place.2).isSome ↔
    view.source.FitsMemo ∧ view.source.HasCell place ∧ place ∈ wanted

theorem Counts.fresh (source : Source) : Counts { source } [] where
  calls := by
    intro place
    simp [Source.callsFor]
  remembered := by
    intro place
    simp [TableView.remembered]

/-- **One more place is wanted**, and the calls count it once, again or never. -/
theorem Counts.sourceCell (hc : Counts view wanted) (hf : Faithful view) (row column : Nat) :
    Counts (view.sourceCell row column).2 (wanted ++ [(row, column)]) := by
  have h := asks_sourceCell view row column
  have hsource := h.extends.source
  have hasked := h.asked_eq hf
  have hold := hc.remembered (row, column)
  constructor
  · intro place
    have hcalls := hc.calls place
    rw [hsource, hasked, List.count_append]
    by_cases hfits : view.source.FitsMemo
    · by_cases hplace : place = (row, column)
      · subst hplace
        rw [List.count_singleton_self]
        by_cases hcell : view.source.HasCell (row, column)
        · rw [Source.callsFor_of_hasCell hfits hcell] at hcalls ⊢
          by_cases hmem : (row, column) ∈ wanted
          · -- the cell is remembered from the first time it was wanted
            have hsome := hold.mpr ⟨hfits, hcell, hmem⟩
            have hpos := List.count_pos_iff.mpr hmem
            rw [if_neg (fun hask => by rw [hask.2] at hsome; cases hsome), hcalls]
            omega
          · have hnone : view.remembered row column = none :=
              Option.not_isSome_iff_eq_none.mp fun hsome => hmem (hold.mp hsome).2.2
            rw [if_pos ⟨hfits, hnone⟩, List.count_cons_self, hcalls, List.count_eq_zero.mpr hmem]
            rfl
        · rw [Source.callsFor_of_not_hasCell hfits hcell] at hcalls ⊢
          have hnone : view.remembered row column = none :=
            Option.not_isSome_iff_eq_none.mp fun hsome => hcell (hold.mp hsome).2.1
          rw [if_pos ⟨hfits, hnone⟩, List.count_cons_self, hcalls]
      · have hother : [(row, column)].count place = 0 :=
          List.count_eq_zero.mpr (by simpa using hplace)
        rw [hother, Nat.add_zero, ← hcalls]
        split
        · exact List.count_cons_of_ne (Ne.symm hplace)
        · rfl
    · rw [Source.callsFor_of_not_fitsMemo hfits] at hcalls ⊢
      rw [if_neg (fun hask => hfits hask.1), hcalls]
  · intro place
    rw [h.isSome_remembered hf, hc.remembered, hsource, List.mem_append, List.mem_singleton]
    constructor
    · rintro (⟨hfits, hcell, hmem⟩ | ⟨hfits, hcell, rfl⟩)
      · exact ⟨hfits, hcell, .inl hmem⟩
      · exact ⟨hfits, hcell, .inr rfl⟩
    · rintro ⟨hfits, hcell, hmem | rfl⟩
      · exact .inl ⟨hfits, hcell, hmem⟩
      · exact .inr ⟨hfits, hcell, rfl⟩

/-- A place of the table is wanted: a row number takes no call. -/
theorem Counts.cell (hc : Counts view wanted) (hf : Faithful view) (numbers : RowNumbers)
    (row column : Nat) :
    Counts (view.cell numbers row column).2 (wanted ++ view.source.read [(row, column)]) := by
  cases column with
  | zero =>
    rw [show view.source.read [(row, 0)] = [] from rfl, List.append_nil]
    exact hc
  | succ column =>
    have hread : view.source.read [(row, column + 1)] = [(row, column)] := by simp [Source.read]
    rw [hread]
    exact hc.sourceCell hf row column

/-! ## Requests one after the other -/

/-- A request for a cell of the source is answered if there can be a memo and the source
answers. -/
theorem Faithful.isOk_cell (hf : Faithful view) (numbers : RowNumbers) (row column : Nat) :
    (view.cell numbers row (column + 1)).1.isOk = true ↔
      view.source.FitsMemo ∧ (view.source.valueAt row column).isOk = true := by
  obtain ⟨hyes, hno⟩ := (asks_sourceCell view row column).answer hf
  simp only [cell]
  by_cases hfits : view.source.FitsMemo
  · rw [hyes hfits]
    simp [hfits]
  · obtain ⟨fault, hfault⟩ := hno hfits
    rw [hfault]
    simp [hfits, Except.isOk, Except.toBool]

theorem texts_cons (row column : Nat) (places : List (Nat × Nat)) (view : TableView) :
    (texts numbers ((row, column) :: places) view).2 =
      if (view.cell numbers row column).1.isOk then
        (texts numbers places (view.cell numbers row column).2).2
      else (view.cell numbers row column).2 := by
  rw [texts]
  rcases view.cell numbers row column with ⟨fault | cell, middle⟩
  · rfl
  · simp only [Except.isOk, Except.toBool, if_true]
    split <;> rename_i heq <;> rw [heq]

/-- The calls for several cells of a table are those for the places that reading them
comes to. -/
theorem Counts.texts (hc : Counts view wanted) (hf : Faithful view) (numbers : RowNumbers)
    (places : List (Nat × Nat)) :
    Counts (texts numbers places view).2 (wanted ++ view.source.read places) := by
  induction places generalizing view wanted with
  | nil => simpa only [TableView.texts, Source.read, List.append_nil] using hc
  | cons place rest ih =>
    obtain ⟨row, column⟩ := place
    rw [texts_cons]
    cases column with
    | zero => exact ih hc hf
    | succ column =>
      obtain ⟨hf', hx⟩ := hf.after_cell numbers row (column + 1)
      have hnext : Counts (view.cell numbers row (column + 1)).2 (wanted ++ [(row, column)]) :=
        hc.sourceCell hf row column
      simp only [Source.read, ← hf.isOk_cell numbers row column]
      by_cases hok : (view.cell numbers row (column + 1)).1.isOk = true
      · rw [if_pos hok, if_pos hok]
        have hrest := ih hnext hf'
        rwa [hx.source, List.append_assoc, List.singleton_append] at hrest
      · rw [if_neg hok, if_neg hok]
        exact hnext

theorem texts_append (first second : List (Nat × Nat)) (view : TableView) :
    texts numbers (first ++ second) view =
      match texts numbers first view with
      | (.error fault, middle) => (.error fault, middle)
      | (.ok answers, middle) =>
        match texts numbers second middle with
        | (.error fault, last) => (.error fault, last)
        | (.ok others, last) => (.ok (answers ++ others), last) := by
  induction first generalizing view with
  | nil =>
    simp only [List.nil_append, texts]
    rcases texts numbers second view with ⟨fault | others, last⟩ <;> rfl
  | cons place rest ih =>
    obtain ⟨row, column⟩ := place
    simp only [List.cons_append, texts]
    rcases view.cell numbers row column with ⟨fault | cell, middle⟩
    · rfl
    · simp only [ih middle]
      rcases texts numbers rest middle with ⟨fault | answers, later⟩
      · rfl
      · simp only
        rcases texts numbers second later with ⟨fault | others, last⟩ <;> rfl

/-- Whole rows are asked for cell by cell. -/
theorem rowTexts_eq_texts (columns : Nat) (rows : List Nat) (view : TableView) :
    (rowTexts numbers columns rows view).2 =
      (texts numbers (rows.flatMap fun row => (List.range columns).map (row, ·)) view).2 := by
  induction rows generalizing view with
  | nil => rfl
  | cons row rest ih =>
    rw [List.flatMap_cons, texts_append, rowTexts]
    rcases texts numbers ((List.range columns).map (row, ·)) view with ⟨fault | line, middle⟩
    · rfl
    · have hrest := ih middle
      simp only
      rcases hrows : rowTexts numbers columns rest middle with ⟨fault | lines, last⟩ <;>
        rcases hcells : texts numbers
          (rest.flatMap fun row => (List.range columns).map (row, ·)) middle
          with ⟨fault' | others, last'⟩ <;>
        rw [hrows, hcells] at hrest <;> exact hrest

end TableView

end AttributeBrowser
