import Mathlib.Data.List.Forall2
import AttributeBrowser.Table.View
import AttributeBrowser.Proofs.Table.RowNumbers

/-!
# Views: what is remembered

A view that remembers only what its source says (`Faithful`) answers every request
as its source would, whatever was asked before. `asks_sourceCell` says everything
one request can do; all else about requests, alone or one after the other, is drawn
from it. What is remembered stays remembered (`Extends`), and asking again for
cells that are remembered changes nothing.
-/

namespace AttributeBrowser

namespace Source

/-- The cells of the source can be laid out in a memo. -/
def FitsMemo (source : Source) : Prop :=
  source.rowCount * source.columnCount ≤ CellMemo.slotLimit

instance (source : Source) : Decidable source.FitsMemo := inferInstanceAs (Decidable (_ ≤ _))

/-- The text at a row and a *table* column, told without a memo or a store of row
numbers. -/
def textAt (source : Source) (row : Nat) : Nat → Except Fault String
  | 0 => .ok row.repr
  | column + 1 => (source.valueAt row column).map Cell.display

/-- A source of numbers, for examples: the hundreds tell the row and the rest tells
the column. -/
def grid (rows columns : Nat) : Source where
  rowCount := rows
  columnCount := columns
  valueAt row column := .ok (.number (row * 100 + column : Nat))
  columnName column := .ok ("n" ++ column.repr)
  columnType _ := .ok .number
  columnWidth _ := .ok 8

end Source

namespace TableView

/-- The cell remembered for a row and a column of the source. -/
def remembered (view : TableView) (row column : Nat) : Option Cell :=
  view.memo.bind (·.get? row column)

/-- The view remembers what its source says and nothing else. -/
structure Faithful (view : TableView) : Prop where
  sound : ∀ row column cell, view.remembered row column = some cell →
    view.source.valueAt row column = .ok cell
  sized : ∀ memo, view.memo = some memo → view.source.FitsMemo ∧
    memo.rows = view.source.rowCount ∧ memo.columns = view.source.columnCount

/-- `next` is a view of the same source that remembers at least as much. -/
structure Extends (view next : TableView) : Prop where
  source : next.source = view.source
  remembered : ∀ row column cell, view.remembered row column = some cell →
    next.remembered row column = some cell

theorem Extends.refl (view : TableView) : Extends view view := ⟨rfl, fun _ _ _ h => h⟩

theorem Extends.trans {first second third : TableView} (h : Extends first second)
    (h' : Extends second third) : Extends first third :=
  ⟨h'.source.trans h.source, fun row column cell hc =>
    h'.remembered _ _ _ (h.remembered row column cell hc)⟩

theorem Faithful.fresh (source : Source) : Faithful { source } where
  sound := by
    intro row column cell h
    simp [TableView.remembered] at h
  sized := by
    intro memo h
    cases h

/-! ## One request -/

theorem memoOrNew_eq_ok_iff {view : TableView} (h : Faithful view) :
    (∃ memo, memoOrNew view.source view.memo = .ok memo) ↔ view.source.FitsMemo := by
  cases hm : view.memo with
  | some memo =>
    have hfits := (h.sized memo hm).1
    simp [memoOrNew, hfits]
  | none =>
    simp only [memoOrNew, CellMemo.create_eq_ok_iff]
    constructor
    · rintro ⟨memo, hfits, -⟩
      exact hfits
    · intro hfits
      exact ⟨_, hfits, rfl⟩

/-- The memo that a request works on remembers what the view did. -/
theorem get?_memoOrNew {view : TableView} {memo : CellMemo}
    (hm : memoOrNew view.source view.memo = .ok memo) (row column : Nat) :
    memo.get? row column = view.remembered row column := by
  cases hv : view.memo with
  | some old =>
    rw [hv] at hm
    cases hm
    simp [remembered, hv]
  | none =>
    rw [hv] at hm
    rw [CellMemo.get?_create hm, remembered, hv]
    rfl

/-- Everything a request for a cell of the source can do: its answer and the view
after it. -/
inductive Asks (view : TableView) (row column : Nat) : Except Fault Cell → TableView → Prop
  /-- There is no room for a memo. -/
  | full {fault : Fault} (hmemo : memoOrNew view.source view.memo = .error fault) :
      Asks view row column (.error fault) view
  /-- The cell was computed before. -/
  | recalled {memo : CellMemo} {cell : Cell}
      (hmemo : memoOrNew view.source view.memo = .ok memo)
      (hget : memo.get? row column = some cell) :
      Asks view row column (.ok cell) { view with memo := some memo }
  /-- The source has no such cell. -/
  | refused {memo : CellMemo} {fault : Fault}
      (hmemo : memoOrNew view.source view.memo = .ok memo)
      (hget : memo.get? row column = none)
      (hvalue : view.source.valueAt row column = .error fault) :
      Asks view row column (.error fault)
        { view with memo := some memo, asked := (row, column) :: view.asked }
  /-- The source is asked, and the cell is remembered if it has a slot. -/
  | computed {memo : CellMemo} {cell : Cell}
      (hmemo : memoOrNew view.source view.memo = .ok memo)
      (hget : memo.get? row column = none)
      (hvalue : view.source.valueAt row column = .ok cell) :
      Asks view row column (.ok cell)
        { view with
          memo := some (memo.set row column cell)
          asked := (row, column) :: view.asked }

variable {view next : TableView} {row column : Nat} {result : Except Fault Cell} {cell : Cell}

theorem asks_sourceCell (view : TableView) (row column : Nat) :
    Asks view row column (view.sourceCell row column).1 (view.sourceCell row column).2 := by
  obtain ⟨source, store, asked⟩ := view
  cases hm : memoOrNew source store with
  | error fault =>
    simp only [sourceCell, hm]
    exact .full hm
  | ok memo =>
    cases hg : memo.get? row column with
    | some cell =>
      simp only [sourceCell, hm, hg]
      exact .recalled hm hg
    | none =>
      cases hv : source.valueAt row column with
      | error fault =>
        simp only [sourceCell, hm, hg, hv]
        exact .refused hm hg hv
      | ok cell =>
        simp only [sourceCell, hm, hg, hv]
        exact .computed hm hg hv

theorem Asks.of_eq (h : view.sourceCell row column = (result, next)) :
    Asks view row column result next := by
  have := asks_sourceCell view row column
  rwa [h] at this

/-- A request that can have a memo answers as the source does; without one it
answers nothing. -/
theorem Asks.answer (h : Asks view row column result next) (hf : Faithful view) :
    (view.source.FitsMemo → result = view.source.valueAt row column) ∧
      (¬view.source.FitsMemo → ∃ fault, result = .error fault) := by
  have hfits := memoOrNew_eq_ok_iff hf
  cases h with
  | full hm =>
    refine ⟨fun hyes => ?_, fun _ => ⟨_, rfl⟩⟩
    obtain ⟨memo, hok⟩ := hfits.mpr hyes
    rw [hm] at hok
    cases hok
  | recalled hm hg =>
    rw [get?_memoOrNew hm] at hg
    exact ⟨fun _ => (hf.sound _ _ _ hg).symm, fun hno => absurd (hfits.mp ⟨_, hm⟩) hno⟩
  | refused hm _ hv => exact ⟨fun _ => hv.symm, fun _ => ⟨_, rfl⟩⟩
  | computed hm _ hv => exact ⟨fun _ => hv.symm, fun hno => absurd (hfits.mp ⟨_, hm⟩) hno⟩

/-- What a view remembers whose memo was made for a request. -/
theorem remembered_some (source : Source) (memo : CellMemo) (asked : List (Nat × Nat)) :
    remembered ⟨source, some memo, asked⟩ = memo.get? := rfl

theorem Asks.extends (h : Asks view row column result next) : Extends view next := by
  cases h with
  | full _ => exact .refl view
  | recalled hm _ =>
    refine ⟨rfl, fun row' column' cell' hc => ?_⟩
    rwa [remembered_some, get?_memoOrNew hm]
  | refused hm _ _ =>
    refine ⟨rfl, fun row' column' cell' hc => ?_⟩
    rwa [remembered_some, get?_memoOrNew hm]
  | computed hm hg _ =>
    refine ⟨rfl, fun row' column' cell' hc => ?_⟩
    rw [remembered_some, CellMemo.get?_set, get?_memoOrNew hm, if_neg, hc]
    -- the place asked for was not remembered, so it is not this one
    rintro ⟨rfl, rfl, -, -⟩
    rw [get?_memoOrNew hm, hc] at hg
    cases hg

/-- The memo that a request works on has the size of the table. -/
theorem Faithful.memoOrNew_sized (hf : Faithful view) {memo : CellMemo}
    (hm : memoOrNew view.source view.memo = .ok memo) :
    view.source.FitsMemo ∧ memo.rows = view.source.rowCount ∧
      memo.columns = view.source.columnCount := by
  cases hv : view.memo with
  | some old =>
    rw [hv] at hm
    cases hm
    exact hf.sized _ hv
  | none =>
    rw [hv] at hm
    obtain ⟨hfits, rfl⟩ := CellMemo.create_eq_ok_iff.mp hm
    exact ⟨hfits, rfl, rfl⟩

theorem Asks.faithful (h : Asks view row column result next) (hf : Faithful view) :
    Faithful next := by
  cases h with
  | full _ => exact hf
  | recalled hm _ =>
    refine ⟨fun row' column' cell' hc => ?_, fun memo' hs => ?_⟩
    · rw [remembered_some, get?_memoOrNew hm] at hc
      exact hf.sound _ _ _ hc
    · cases hs
      exact hf.memoOrNew_sized hm
  | refused hm _ _ =>
    refine ⟨fun row' column' cell' hc => ?_, fun memo' hs => ?_⟩
    · rw [remembered_some, get?_memoOrNew hm] at hc
      exact hf.sound _ _ _ hc
    · cases hs
      exact hf.memoOrNew_sized hm
  | computed hm _ hv =>
    refine ⟨fun row' column' cell' hc => ?_, fun memo' hs => ?_⟩
    · rw [remembered_some, CellMemo.get?_set] at hc
      split at hc
      · rename_i hplace
        obtain ⟨rfl, rfl, -, -⟩ := hplace
        cases hc
        exact hv
      · rw [get?_memoOrNew hm] at hc
        exact hf.sound _ _ _ hc
    · cases hs
      simpa using hf.memoOrNew_sized hm

/-- An answered request for a cell of the table is remembered. -/
theorem Asks.recalls (h : Asks view row column (.ok cell) next) (hf : Faithful view)
    (hrow : row < view.source.rowCount) (hcolumn : column < view.source.columnCount) :
    next.remembered row column = some cell := by
  cases h with
  | recalled hm hg => exact hg
  | computed hm _ _ =>
    obtain ⟨-, hrows, hcolumns⟩ := hf.memoOrNew_sized hm
    rw [remembered_some, CellMemo.get?_set, if_pos ⟨rfl, rfl, by omega, by omega⟩]

/-- A request for a remembered cell changes nothing. -/
theorem sourceCell_of_remembered (h : view.remembered row column = some cell) :
    view.sourceCell row column = (.ok cell, view) := by
  obtain ⟨source, store, asked⟩ := view
  cases store with
  | none => simp [remembered] at h
  | some memo =>
    rw [remembered_some] at h
    simp [sourceCell, memoOrNew, h]

/-! ## Cells of the table -/

variable {numbers : RowNumbers}

/-- A request for a cell of the table keeps a faithful view faithful and forgets nothing. -/
theorem Faithful.after_cell (hf : Faithful view) (numbers : RowNumbers) (row column : Nat) :
    Faithful (view.cell numbers row column).2 ∧ Extends view (view.cell numbers row column).2 := by
  cases column with
  | zero => exact ⟨hf, .refl view⟩
  | succ column =>
    have h := asks_sourceCell view row column
    exact ⟨h.faithful hf, h.extends⟩

/-- The text of a cell that needs no asking: a row number, or a remembered cell. -/
def Holds (view : TableView) (numbers : RowNumbers) (row : Nat) : Nat → String → Prop
  | 0, text => text = numbers.text row
  | column + 1, text => ∃ cell, view.remembered row column = some cell ∧ text = cell.display

theorem Holds.extends {text : String} (h : view.Holds numbers row column text)
    (hx : Extends view next) : next.Holds numbers row column text := by
  cases column with
  | zero => exact h
  | succ column =>
    obtain ⟨cell, hc, ht⟩ := h
    exact ⟨cell, hx.remembered _ _ _ hc, ht⟩

/-- A held text is the one that the source has there. -/
theorem Holds.textAt {text : String} (h : view.Holds numbers row column text)
    (hf : Faithful view) (hn : numbers.Counting) (hrow : row < numbers.size) :
    view.source.textAt row column = .ok text := by
  cases column with
  | zero =>
    have ht : text = numbers.text row := h
    rw [ht, hn.text_eq, if_pos hrow]
    rfl
  | succ column =>
    obtain ⟨cell, hc, rfl⟩ := h
    simp only [Source.textAt, hf.sound _ _ _ hc]
    rfl

/-- What was answered is held afterwards, for every cell of the table. -/
theorem Faithful.holds_cell (hf : Faithful view)
    (h : view.cell numbers row column = (.ok cell, next))
    (hrow : row < view.source.rowCount) (hcolumn : column ≤ view.source.columnCount) :
    next.Holds numbers row column cell.display := by
  cases column with
  | zero =>
    cases h
    rfl
  | succ column => exact ⟨cell, (Asks.of_eq h).recalls hf hrow hcolumn, rfl⟩

theorem cell_of_holds {text : String} (h : view.Holds numbers row column text) :
    ∃ cell, view.cell numbers row column = (.ok cell, view) ∧ cell.display = text := by
  cases column with
  | zero => exact ⟨_, rfl, Eq.symm h⟩
  | succ column =>
    obtain ⟨cell, hc, rfl⟩ := h
    exact ⟨cell, sourceCell_of_remembered hc, rfl⟩

/-! ## Cells one after the other -/

/-- What single requests keep is kept by any number of them, also when they stop early. -/
theorem texts_keeps {P : TableView → Prop}
    (hcell : ∀ view row column, P view → P (view.cell numbers row column).2)
    (places : List (Nat × Nat)) (h : P view) : P (texts numbers places view).2 := by
  induction places generalizing view with
  | nil => exact h
  | cons place rest ih =>
    obtain ⟨row, column⟩ := place
    have hnext := hcell view row column h
    simp only [texts]
    split
    · rename_i hc
      rwa [hc] at hnext
    · rename_i hc
      rw [hc] at hnext
      have hrest := ih hnext
      split
      · rename_i ht
        rwa [ht] at hrest
      · rename_i ht
        rwa [ht] at hrest

/-- What answered requests for the places of `S` keep is kept by answering several of them. -/
theorem texts_keeps_of_ok {P : TableView → Prop} {S : Nat × Nat → Prop}
    (hcell : ∀ (view next : TableView) (row column : Nat) (cell : Cell), P view → S (row, column) →
      view.cell numbers row column = (.ok cell, next) → P next)
    {places : List (Nat × Nat)} {answers : List String} (h : P view)
    (htexts : texts numbers places view = (.ok answers, next)) (hin : ∀ place ∈ places, S place) :
    P next := by
  induction places generalizing view answers with
  | nil =>
    cases htexts
    exact h
  | cons place rest ih =>
    obtain ⟨row, column⟩ := place
    simp only [texts] at htexts
    split at htexts
    · cases htexts
    · rename_i cell middle hfirst
      have hmiddle := hcell view middle row column cell h (hin _ (by simp)) hfirst
      split at htexts
      · cases htexts
      · rename_i others last hrest
        cases htexts
        exact ih hmiddle hrest fun place hplace => hin place (by simp [hplace])

theorem rowTexts_keeps {P : TableView → Prop}
    (hcell : ∀ view row column, P view → P (view.cell numbers row column).2)
    (columns : Nat) (rows : List Nat) (h : P view) :
    P (rowTexts numbers columns rows view).2 := by
  induction rows generalizing view with
  | nil => exact h
  | cons row rest ih =>
    have hline := texts_keeps hcell ((List.range columns).map (row, ·)) h
    simp only [rowTexts]
    split
    · rename_i hc
      rwa [hc] at hline
    · rename_i hc
      rw [hc] at hline
      have hrest := ih hline
      split
      · rename_i ht
        rwa [ht] at hrest
      · rename_i ht
        rwa [ht] at hrest

/-- Asking for whole rows keeps a faithful view faithful and forgets nothing, also when
it stops early. -/
theorem Faithful.after_rowTexts (hf : Faithful view) (numbers : RowNumbers) (columns : Nat)
    (rows : List Nat) :
    Faithful (rowTexts numbers columns rows view).2 ∧
      Extends view (rowTexts numbers columns rows view).2 := by
  have hcell : ∀ (middle : TableView) (row column : Nat), Faithful middle ∧ Extends view middle →
      Faithful (middle.cell numbers row column).2 ∧
        Extends view (middle.cell numbers row column).2 := by
    intro middle row column ⟨hf', hx⟩
    obtain ⟨hf'', hx'⟩ := hf'.after_cell numbers row column
    exact ⟨hf'', hx.trans hx'⟩
  exact rowTexts_keeps (P := fun last => Faithful last ∧ Extends view last) hcell columns rows
    ⟨hf, .refl view⟩

/-- The texts answered are held afterwards. -/
theorem Faithful.holds_texts (hf : Faithful view) {places : List (Nat × Nat)}
    {answers : List String} (h : texts numbers places view = (.ok answers, next))
    (hin : ∀ place ∈ places,
      place.1 < view.source.rowCount ∧ place.2 ≤ view.source.columnCount) :
    Faithful next ∧ Extends view next ∧
      List.Forall₂ (fun place text => next.Holds numbers place.1 place.2 text) places answers := by
  induction places generalizing view answers with
  | nil =>
    cases h
    exact ⟨hf, .refl _, .nil⟩
  | cons place rest ih =>
    obtain ⟨row, column⟩ := place
    simp only [texts] at h
    split at h
    · cases h
    · rename_i cell middle hc
      obtain ⟨hf', hx⟩ := hf.after_cell numbers row column
      rw [hc] at hf' hx
      split at h
      · cases h
      · rename_i others last ht
        cases h
        have hhead := hin (row, column) (by simp)
        obtain ⟨hfn, hxn, hrest⟩ := ih hf' ht (by
          intro place hp
          rw [hx.source]
          exact hin place (by simp [hp]))
        have hholds := hf.holds_cell hc hhead.1 hhead.2
        -- what the first request left in the memo is still there after the others
        exact ⟨hfn, hx.trans hxn, .cons (hholds.extends hxn) hrest⟩

/-- Asking for held texts answers them and changes nothing. -/
theorem texts_of_holds {places : List (Nat × Nat)} {answers : List String}
    (h : List.Forall₂ (fun place text => view.Holds numbers place.1 place.2 text) places answers) :
    texts numbers places view = (.ok answers, view) := by
  induction h with
  | nil => rfl
  | cons hhead _ ih =>
    obtain ⟨cell, hc, rfl⟩ := cell_of_holds hhead
    simp only [texts, hc, ih]

end TableView

end AttributeBrowser
