import AttributeBrowser.Proofs.Viewer.Ready

/-!
# What is remembered does not show

A table asks its source for a cell once and remembers it, so two tables of one source may
remember different cells. Nothing of this shows: two viewers that agree in all but what
their tables remember (`Alike`) stop at the same requests, and show the same window
wherever their rows are moved.
-/

namespace AttributeBrowser

/-- Two steps both fault, or both answer, and then with answers that are related. -/
inductive Matched {α β : Type} (R : α → β → Prop) : Except Fault α → Except Fault β → Prop
  | faults {fault other : Fault} : Matched R (.error fault) (.error other)
  | answers {a : α} {b : β} (h : R a b) : Matched R (.ok a) (.ok b)

namespace Matched

variable {α β γ δ : Type} {R : α → β → Prop} {S : γ → δ → Prop}

theorem refl (x : Except Fault α) : Matched Eq x x := by
  cases x with
  | error fault => exact .faults
  | ok a => exact .answers rfl

/-- Steps that are matched go on to matched steps. -/
theorem bind {x : Except Fault α} {y : Except Fault β} {f : α → Except Fault γ}
    {g : β → Except Fault δ} (h : Matched R x y) (hnext : ∀ a b, R a b → Matched S (f a) (g b)) :
    Matched S (x >>= f) (y >>= g) := by
  cases h with
  | faults => exact .faults
  | answers h => exact hnext _ _ h

/-- Of two matched steps, one answers if the other does. -/
theorem exists_of_ok {y : Except Fault β} {a : α} (h : Matched R (.ok a) y) :
    ∃ b, y = .ok b ∧ R a b := by
  cases h with
  | answers h => exact ⟨_, rfl, h⟩

theorem exists_of_ok_right {x : Except Fault α} {b : β} (h : Matched R x (.ok b)) :
    ∃ a, x = .ok a ∧ R a b := by
  cases h with
  | answers h => exact ⟨_, rfl, h⟩

/-- Steps with the same answers are matched alike. -/
theorem congr {x x' : Except Fault α} {y y' : Except Fault β} (h : Matched R x y)
    (hx : ∀ a, x' = .ok a ↔ x = .ok a) (hy : ∀ b, y' = .ok b ↔ y = .ok b) : Matched R x' y' := by
  cases h with
  | faults =>
    cases x' with
    | ok a => cases (hx a).mp rfl
    | error fault =>
      cases y' with
      | ok b => cases (hy b).mp rfl
      | error other => exact .faults
  | answers h =>
    obtain rfl := (hx _).mpr rfl
    obtain rfl := (hy _).mpr rfl
    exact .answers h

/-- Steps are matched if each answers whenever the other does, and the one that is looked at
first has a related answer. -/
theorem of_answers {x : Except Fault α} {y : Except Fault β}
    (h : ∀ a, x = .ok a → ∃ b, y = .ok b ∧ R a b) (hback : (∃ b, y = .ok b) → ∃ a, x = .ok a) :
    Matched R x y := by
  cases x with
  | ok a =>
    obtain ⟨b, rfl, hrel⟩ := h a rfl
    exact .answers hrel
  | error fault =>
    cases y with
    | error other => exact .faults
    | ok b =>
      obtain ⟨a, ha⟩ := hback ⟨b, rfl⟩
      cases ha

end Matched

/-! ## Tables -/

namespace TableView

variable {view other : TableView} {numbers : RowNumbers}

/-- Two tables of one source, each of which remembers only what the source says. -/
structure Twins (view other : TableView) : Prop where
  source : other.source = view.source
  left : view.Faithful
  right : other.Faithful

theorem Faithful.twins (h : view.Faithful) : Twins view view := ⟨rfl, h, h⟩

theorem Twins.trans {third : TableView} (h : Twins view other) (h' : Twins other third) :
    Twins view third :=
  ⟨h'.source.trans h.source, h.left, h'.right⟩

/-- Twins answer alike, and are twins again afterwards. -/
theorem Twins.cell (h : Twins view other) (numbers : RowNumbers) (row column : Nat) :
    Matched Eq (view.cell numbers row column).1 (other.cell numbers row column).1 ∧
      Twins (view.cell numbers row column).2 (other.cell numbers row column).2 := by
  obtain ⟨hsource, hleft, hright⟩ := h
  obtain ⟨hleft', hx⟩ := hleft.after_cell numbers row column
  obtain ⟨hright', hx'⟩ := hright.after_cell numbers row column
  refine ⟨?_, hx'.source.trans (hsource.trans hx.source.symm), hleft', hright'⟩
  cases column with
  | zero => exact .answers rfl
  | succ column =>
    obtain ⟨hasked, hfull⟩ := (asks_sourceCell view row column).answer hleft
    obtain ⟨hasked', hfull'⟩ := (asks_sourceCell other row column).answer hright
    rw [hsource] at hasked' hfull'
    by_cases hfits : view.source.FitsMemo
    · simp only [TableView.cell, hasked hfits, hasked' hfits]
      exact .refl _
    · obtain ⟨fault, hfault⟩ := hfull hfits
      obtain ⟨fault', hfault'⟩ := hfull' hfits
      simp only [TableView.cell, hfault, hfault']
      exact .faults

theorem Twins.texts (h : Twins view other) (numbers : RowNumbers) (places : List (Nat × Nat)) :
    Matched Eq (texts numbers places view).1 (texts numbers places other).1 ∧
      Twins (texts numbers places view).2 (texts numbers places other).2 := by
  induction places generalizing view other with
  | nil => exact ⟨.answers rfl, h⟩
  | cons place rest ih =>
    obtain ⟨row, column⟩ := place
    obtain ⟨hcell, hnext⟩ := h.cell numbers row column
    simp only [TableView.texts]
    generalize view.cell numbers row column = first at hcell hnext ⊢
    generalize other.cell numbers row column = second at hcell hnext ⊢
    obtain ⟨answer, middle⟩ := first
    obtain ⟨answer', middle'⟩ := second
    cases hcell with
    | faults => exact ⟨.faults, hnext⟩
    | answers heq =>
      cases heq
      obtain ⟨hrest, hlast⟩ := ih hnext
      simp only
      generalize TableView.texts numbers rest middle = third at hrest hlast ⊢
      generalize TableView.texts numbers rest middle' = fourth at hrest hlast ⊢
      obtain ⟨answers, last⟩ := third
      obtain ⟨answers', last'⟩ := fourth
      cases hrest with
      | faults => exact ⟨.faults, hlast⟩
      | answers heq =>
        cases heq
        exact ⟨.answers rfl, hlast⟩

theorem columnName_congr (h : other.source = view.source) (column : Nat) :
    other.columnName column = view.columnName column := by
  cases column with
  | zero => rfl
  | succ column => simp only [columnName, h]

theorem columnType_congr (h : other.source = view.source) (column : Nat) :
    other.columnType column = view.columnType column := by
  cases column with
  | zero => rfl
  | succ column => simp only [columnType, h]

end TableView

namespace Viewer

open TableView (Twins)

variable {view other : TableView} {numbers : RowNumbers}

/-! ## Windows -/

/-- The same columns are shown, and what is left are twins. -/
def ShowsSame {α : Type} (first second : α × TableView) : Prop :=
  first.1 = second.1 ∧ Twins first.2 second.2

theorem showColumn_matched (h : Twins view other) (numbers : RowNumbers) (rows : List Nat)
    (column : Nat) :
    Matched ShowsSame (showColumn numbers rows view column)
      (showColumn numbers rows other column) := by
  obtain ⟨htexts, hnext⟩ := h.texts numbers (rows.map (·, column))
  simp only [showColumn]
  generalize view.texts numbers (rows.map (·, column)) = first at htexts hnext ⊢
  generalize other.texts numbers (rows.map (·, column)) = second at htexts hnext ⊢
  obtain ⟨answer, table⟩ := first
  obtain ⟨answer', table'⟩ := second
  cases htexts with
  | faults => exact .faults
  | answers heq =>
    cases heq
    have hwidth : table'.columnWidth column = table.columnWidth column :=
      congrArg (Source.columnWidth · column) hnext.source
    simp only [TableView.columnName_congr hnext.source, hwidth,
      TableView.columnType_congr hnext.source]
    refine (Matched.refl _).bind ?_
    rintro name _ rfl
    refine (Matched.refl _).bind ?_
    rintro width _ rfl
    refine (Matched.refl _).bind ?_
    rintro type _ rfl
    exact .answers ⟨rfl, hnext⟩

theorem showColumns_matched (h : Twins view other) (numbers : RowNumbers)
    (rows columns : List Nat) :
    Matched ShowsSame (showColumns numbers rows columns view)
      (showColumns numbers rows columns other) := by
  induction columns generalizing view other with
  | nil => exact .answers ⟨rfl, h⟩
  | cons column rest ih =>
    refine (showColumn_matched h numbers rows column).bind ?_
    rintro ⟨first, middle⟩ ⟨_, middle'⟩ ⟨rfl, hmiddle⟩
    refine (ih hmiddle).bind ?_
    rintro ⟨others, last⟩ ⟨_, last'⟩ ⟨rfl, hlast⟩
    exact .answers ⟨rfl, hlast⟩

/-! ## Viewers -/

/-- Two viewers that differ in nothing but what their tables remember. -/
structure Alike (viewer other : Viewer) : Prop where
  tables : Twins viewer.table other.table
  same : other = { viewer with table := other.table }

variable {viewer next : Viewer} {second third : Viewer}

theorem Alike.refl (h : viewer.table.Faithful) : Alike viewer viewer := ⟨h.twins, rfl⟩

theorem Alike.trans (h : Alike viewer second) (h' : Alike second third) : Alike viewer third where
  tables := h.tables.trans h'.tables
  same := by
    have hsame := h'.same
    rw [h.same] at hsame
    exact hsame

/-- Two viewers that agree in all that showing the window takes from them. What they have
shown before may differ. -/
structure Agree (viewer other : Viewer) : Prop where
  place : SamePlace viewer other
  offsetColumn : other.offsetColumn = viewer.offsetColumn
  message : other.window.message = viewer.window.message
  tables : Twins viewer.table other.table

/-- **What is remembered does not show.** -/
theorem Agree.refresh (h : Agree viewer second) :
    Matched Alike viewer.refresh second.refresh := by
  obtain ⟨⟨hstatus, hname, hnumbers, hrows, hcursor, hwidth, hclipboard, hfollowed⟩, hoffset,
    hmessage, htables⟩ := h
  obtain ⟨status, name, table, numbers, cursorRow, cursorColumn, offsetRow, offsetColumn, shown,
    width, height, window, clipboard, followed⟩ := viewer
  obtain ⟨status', name', table', numbers', cursorRow', cursorColumn', offsetRow', offsetColumn',
    shown', width', height', window', clipboard', followed'⟩ := second
  simp only [rowWindow, RowWindow.mk.injEq] at *
  obtain ⟨rfl, rfl, rfl⟩ := hrows
  subst hstatus hname hnumbers hcursor hwidth hclipboard hfollowed hoffset
  simp only [Viewer.refresh, layout_congr htables.source, windowRows, selectedRow,
    TableView.rowCount, htables.source]
  refine (Matched.refl _).bind ?_
  rintro columns _ rfl
  refine (Matched.refl _).bind ?_
  rintro rows _ rfl
  refine (showColumns_matched htables _ rows columns).bind ?_
  rintro ⟨texts, last⟩ ⟨_, last'⟩ ⟨rfl, hlast⟩
  refine (Matched.refl _).bind ?_
  rintro absolute _ rfl
  refine .answers ⟨hlast, ?_⟩
  simp only [hmessage]

end Viewer

end AttributeBrowser
