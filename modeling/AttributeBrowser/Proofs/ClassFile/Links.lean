import AttributeBrowser.ClassFile.Attribute
import AttributeBrowser.Frame.Source
import AttributeBrowser.Table.View

/-!
# What a cell shows and where its link leads

A source says of a place three things on its own each: which cell stands there, where
its link leads, and whether the column holds links. `Linked` says that they agree. The
sources over entries differ in the order of their columns and in the cells that lead
nowhere, and nothing else, so `Linked.of_entries` asks of each only that its entries
agree, column by column. A table passes the target on unchanged, from one column
further to the right.
-/

namespace AttributeBrowser

/-! ## Entries -/

namespace ExceptionHandler

/-- A handler that catches any class shows a text where others show a link. -/
theorem target?_cell (handler : ExceptionHandler) (pool : ConstantPool) {column : Nat}
    (hcolumn : column < 4) : (handler.cell pool column).target? = handler.target? column := by
  match column with
  | 0 | 1 | 2 => rfl
  | 3 =>
    simp only [cell, target?]
    split <;> rfl

theorem valueAt_source {handlers : Array ExceptionHandler} (pool : ConstantPool) {row : Nat}
    {handler : ExceptionHandler} (h : handlers[row]? = some handler) (column : Nat) :
    (source handlers pool).valueAt row column = .ok (handler.cell pool column) := by
  simp only [source, h]

end ExceptionHandler

namespace LineNumber

theorem target?_cell (line : LineNumber) (column : Nat) :
    (line.cell column).target? = line.target? column := by
  match column with
  | 0 | _ + 1 => rfl

theorem columnType_of_target? (line : LineNumber) {column : Nat}
    (h : (line.target? column).isSome = true) : columnType column = .link := by
  match column with
  | 0 => rfl
  | _ + 1 => cases h

theorem valueAt_source {lines : Array LineNumber} {row : Nat} {line : LineNumber}
    (h : lines[row]? = some line) (column : Nat) :
    (source lines).valueAt row column = .ok (line.cell column) := by
  simp only [source, h]

end LineNumber

namespace LocalVariable

theorem target?_cell (entry : LocalVariable) (pool : ConstantPool) {column : Nat}
    (hcolumn : column < 5) : (entry.cell pool column).target? = entry.target? column := by
  match column with
  | 0 | 1 | 2 | 3 | 4 => rfl

theorem columnType_of_target? (entry : LocalVariable) {column : Nat}
    (h : (entry.target? column).isSome = true) : columnType column = .link := by
  match column with
  | 0 | 3 | _ + 4 => rfl
  | 1 | 2 => cases h

theorem valueAt_source {entries : Array LocalVariable} (pool : ConstantPool) {row : Nat}
    {entry : LocalVariable} (h : entries[row]? = some entry) (column : Nat) :
    (source entries pool).valueAt row column = .ok (entry.cell pool column) := by
  simp only [source, h]

end LocalVariable

theorem DeclaredExceptions.valueAt_source {classes : Array UInt16} (pool : ConstantPool)
    {row : Nat} {index : UInt16} (h : classes[row]? = some index) (column : Nat) :
    (source classes pool).valueAt row column = .ok (pool.link index) := by
  simp only [source, h]

/-! ## Cells of a frame -/

theorem CellText.target?_ofInteger (value : Int) : (ofInteger value).target? = none := by
  unfold ofInteger
  split <;> rfl

/-- No cell of a frame is a link. -/
theorem ColumnCells.target?_cell (cells : ColumnCells) (row : Nat) :
    (cells.cell row).target? = none := by
  have hshown : ∀ {α : Type} (show? : Option α) (cell : α → Cell), (∀ a, (cell a).target? = none) →
      ((show?.map cell).getD (.text CellText.empty)).target? = none := by
    intro α show? cell hcell
    cases show? with
    | none => rfl
    | some a => exact hcell a
  cases cells with
  | integers kind cells => exact hshown _ _ CellText.target?_ofInteger
  | empties count => rfl
  | _ => exact hshown _ _ fun _ => rfl

/-! ## Sources -/

namespace Source

/-- Every cell leads where the source says that its place leads, and only cells in a
column of links lead anywhere. Of places without a cell the source says something too. -/
structure Linked (source : Source) : Prop where
  cells : ∀ row < source.rowCount, ∀ column < source.columnCount, ∃ cell type,
    source.valueAt row column = .ok cell ∧ source.columnType column = .ok type ∧
      source.linkTarget row column = .ok cell.target? ∧
      (cell.target?.isSome = true → type = .link)
  targets : ∀ row column, ∃ target, source.linkTarget row column = .ok target

/-- A source of one entry a row is linked if each entry shows and names the same targets. -/
theorem Linked.of_entries {source : Source} {α : Type} {entries : Array α}
    {cell : α → Nat → Cell} (target? : α → Nat → Option LinkTarget) {type : Nat → ColumnType}
    (hrows : source.rowCount = entries.size)
    (hvalue : ∀ {row : Nat} {entry : α}, entries[row]? = some entry → ∀ column,
      source.valueAt row column = .ok (cell entry column))
    (htype : ∀ column, source.columnType column = .ok (type column))
    (hlink : ∀ row column,
      source.linkTarget row column = .ok (entries[row]?.bind (target? · column)))
    (hagree : ∀ entry, ∀ column < source.columnCount,
      (cell entry column).target? = target? entry column)
    (hlinks : ∀ entry column, (target? entry column).isSome = true → type column = .link) :
    source.Linked where
  cells := by
    intro row hrow column hcolumn
    rw [hrows] at hrow
    have hentry : entries[row]? = some entries[row] := Array.getElem?_eq_getElem hrow
    have htarget := hagree entries[row] column hcolumn
    refine ⟨cell entries[row] column, type column, hvalue hentry column, htype column, ?_, ?_⟩
    · rw [hlink, hentry, htarget]
      rfl
    · intro hsome
      rw [htarget] at hsome
      exact hlinks entries[row] column hsome
  targets row column := ⟨_, hlink row column⟩

theorem linked_entries (pool : ConstantPool) (decoded : Attribute) :
    (decoded.source pool).Linked := by
  cases decoded with
  | exceptionTable handlers =>
    exact .of_entries _ rfl (ExceptionHandler.valueAt_source pool) (fun _ => rfl) (fun _ _ => rfl)
      (fun handler _ hcolumn => handler.target?_cell pool hcolumn) (fun _ _ _ => rfl)
  | lineNumberTable lines =>
    exact .of_entries _ rfl LineNumber.valueAt_source (fun _ => rfl) (fun _ _ => rfl)
      (fun line column _ => line.target?_cell column)
      (fun line _ hsome => line.columnType_of_target? hsome)
  | localVariableTable entries =>
    exact .of_entries _ rfl (LocalVariable.valueAt_source pool) (fun _ => rfl) (fun _ _ => rfl)
      (fun entry _ hcolumn => entry.target?_cell pool hcolumn)
      (fun entry _ hsome => entry.columnType_of_target? hsome)
  | exceptions classes =>
    exact .of_entries (fun index _ => some (.constantPool index)) rfl
      (DeclaredExceptions.valueAt_source pool) (fun _ => rfl)
      (fun _ _ => congrArg Except.ok Option.map_eq_bind) (fun _ _ _ => rfl) (fun _ _ _ => rfl)

/-- A frame shown as it is has no links. -/
theorem linked_frame {frame : Frame} {maxWidth : Nat} {source : Source}
    (h : frame.source maxWidth = .ok source) : source.Linked := by
  unfold Frame.source at h
  split at h
  · cases h
  · cases h
    refine ⟨?_, fun _ _ => ⟨none, rfl⟩⟩
    intro row _ column hcolumn
    have hat : frame.columns[column]? = some frame.columns[column] :=
      Array.getElem?_eq_getElem hcolumn
    have hnone := frame.columns[column].cells.target?_cell row
    refine ⟨frame.columns[column].cells.cell row, Frame.columnType frame.columns[column],
      ?_, ?_, ?_, ?_⟩
    · simp only [hat]
    · simp only [hat]
    · rw [hnone]
    · rw [hnone]
      intro hsome
      cases hsome

/-- What a dump is shown as: an attribute with its entries, or a frame as it is. -/
inductive OfDump : Source → Prop
  | entries (pool : ConstantPool) (decoded : Attribute) : OfDump (decoded.source pool)
  | frame {frame : Frame} {maxWidth : Nat} {source : Source}
      (h : frame.source maxWidth = .ok source) : OfDump source

theorem OfDump.linked {source : Source} (h : source.OfDump) : source.Linked := by
  cases h with
  | entries pool decoded => exact linked_entries pool decoded
  | frame h => exact linked_frame h

/-- Two handlers of the same instructions: the first one catches any class. -/
def twoHandlers : Source := ExceptionHandler.source #[⟨0, 4, 8, 0⟩, ⟨0, 4, 8, 7⟩] {}

end Source

/-! ## Following links -/

namespace TableView

/-- Where a place of a table over the source leads; row numbers lead nowhere. -/
def targetOf (source : Source) (row : Nat) : Nat → Except Fault (Option LinkTarget)
  | 0 => .ok none
  | column + 1 => source.linkTarget row column

/-- A target is handed on once, and nothing is if there is none. -/
theorem follow_of_targetOf {view : TableView} {row column : Nat} {target : Option LinkTarget}
    (h : targetOf view.source row column = .ok target) {σ : Type}
    (navigate : LinkTarget → σ → σ) (state : σ) :
    view.follow navigate row column state =
      .ok (target.isSome, target.elim state (navigate · state)) := by
  cases column with
  | zero =>
    cases h
    rfl
  | succ column =>
    replace h : view.source.linkTarget row column = .ok target := h
    simp only [follow, h]
    cases target <;> rfl

theorem exists_targetOf {source : Source} (h : source.Linked) (row column : Nat) :
    ∃ target, targetOf source row column = .ok target := by
  cases column with
  | zero => exact ⟨none, rfl⟩
  | succ column => exact h.targets row column

/-- **What a cell shows and where its link leads agree**, for all that a dump is shown as:
the source names the target that the cell has, and only columns of links have any. Of
every place of a table over it, behind the last row too, the target is handed on once
if there is one, and the answer says whether there was. -/
theorem cells_lead_where_links_do {source : Source} (h : source.OfDump) :
    (∀ row < source.rowCount, ∀ column < source.columnCount, ∃ cell type,
      source.valueAt row column = .ok cell ∧ source.columnType column = .ok type ∧
        source.linkTarget row column = .ok cell.target? ∧
        (cell.target?.isSome = true → type = .link)) ∧
    ∀ view : TableView, view.source = source → ∀ row column, ∃ target,
      targetOf source row column = .ok target ∧
        ∀ {σ : Type} (navigate : LinkTarget → σ → σ) (state : σ),
          view.follow navigate row column state =
            .ok (target.isSome, target.elim state (navigate · state)) := by
  refine ⟨h.linked.cells, ?_⟩
  rintro view rfl row column
  obtain ⟨target, htarget⟩ := exists_targetOf h.linked row column
  exact ⟨target, htarget, follow_of_targetOf htarget⟩

/-- The last cell of the first handler leads nowhere, that of the second to the class. -/
theorem cells_lead_where_links_do_catch_any :
    Source.twoHandlers.OfDump ∧
      (∃ cell, Source.twoHandlers.valueAt 0 3 = .ok cell ∧ cell.target? = none) ∧
      TableView.follow { source := Source.twoHandlers } (· :: ·) 1 4 [] =
        .ok (true, [.constantPool 7]) := by
  have hdump : Source.twoHandlers.OfDump :=
    .entries {} (.exceptionTable #[⟨0, 4, 8, 0⟩, ⟨0, 4, 8, 7⟩])
  obtain ⟨hcells, hfollow⟩ := cells_lead_where_links_do hdump
  obtain ⟨cell, type, hvalue, -, hlink, -⟩ := hcells 0 (by decide) 3 (by decide)
  obtain ⟨target, htarget, hfollowed⟩ := hfollow { source := _ } rfl 1 4
  refine ⟨hdump, ⟨cell, hvalue, (Except.ok.inj hlink).symm⟩, ?_⟩
  cases htarget
  exact hfollowed _ _

end TableView

end AttributeBrowser
