import Std.Data.String.ToNat
import Mathlib.Data.List.Basic
import AttributeBrowser.Proofs.ClassFile.Links
import AttributeBrowser.Proofs.Number.DecimalText

/-!
# Labels of links

A label is all that is shown of a link, so it has to tell where the link leads. The label of a
program counter is its number. The label of an entry of the constant pool has the index of the
entry, a blank, and the text of the entry, which may be any text: the index ends at the first
blank behind its digits, whatever the text has. In the sources over entries all links of a
column are of one of the two sorts (`Cell.Tells`).
-/

namespace AttributeBrowser

/-! ## Digits in front of a text -/

/-- What stands in front of the first separator and what stands behind it tell the list. -/
theorem append_cons_inj {α : Type} {separator : α} {front front' rest rest' : List α}
    (hfront : separator ∉ front) (hfront' : separator ∉ front') :
    front ++ separator :: rest = front' ++ separator :: rest' ↔ front = front' ∧ rest = rest' := by
  constructor
  · intro h
    induction front generalizing front' with
    | nil =>
      cases front' with
      | nil => exact ⟨rfl, (List.cons.inj h).2⟩
      | cons first others =>
        -- the other list would begin with the separator
        obtain ⟨rfl, -⟩ := List.cons.inj h
        exact absurd List.mem_cons_self hfront'
    | cons first others ih =>
      rw [List.mem_cons, not_or] at hfront
      cases front' with
      | nil => exact absurd (List.cons.inj h).1.symm hfront.1
      | cons first' others' =>
        obtain ⟨rfl, htail⟩ := List.cons.inj h
        rw [List.mem_cons, not_or] at hfront'
        obtain ⟨rfl, rfl⟩ := ih hfront.2 hfront'.2 htail
        exact ⟨rfl, rfl⟩
  · rintro ⟨rfl, rfl⟩
    rfl

theorem toNat_repr_inj {word word' : UInt16} :
    word.toNat.repr = word'.toNat.repr ↔ word = word' := by
  rw [Nat.repr_inj, UInt16.toNat_inj]

/-! ## Names of targets -/

/-- The name of a target tells the target. -/
theorem LinkTarget.text_inj {target target' : LinkTarget} :
    target.text = target'.text ↔ target = target' := by
  constructor
  · intro hname
    have h := congrArg String.toList hname
    -- the names of the two sorts differ in their second characters
    cases target with
    | constantPool index =>
      cases target' with
      | constantPool index' =>
        simp only [text, String.toList_append, List.append_cancel_left_eq, String.toList_inj,
          toNat_repr_inj] at h
        rw [h]
      | code pc => simp [text, String.toList_append] at h
    | code pc =>
      cases target' with
      | constantPool index => simp [text, String.toList_append] at h
      | code pc' =>
        simp only [text, String.toList_append, List.append_cancel_left_eq, String.toList_inj,
          toNat_repr_inj] at h
        rw [h]
  · intro h
    rw [h]

/-! ## Labels of the constant pool -/

namespace ConstantPool

/-- The text between the brackets of a label. -/
def shownText (pool : ConstantPool) (index : UInt16) : String :=
  (pool.resolve? index).getD unresolved

theorem toList_label (pool : ConstantPool) (index : UInt16) :
    (pool.label index).toList = "cp_info #".toList ++ (index.toNat.repr.toList ++
      ' ' :: '<' :: ((pool.shownText index).toList ++ ['>'])) := by
  simp [label, shownText, String.toList_append]

/-- **A label tells the index and the text** that it was made of, of all pools. -/
theorem label_eq_iff {pool pool' : ConstantPool} {index index' : UInt16} :
    pool.label index = pool'.label index' ↔
      index = index' ∧ pool.shownText index = pool'.shownText index' := by
  calc pool.label index = pool'.label index'
      ↔ index.toNat.repr.toList ++ ' ' :: '<' :: ((pool.shownText index).toList ++ ['>']) =
          index'.toNat.repr.toList ++ ' ' :: '<' :: ((pool'.shownText index').toList ++ ['>']) := by
        rw [← String.toList_inj, toList_label, toList_label, List.append_cancel_left_eq]
    _ ↔ index.toNat.repr.toList = index'.toNat.repr.toList ∧
          '<' :: ((pool.shownText index).toList ++ ['>']) =
            '<' :: ((pool'.shownText index').toList ++ ['>']) :=
        append_cons_inj (not_mem_repr (by decide) _) (not_mem_repr (by decide) _)
    _ ↔ index = index' ∧ pool.shownText index = pool'.shownText index' := by
        rw [String.toList_inj, toNat_repr_inj, List.cons.injEq, List.append_cancel_right_eq,
          String.toList_inj]
        simp

/-- In one pool the index alone tells the label. -/
theorem label_inj {pool : ConstantPool} {index index' : UInt16} :
    pool.label index = pool.label index' ↔ index = index' := by
  constructor
  · intro h
    exact (label_eq_iff.mp h).1
  · intro h
    rw [h]

end ConstantPool

/-! ## Cells that lead somewhere -/

/-- If both cells lead somewhere, they show the same exactly if they lead to the same place. -/
def Cell.Tells (cell other : Cell) : Prop :=
  cell.target?.isSome = true → other.target?.isSome = true →
    (cell.display = other.display ↔ cell.target? = other.target?)

/-- A cell that leads nowhere is not compared. -/
theorem Cell.tells_of_target? {cell other : Cell} (h : cell.target? = none ∨ other.target? = none) :
    cell.Tells other := by
  intro hcell hother
  rcases h with h | h
  · rw [h] at hcell
    cases hcell
  · rw [h] at hother
    cases hother

theorem codeLink_tells (pc pc' : UInt16) : (codeLink pc).Tells (codeLink pc') := by
  intro _ _
  simp only [codeLink, Cell.display_link, Cell.target?_link, Option.some.injEq,
    LinkTarget.code.injEq, toNat_repr_inj]

theorem ConstantPool.link_tells (pool : ConstantPool) (index index' : UInt16) :
    (pool.link index).Tells (pool.link index') := by
  intro _ _
  simp only [link, Cell.display_link, Cell.target?_link, Option.some.injEq,
    LinkTarget.constantPool.injEq, label_inj]

/-! ## Entries -/

theorem ExceptionHandler.cell_tells (pool : ConstantPool) (handler handler' : ExceptionHandler)
    (column : Nat) : (handler.cell pool column).Tells (handler'.cell pool column) := by
  match column with
  | 0 | 1 | 2 => exact codeLink_tells _ _
  | _ + 3 =>
    simp only [cell]
    -- a handler that catches any class has no link
    by_cases hany : handler.catchType = 0
    · rw [if_pos hany]
      exact Cell.tells_of_target? (.inl rfl)
    · by_cases hany' : handler'.catchType = 0
      · rw [if_pos hany']
        exact Cell.tells_of_target? (.inr rfl)
      · rw [if_neg hany, if_neg hany']
        exact pool.link_tells _ _

theorem LineNumber.cell_tells (line line' : LineNumber) (column : Nat) :
    (line.cell column).Tells (line'.cell column) := by
  match column with
  | 0 => exact codeLink_tells _ _
  | _ + 1 => exact Cell.tells_of_target? (.inl rfl)

theorem LocalVariable.cell_tells (pool : ConstantPool) (entry entry' : LocalVariable)
    (column : Nat) : (entry.cell pool column).Tells (entry'.cell pool column) := by
  match column with
  | 0 => exact codeLink_tells _ _
  | 1 | 2 => exact Cell.tells_of_target? (.inl rfl)
  | 3 | _ + 4 => exact pool.link_tells _ _

/-! ## Sources -/

namespace Source

/-- Any two rows have cells in the column, and the links among them are told by their labels. -/
def LabelsTell (source : Source) (column : Nat) : Prop :=
  ∀ row < source.rowCount, ∀ other < source.rowCount, ∃ cell cell',
    source.valueAt row column = .ok cell ∧ source.valueAt other column = .ok cell' ∧
      cell.Tells cell'

/-- The labels of a source of one entry a row tell where they lead if those of any two entries
do. -/
theorem LabelsTell.of_entries {source : Source} {α : Type} {entries : Array α}
    {cell : α → Nat → Cell} (hrows : source.rowCount = entries.size)
    (hvalue : ∀ {row : Nat} {entry : α}, entries[row]? = some entry → ∀ column,
      source.valueAt row column = .ok (cell entry column))
    (htells : ∀ entry entry' column, (cell entry column).Tells (cell entry' column))
    (column : Nat) : source.LabelsTell column := by
  intro row hrow other hother
  rw [hrows] at hrow hother
  exact ⟨_, _, hvalue (Array.getElem?_eq_getElem hrow) column,
    hvalue (Array.getElem?_eq_getElem hother) column, htells _ _ column⟩

theorem labelsTell_entries (pool : ConstantPool) (decoded : Attribute) (column : Nat) :
    (decoded.source pool).LabelsTell column := by
  cases decoded with
  | exceptionTable handlers =>
    exact .of_entries rfl (ExceptionHandler.valueAt_source pool)
      (ExceptionHandler.cell_tells pool) column
  | lineNumberTable lines =>
    exact .of_entries rfl LineNumber.valueAt_source LineNumber.cell_tells column
  | localVariableTable entries =>
    exact .of_entries rfl (LocalVariable.valueAt_source pool) (LocalVariable.cell_tells pool) column
  | exceptions classes =>
    exact .of_entries rfl (DeclaredExceptions.valueAt_source pool)
      (fun index index' _ => pool.link_tells index index') column

/-- **The label of a link tells its target.** Two links in one column of a source over entries
show the same text exactly if they lead to the same place, whatever texts the constant pool
has. More generally a label of the constant pool tells the index and the text that it was made
of, even among labels of different pools. -/
theorem labels_tell_targets (pool : ConstantPool) (decoded : Attribute) :
    (∀ column < (decoded.source pool).columnCount, ∀ row < (decoded.source pool).rowCount,
      ∀ other < (decoded.source pool).rowCount, ∃ cell cell',
        (decoded.source pool).valueAt row column = .ok cell ∧
        (decoded.source pool).valueAt other column = .ok cell' ∧
        (cell.target?.isSome = true → cell'.target?.isSome = true →
          (cell.display = cell'.display ↔ cell.target? = cell'.target?))) ∧
    ∀ (pool' : ConstantPool) (index index' : UInt16),
      pool.label index = pool'.label index' ↔ index = index' ∧
        (pool.resolve? index).getD "invalid" = (pool'.resolve? index').getD "invalid" := by
  constructor
  · intro column _
    exact labelsTell_entries pool decoded column
  · intro pool' index index'
    exact ConstantPool.label_eq_iff

/-- A pool in which one text could be taken for the end of another label. -/
def likeLabels : ConstantPool := .ofList [(1, "1 <any>"), (11, "any>")]

/-- Two handlers of different classes. -/
def classesOneAndEleven : Attribute := .exceptionTable #[⟨0, 4, 8, 1⟩, ⟨0, 4, 8, 11⟩]

/-- The classes 1 and 11 show different labels, and the equal program counters equal ones. -/
theorem labels_tell_targets_eleven :
    ∃ first second same same', (classesOneAndEleven.source likeLabels).valueAt 0 3 = .ok first ∧
      (classesOneAndEleven.source likeLabels).valueAt 1 3 = .ok second ∧
      first.display ≠ second.display ∧
      (classesOneAndEleven.source likeLabels).valueAt 0 2 = .ok same ∧
      (classesOneAndEleven.source likeLabels).valueAt 1 2 = .ok same' ∧
      same.display = same'.display := by
  obtain ⟨hcells, -⟩ := labels_tell_targets likeLabels classesOneAndEleven
  obtain ⟨first, second, hfirst, hsecond, hlabels⟩ :=
    hcells 3 (by decide) 0 (by decide) 1 (by decide)
  obtain ⟨same, same', hsame, hsame', hcounters⟩ :=
    hcells 2 (by decide) 0 (by decide) 1 (by decide)
  refine ⟨first, second, same, same', hfirst, hsecond, ?_, hsame, hsame', ?_⟩
  · cases hfirst
    cases hsecond
    intro heq
    have htargets := (hlabels rfl rfl).mp heq
    exact absurd htargets (by decide)
  · cases hsame
    cases hsame'
    exact (hcounters rfl rfl).mpr rfl

end Source

end AttributeBrowser
