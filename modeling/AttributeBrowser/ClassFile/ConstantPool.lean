import AttributeBrowser.Table.Cell
import Std.Data.HashMap

/-!
# Constant pools

The texts of constant pool entries by their index. A later entry replaces an
earlier one of the same index. A link to the pool is labelled with the index and
the text of the entry in angle brackets.
-/

namespace AttributeBrowser

/-- The texts of constant pool entries. -/
structure ConstantPool where
  entries : Std.HashMap UInt16 String := {}

namespace ConstantPool

/-- The pool in which `index` reads `text`. -/
def insert (pool : ConstantPool) (index : UInt16) (text : String) : ConstantPool :=
  { entries := pool.entries.insert index text }

/-- The entries in order; the last one of an index counts. -/
def ofList (entries : List (UInt16 × String)) : ConstantPool :=
  entries.foldl (fun pool entry => pool.insert entry.1 entry.2) {}

/-- The text of an entry. -/
def resolve? (pool : ConstantPool) (index : UInt16) : Option String := pool.entries[index]?

/-- The number of different indices. -/
def size (pool : ConstantPool) : Nat := pool.entries.size

/-- Whether no index has an entry. -/
def isEmpty (pool : ConstantPool) : Bool := pool.entries.isEmpty

/-- Stands for the text of an index without an entry. -/
def unresolved : String := "invalid"

/-- The label of a link to an entry. -/
def label (pool : ConstantPool) (index : UInt16) : String :=
  "cp_info #" ++ index.toNat.repr ++ " <" ++ (pool.resolve? index).getD unresolved ++ ">"

/-- A cell that leads to an entry. -/
def link (pool : ConstantPool) (index : UInt16) : Cell :=
  .link (pool.label index) (.constantPool index)

theorem resolve?_empty (index : UInt16) : ({} : ConstantPool).resolve? index = none := by
  simp [resolve?]

theorem resolve?_insert (pool : ConstantPool) (index key : UInt16) (text : String) :
    (pool.insert index text).resolve? key = if key = index then some text else pool.resolve? key := by
  by_cases h : key = index
  · simp [resolve?, insert, h]
  · simp [resolve?, insert, Std.HashMap.getElem?_insert, h, Ne.symm h]

/-- The last entry of an index counts. -/
theorem resolve?_ofList (entries : List (UInt16 × String)) (index : UInt16) :
    (ofList entries).resolve? index = (entries.reverse.find? (·.1 == index)).map (·.2) := by
  -- for every pool to start from, as each entry is put into what the earlier ones have made
  suffices ∀ pool : ConstantPool,
      (entries.foldl (fun pool entry => pool.insert entry.1 entry.2) pool).resolve? index =
        ((entries.reverse.find? (·.1 == index)).map (·.2)).or (pool.resolve? index) by
    rw [ofList, this {}, resolve?_empty, Option.or_none]
  induction entries with
  | nil => intro pool; rfl
  | cons entry rest ih =>
    intro pool
    rw [List.foldl_cons, ih, resolve?_insert, List.reverse_cons, List.find?_append]
    by_cases h : index = entry.1
    · cases rest.reverse.find? (·.1 == index) <;> simp [h]
    · cases rest.reverse.find? (·.1 == index) <;> simp [h, Ne.symm h]

end ConstantPool

/-- A cell that leads to an instruction. -/
def codeLink (pc : UInt16) : Cell := .link pc.toNat.repr (.code pc)

end AttributeBrowser
