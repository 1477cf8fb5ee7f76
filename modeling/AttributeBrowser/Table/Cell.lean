/-!
# Cells

What one place of a table holds: a text, a whole number, or a link with its
label and the place in the class file that it leads to. Every cell has a text;
only a link has a target.
-/

namespace AttributeBrowser

/-- A place in a class file that a cell can lead to. -/
inductive LinkTarget
  /-- An entry of the constant pool. -/
  | constantPool (index : UInt16)
  /-- An instruction of the method's code. -/
  | code (pc : UInt16)
deriving DecidableEq, Repr

/-- How a target is named in messages. -/
def LinkTarget.text : LinkTarget → String
  | .constantPool index => "cp_info #" ++ index.toNat.repr
  | .code pc => "pc " ++ pc.toNat.repr

/-- What a column holds; numbers stand at the right edge, links are marked. -/
inductive ColumnType
  | number
  | text
  | link
deriving DecidableEq, Repr

/-- The content of one place of a table. -/
inductive Cell
  | text (content : String)
  | number (value : Int)
  | link (label : String) (target : LinkTarget)
deriving DecidableEq, Repr

namespace Cell

/-- What is shown for a cell. -/
def display : Cell → String
  | .text content => content
  | .number value => value.repr
  | .link label _ => label

/-- Where a cell leads. -/
def target? : Cell → Option LinkTarget
  | .link _ target => some target
  | _ => none

@[simp] theorem display_text (s : String) : (Cell.text s).display = s := rfl

@[simp] theorem display_number (n : Int) : (Cell.number n).display = n.repr := rfl

@[simp] theorem display_link (label : String) (target : LinkTarget) :
    (Cell.link label target).display = label := rfl

@[simp] theorem target?_text (s : String) : (Cell.text s).target? = none := rfl

@[simp] theorem target?_number (n : Int) : (Cell.number n).target? = none := rfl

@[simp] theorem target?_link (label : String) (target : LinkTarget) :
    (Cell.link label target).target? = some target := rfl

end Cell

end AttributeBrowser
