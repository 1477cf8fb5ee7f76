import AttributeBrowser.Text.Formatting
import AttributeBrowser.Text.Marks
import AttributeBrowser.Text.Pictographs
import AttributeBrowser.Text.Wide

/-!
# Graphemes

A text cut into what a reader takes for one character: a base with its marks, a
syllable of joined letters, a picture of several parts, or a flag of two letters.
A grapheme takes one place on a screen, two if it is wide, and none if nothing is
drawn for it.
-/

namespace AttributeBrowser

namespace Grapheme

/-! ## Cutting a text -/

/-- The role of a character in a grapheme. -/
inductive Role
  | other
  | carriageReturn
  | lineFeed
  | control
  | extending
  | joiner
  | spacing
  | leading
  | regional
  | pictograph
  /-- The letters of a syllable block, and blocks without and with a last letter. -/
  | firstLetter
  | middleLetter
  | lastLetter
  | openBlock
  | closedBlock
deriving DecidableEq, Repr

/-- The role of a character that is not plain. -/
def roleOfCode (c : Char) : Role :=
  let code := c.toNat
  if code = 0x200d then .joiner
  else if 0x1f1e6 ≤ code ∧ code ≤ 0x1f1ff then .regional
  else if (0x1100 ≤ code ∧ code ≤ 0x115f) ∨ (0xa960 ≤ code ∧ code ≤ 0xa97c) then .firstLetter
  else if (0x1160 ≤ code ∧ code ≤ 0x11a7) ∨ (0xd7b0 ≤ code ∧ code ≤ 0xd7c6) then .middleLetter
  else if (0x11a8 ≤ code ∧ code ≤ 0x11ff) ∨ (0xd7cb ≤ code ∧ code ≤ 0xd7fb) then .lastLetter
  else if 0xac00 ≤ code ∧ code ≤ 0xd7a3 then
    if (code - 0xac00) % 28 = 0 then .openBlock else .closedBlock
  else if CharSet.extending.contains c then .extending
  else if CharSet.spacing.contains c then .spacing
  else if CharSet.leading.contains c then .leading
  else if CharSet.separating.contains c then .control
  else if CharSet.pictographs.contains c then .pictograph
  else .other

/-- The role of a character. -/
def role (c : Char) : Role :=
  if c = '\r' then .carriageReturn
  else if c = '\n' then .lineFeed
  else if c.toNat < 0x20 ∨ c.toNat = 0x7f then .control
  else if c.toNat < 0x80 then .other
  else roleOfCode c

/-- What is known of a grapheme begun: the role of its last character, whether an odd
number of flag letters ends it, and whether a picture with its marks does. -/
structure Tail where
  last : Role
  oddRegional : Bool
  picture : Bool

/-- The grapheme that one character begins. -/
def Tail.ofRole (role : Role) : Tail := ⟨role, role == .regional, role == .pictograph⟩

/-- The grapheme with one more character. -/
def Tail.extend (tail : Tail) (role : Role) : Tail :=
  { last := role
    oddRegional := role == .regional && !tail.oddRegional
    picture := role == .pictograph ||
      (tail.picture && (role == .extending || role == .joiner)) }

/-- Whether a character goes on with the grapheme begun. -/
def Tail.joins (tail : Tail) (next : Role) : Bool :=
  match tail.last, next with
  | .carriageReturn, .lineFeed => true
  | .carriageReturn, _ | .lineFeed, _ | .control, _ => false
  | _, .carriageReturn | _, .lineFeed | _, .control => false
  | _, .extending | _, .joiner | _, .spacing => true
  | .leading, _ => true
  | .firstLetter, .firstLetter | .firstLetter, .middleLetter => true
  | .firstLetter, .openBlock | .firstLetter, .closedBlock => true
  | .openBlock, .middleLetter | .openBlock, .lastLetter => true
  | .middleLetter, .middleLetter | .middleLetter, .lastLetter => true
  | .closedBlock, .lastLetter | .lastLetter, .lastLetter => true
  | .joiner, .pictograph => tail.picture
  | .regional, .regional => tail.oddRegional
  | _, _ => false

/-- Cuts the rest of a text, with the grapheme begun in reverse. -/
def cutFrom (begun : List Char) (tail : Tail) : List Char → List (List Char)
  | [] => [begun.reverse]
  | c :: rest =>
    let next := role c
    if tail.joins next then cutFrom (c :: begun) (tail.extend next) rest
    else begun.reverse :: cutFrom [c] (Tail.ofRole next) rest

/-- The graphemes of a text. -/
def cut : List Char → List (List Char)
  | [] => []
  | c :: rest => cutFrom [c] (Tail.ofRole (role c)) rest

/-! ## Widths -/

/-- The places that a character takes. -/
def charWidth (c : Char) : Nat :=
  let code := c.toNat
  if 0x20 ≤ code ∧ code < 0x7f then 1
  else if code < 0xa0 then 1
  else if code = 0x115f then 2
  else if CharSet.invisible.contains c then 0
  else
    match roleOfCode c with
    | .middleLetter | .lastLetter | .joiner => 0
    | .extending => if 0x1f3fb ≤ code ∧ code ≤ 0x1f3ff then 2 else 0
    | _ => if CharSet.wide.contains c then 2 else 1

/-- Whether a character makes a picture of the ones before it. -/
def makesPicture (c : Char) : Bool :=
  let code := c.toNat
  code == 0xfe0f || code == 0x200d || (0x1f3fb ≤ code && code ≤ 0x1f3ff)

/-- The places that a grapheme takes. A picture of several parts takes two. -/
def width (grapheme : List Char) : Nat :=
  match grapheme with
  | [] => 0
  | [c] => charWidth c
  | first :: rest =>
    if (role first = .pictograph ∧ rest.any makesPicture)
        ∨ ((first.isDigit ∨ first = '#' ∨ first = '*') ∧ rest.any (·.toNat == 0xfe0f)) then 2
    else (grapheme.map charWidth).foldr (· + ·) 0

/-- Whether a character is a control character, which is never drawn. -/
def isControl (c : Char) : Bool := c.toNat < 0x20 || (0x7f ≤ c.toNat && c.toNat < 0xa0)

/-- The graphemes of a text that are drawn, each with its width. -/
def drawn (text : String) : List (String × Nat) :=
  ((cut text.toList).filter fun grapheme => !grapheme.any isControl).map fun grapheme =>
    (String.ofList grapheme, width grapheme)

end Grapheme

end AttributeBrowser
