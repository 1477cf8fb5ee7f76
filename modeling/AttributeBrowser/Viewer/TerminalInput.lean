import AttributeBrowser.Viewer.Session

/-!
# Terminal input

The characters that a terminal sends, as the events they stand for. Most keys send
one character; the others send an escape, a bracket, parameters and a final
character. A control character stands for the letter it is typed with, and an escape
in front of a key changes nothing about the key.
-/

namespace AttributeBrowser

namespace TerminalInput

/-- The key that a character stands for. -/
def keyOf (c : Char) : Key :=
  if c = '\r' then .enter
  else if c = '\t' then .tab
  else if c.toNat = 0x7f then .backspace
  else if c.toNat = 0x1b then .escape
  else if c.toNat = 0 then .char ' '
  else if c.toNat ≤ 0x1a then .char (Char.ofNat (c.toNat + 0x60))
  else if c.toNat ≤ 0x1f then .char (Char.ofNat (c.toNat + 0x18))
  else .char c

/-- The key of a sequence that ends in a letter. -/
def letterKey? : Char → Option Key
  | 'A' => some .up
  | 'B' => some .down
  | 'C' => some .right
  | 'D' => some .left
  | 'F' => some .end
  | 'H' => some .home
  | 'Z' => some .backTab
  | 'P' => some (.function 1)
  | 'Q' => some (.function 2)
  | 'R' => some (.function 3)
  | 'S' => some (.function 4)
  | _ => none

/-- The key of a numbered sequence. -/
def numberKey? : List Char → Option Key
  | ['1'] | ['7'] => some .home
  | ['2'] => some .insert
  | ['3'] => some .delete
  | ['4'] | ['8'] => some .end
  | ['5'] => some .pageUp
  | ['6'] => some .pageDown
  | _ => none

/-- The event of a sequence with its parameters and its final character. -/
def sequenceEvent (parameters : List Char) (last : Char) : Event :=
  let key? :=
    if last = '~' then numberKey? (parameters.takeWhile (· ≠ ';'))
    else if parameters.isEmpty ∨ parameters.head? = some '1' then letterKey? last
    else none
  match key? with
  | some key => .key key true
  | none => .other

/-- Whether a character ends a sequence. -/
def isFinal (c : Char) : Bool := 0x40 ≤ c.toNat && c.toNat ≤ 0x7e

/-- The events of some input; at most so many. -/
def eventsUpTo : Nat → List Char → List Event
  | 0, _ => []
  | _, [] => []
  | limit + 1, '\x1b' :: '[' :: rest =>
    let parameters := rest.takeWhile (!isFinal ·)
    match rest.dropWhile (!isFinal ·) with
    | [] => [.other]
    | last :: rest => sequenceEvent parameters last :: eventsUpTo limit rest
  | limit + 1, '\x1b' :: 'O' :: last :: rest => sequenceEvent [] last :: eventsUpTo limit rest
  | limit + 1, '\x1b' :: c :: rest => .key (keyOf c) true :: eventsUpTo limit rest
  | limit + 1, c :: rest => .key (keyOf c) true :: eventsUpTo limit rest

/-- The events of some input. -/
def events (input : List Char) : List Event := eventsUpTo input.length input

end TerminalInput

end AttributeBrowser
