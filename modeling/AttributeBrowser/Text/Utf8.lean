/-!
# Decoding bytes

Bytes as characters. `decode?` refuses bytes that are no text; `decodeLossy` reads
on and puts one replacement character for each longest run of bytes that starts a
character but does not complete it, and for each byte that can start none.
-/

namespace AttributeBrowser

namespace Utf8

/-- The characters of some bytes, if these are text. -/
def decode? (bytes : List UInt8) : Option String := String.fromUTF8? bytes.toByteArray

/-- A character begun: how many bytes it still needs, what the next one may be, and
the bits read so far. -/
structure Pending where
  owed : Nat
  low : Nat
  high : Nat
  bits : Nat

/-- What a byte does between characters. -/
inductive Start
  | char (c : Char)
  | pending (state : Pending)
  | invalid

/-- The bytes that can start a character, and what may follow them. -/
def start (b : Nat) : Start :=
  if b ≤ 0x7f then .char (Char.ofNat b)
  else if 0xc2 ≤ b ∧ b ≤ 0xdf then .pending ⟨1, 0x80, 0xbf, b - 0xc0⟩
  else if b = 0xe0 then .pending ⟨2, 0xa0, 0xbf, b - 0xe0⟩
  else if b = 0xed then .pending ⟨2, 0x80, 0x9f, b - 0xe0⟩
  else if 0xe1 ≤ b ∧ b ≤ 0xef then .pending ⟨2, 0x80, 0xbf, b - 0xe0⟩
  else if b = 0xf0 then .pending ⟨3, 0x90, 0xbf, b - 0xf0⟩
  else if 0xf1 ≤ b ∧ b ≤ 0xf3 then .pending ⟨3, 0x80, 0xbf, b - 0xf0⟩
  else if b = 0xf4 then .pending ⟨3, 0x80, 0x8f, b - 0xf0⟩
  else .invalid

/-- Stands for bytes that are no character. -/
def replacement : Char := '\ufffd'

/-- Reads one byte: the characters read so far, latest first, and the one begun. -/
def read (state : List Char × Option Pending) (byte : UInt8) : List Char × Option Pending :=
  let b := byte.toNat
  let fresh (read : List Char) : List Char × Option Pending :=
    match start b with
    | .char c => (c :: read, none)
    | .pending pending => (read, some pending)
    | .invalid => (replacement :: read, none)
  match state with
  | (read, none) => fresh read
  | (read, some pending) =>
    if pending.low ≤ b ∧ b ≤ pending.high then
      let bits := pending.bits * 64 + (b - 0x80)
      if pending.owed = 1 then (Char.ofNat bits :: read, none)
      else (read, some ⟨pending.owed - 1, 0x80, 0xbf, bits⟩)
    else fresh (replacement :: read)

/-- The characters of some bytes, with replacements for what is no text. -/
def decodeLossy (bytes : List UInt8) : String :=
  match bytes.foldl read ([], none) with
  | (read, none) => String.ofList read.reverse
  | (read, some _) => String.ofList (replacement :: read).reverse

end Utf8

end AttributeBrowser
