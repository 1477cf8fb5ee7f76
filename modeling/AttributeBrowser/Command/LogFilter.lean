import AttributeBrowser.Error
import AttributeBrowser.Number.FloatText
import AttributeBrowser.Text.Alphanumeric

/-!
# Log filters

What is logged: directives with commas between them, each a level, or a target with
a span in brackets, fields of the span in braces, and a level behind an equals sign.
Only whether a filter can be read matters here. A target is free text, so that a word
that is no level is a target.
-/

namespace AttributeBrowser

namespace LogFilter

/-- The blanks that may stand around a directive. -/
def isBlank (c : Char) : Bool :=
  c.isWhitespace || c == '\x0b' || c == '\x0c' || c == '\u0085' || c == '\u00a0' || c == '\u1680'
    || (0x2000 ≤ c.toNat && c.toNat ≤ 0x200a) || c == '\u2028' || c == '\u2029' || c == '\u202f'
    || c == '\u205f' || c == '\u3000'

/-- Whether a text is a level: its name in any case, or its number. -/
def isLevel (text : List Char) : Bool :=
  let digits :=
    match text with
    | '+' :: digits => digits
    | digits => digits
  if !digits.isEmpty && digits.all Char.isDigit then decide (FloatText.natOfDigits digits ≤ 5)
  else
    ["", "error", "warn", "info", "debug", "trace", "off"].contains
      (String.ofList (text.map Char.toLower))

/-- Where the reader of a directive stands. -/
inductive State
  | start
  | target
  | span
  /-- In the braces of a span, right behind the brace or a comma, or further on. -/
  | field (empty : Bool)
  | fields
  | afterSpan
  /-- Behind the equals sign, which is the character of this number. -/
  | level (equals : Nat)
deriving DecidableEq, Repr

/-- Reads one character, of which the number is given. -/
def State.read : State → Nat → Char → Option State
  | .start, _, c =>
    if c = '[' then some .span
    else if c = '-' ∨ c = ':' ∨ c = '_' ∨ c.isAlphanum ∨ CharSet.alphanumeric.contains c then
      some .target
    else none
  | .target, index, c =>
    if c = '=' then some (.level index) else if c = '[' then some .span else some .target
  | .span, _, c =>
    if c = ']' then some .afterSpan
    else if c = '\x7b' then some (.field true)
    else some .span
  | .field empty, _, c =>
    if c = '\x7d' then if empty then none else some .fields else some (.field false)
  | .fields, _, c => if c = ']' then some .afterSpan else none
  | .afterSpan, index, c => if c = '=' then some (.level index) else none
  | .level equals, _, _ => some (.level equals)

/-- Reads the rest of a directive, from the character of number `index` on. -/
def State.readAll : State → Nat → List Char → Option State
  | state, _, [] => some state
  | state, index, c :: rest => (state.read index c).bind (·.readAll (index + 1) rest)

/-- Checks a directive. Blanks around it are skipped, but the level is looked for in the
text with its blanks. -/
def checkDirective (text : List Char) : Except LogReason Unit :=
  let trimmed := ((text.dropWhile isBlank).reverse.dropWhile isBlank).reverse
  match State.start.readAll 0 trimmed with
  | some .target | some .afterSpan => .ok ()
  | some (.level equals) =>
    if isLevel (text.drop (equals + 1)) then .ok () else .error .invalidLevel
  | _ => .error .invalidDirective

/-- The parts of a text between commas. -/
def splitCommas : List Char → List (List Char)
  | [] => [[]]
  | c :: rest =>
    match splitCommas rest with
    | [] => [[c]]
    | part :: parts => if c = ',' then [] :: part :: parts else (c :: part) :: parts

/-- Checks a filter. -/
def check (text : String) : Except LogReason Unit :=
  ((splitCommas text.toList).filter (!·.isEmpty)).forM checkDirective

/-- Checks the filter that holds: the one of the environment, if it can be read, or else
the one of the command line. -/
def choose (environment : Option String) (level : String) : Except LogReason Unit :=
  match environment.map check with
  | some (.ok ()) => .ok ()
  | _ => check level

end LogFilter

end AttributeBrowser
