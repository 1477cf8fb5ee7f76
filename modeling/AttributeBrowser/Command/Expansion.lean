import AttributeBrowser.Error
import AttributeBrowser.Text.Alphanumeric

/-!
# Expanding paths

Variables and the home directory in a written path. A dollar sign starts the name of
a variable, in braces if wanted; in braces a default may follow the name. A tilde at
the start stands for the home directory if nothing or a slash follows it.
-/

namespace AttributeBrowser

namespace Expansion

/-- The values of variables. -/
abbrev Variables := String → Option String

/-- Whether a character can stand in a name without braces. -/
def isNameChar (c : Char) : Bool := c.isAlphanum || c == '_' || CharSet.alphanumeric.contains c

/-- The name and the default in braces. -/
def splitDefault : List Char → List Char × Option (List Char)
  | [] => ([], none)
  | c :: rest =>
    if c = ':' ∧ rest.head? = some '-' then ([], some rest.tail)
    else
      let (name, default) := splitDefault rest
      (c :: name, default)

/-- A name in braces has a character before its default. -/
def nameAndDefault (content : List Char) : List Char × Option (List Char) :=
  match splitDefault content with
  | ([], some _) => (content, none)
  | parts => parts

/-- What braces stand for. A variable that is set but empty leaves them as they are,
unless there is a default. -/
def braced (environment : Variables) (content : List Char) : Except Error (List Char) :=
  let (name, default) := nameAndDefault content
  let name := String.ofList name
  match environment name, default with
  | some value, default =>
    if value.isEmpty then .ok (default.getD ('$' :: '\x7b' :: content ++ ['\x7d'])) else .ok value.toList
  | none, some default => .ok default
  | none, none => .error (.invalidValue (.unsetVariable name))

/-- Replaces the variables of a text. -/
def replaceVariables (environment : Variables) : List Char → Except Error (List Char)
  | [] => .ok []
  | '$' :: '$' :: rest => ('$' :: ·) <$> replaceVariables environment rest
  | '$' :: '\x7b' :: rest =>
    match _h : rest.dropWhile (· ≠ '\x7d') with
    | [] => (['$', '\x7b'] ++ ·) <$> replaceVariables environment rest
    | _ :: after => do
      let value ← braced environment (rest.takeWhile (· ≠ '\x7d'))
      return value ++ (← replaceVariables environment after)
  | '$' :: c :: rest =>
    if isNameChar c then do
      let name := String.ofList (c :: rest.takeWhile isNameChar)
      match environment name with
      | none => .error (.invalidValue (.unsetVariable name))
      | some value =>
        return value.toList ++ (← replaceVariables environment (rest.dropWhile isNameChar))
    else ('$' :: ·) <$> replaceVariables environment (c :: rest)
  | c :: rest => (c :: ·) <$> replaceVariables environment rest
termination_by text => text.length
decreasing_by
  · simp only [List.length_cons]; omega
  · simp only [List.length_cons]; omega
  · have hle := (List.dropWhile_suffix (p := fun c => decide (c ≠ '\x7d')) (l := rest)).length_le
    rw [_h] at hle
    simp only [List.length_cons] at hle ⊢
    omega
  · have hle := (List.dropWhile_suffix (p := isNameChar) (l := rest)).length_le
    simp only [List.length_cons]
    omega
  · simp only [List.length_cons]; omega
  · simp only [List.length_cons]; omega

/-- Replaces a tilde at the start by the home directory. -/
def replaceHome (home : Option String) (text : List Char) : List Char :=
  match text, home with
  | ['~'], some home => home.toList
  | '~' :: '/' :: rest, some home => home.toList ++ '/' :: rest
  | text, _ => text

/-- The path that a text stands for. A tilde that comes from a variable stays. -/
def expand (environment : Variables) (text : String) : Except Error String := do
  let replaced ← replaceVariables environment text.toList
  let home := (environment "HOME").filter (!·.isEmpty)
  return String.ofList (if text.startsWith "~" then replaceHome home replaced else replaced)

end Expansion

end AttributeBrowser
