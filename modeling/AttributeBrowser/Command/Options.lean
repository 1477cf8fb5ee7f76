import AttributeBrowser.Frame.Decoding
import AttributeBrowser.Viewer.Settings

/-!
# Command line options

The arguments of the command: the path of a dump and options, each at most once.
Arguments are read from left to right; the first one that cannot be read, or that
asks for help or the version, decides. Behind two hyphens all arguments are paths.
-/

namespace AttributeBrowser

/-- What the arguments ask for. -/
structure Options where
  path : String
  kind : AttributeKind := .raw
  constantPool : Option String := none
  settings : Settings := {}
  logFile : Option String := none
  logLevel : String := "info"
deriving DecidableEq, Repr

/-- Why the arguments do not start a viewer. -/
inductive Refusal
  /-- The arguments cannot be read. -/
  | usage
  /-- The arguments ask for help or the version. -/
  | information
deriving DecidableEq, Repr

namespace Options

/-- The options that take a value. -/
inductive Name
  | kind
  | constantPool
  | maxColumnWidth
  | pollTime
  | logFile
  | logLevel
deriving DecidableEq, Repr

/-- The option behind two hyphens. -/
def Name.ofLong? : String → Option Name
  | "kind" => some .kind
  | "constant-pool" => some .constantPool
  | "max-column-width" => some .maxColumnWidth
  | "poll-ms" => some .pollTime
  | "log-file" => some .logFile
  | "log-level" => some .logLevel
  | _ => none

/-- The option of one letter behind a hyphen. -/
def Name.ofShort? : Char → Option Name
  | 'k' => some .kind
  | 'p' => some .constantPool
  | _ => none

/-- The arguments read so far. -/
structure Draft where
  path : Option String := none
  kind : Option AttributeKind := none
  constantPool : Option String := none
  maxColumnWidth : Option Nat := none
  pollTime : Option Nat := none
  logFile : Option String := none
  logLevel : Option String := none

/-- The kind of attribute that a word names, letter by letter. -/
def kind? : String → Option AttributeKind
  | "raw" => some .raw
  | "exception-table" => some .exceptionTable
  | "line-number-table" => some .lineNumberTable
  | "local-variable-table" => some .localVariableTable
  | "exceptions" => some .exceptions
  | _ => none

/-- A count in decimal digits, with a plus sign if wanted. -/
def count? (text : String) : Option Nat :=
  let digits :=
    match text.toList with
    | '+' :: digits => digits
    | digits => digits
  match Conversion.digits? digits with
  | some n => if n < Size.limit then some n else none
  | none => none

/-- A value for a field that has none yet. -/
def once {α : Type} (field value : Option α) : Option (Option α) :=
  match field, value with
  | none, some value => some (some value)
  | _, _ => none

/-- Takes the value of an option, once and only if it fits. -/
def Draft.set (draft : Draft) (name : Name) (value : String) : Option Draft :=
  match name with
  | .kind => (once draft.kind (kind? value)).map ({ draft with kind := · })
  | .constantPool => (once draft.constantPool (some value)).map ({ draft with constantPool := · })
  | .maxColumnWidth =>
    (once draft.maxColumnWidth (count? value)).map ({ draft with maxColumnWidth := · })
  | .pollTime => (once draft.pollTime (count? value)).map ({ draft with pollTime := · })
  | .logFile => (once draft.logFile (some value)).map ({ draft with logFile := · })
  | .logLevel => (once draft.logLevel (some value)).map ({ draft with logLevel := · })

/-- Takes the path, once. -/
def Draft.setPath (draft : Draft) (path : String) : Option Draft :=
  (once draft.path (some path)).map ({ draft with path := · })

/-- Fills in what was not given; the path has to be. -/
def Draft.finish (draft : Draft) : Except Refusal Options :=
  match draft.path with
  | none => .error .usage
  | some path =>
    let defaults : Settings := {}
    .ok {
      path
      kind := draft.kind.getD .raw
      constantPool := draft.constantPool
      settings :=
        { pollTime := draft.pollTime.getD defaults.pollTime
          maxColumnWidth := draft.maxColumnWidth.getD defaults.maxColumnWidth }
      logFile := draft.logFile
      logLevel := draft.logLevel.getD "info" }

/-- What an argument is. -/
inductive Argument
  /-- A path, or the value of the option before it. -/
  | plain
  /-- From here on all arguments are paths. -/
  | separator
  /-- An option with its value, or whose value is the next argument. -/
  | option (name : Name) (value : Option String)
  | information
  | unknown
deriving DecidableEq, Repr

/-- An argument behind two hyphens, with its value behind an equals sign. -/
def classifyLong (body : List Char) : Argument :=
  let name := String.ofList (body.takeWhile (· ≠ '='))
  let value? :=
    match body.dropWhile (· ≠ '=') with
    | [] => none
    | _ :: value => some (String.ofList value)
  if (name = "help" ∨ name = "version") ∧ value? = none then .information
  else
    match Name.ofLong? name with
    | some name => .option name value?
    | none => .unknown

/-- An argument behind one hyphen, with its value right behind the letter or behind an
equals sign. -/
def classifyShort (letter : Char) (rest : List Char) : Argument :=
  if letter = 'h' ∨ letter = 'V' then .information
  else
    match Name.ofShort? letter with
    | none => .unknown
    | some name =>
      match rest with
      | [] => .option name none
      | '=' :: value => .option name (some (String.ofList value))
      | value => .option name (some (String.ofList value))

/-- What an argument is, by the hyphens in front. One hyphen alone is plain. -/
def classify (argument : String) : Argument :=
  match argument.toList with
  | ['-', '-'] => .separator
  | '-' :: '-' :: body => classifyLong body
  | '-' :: letter :: rest => classifyShort letter rest
  | _ => .plain

/-- Reads arguments that are all paths. -/
def readPaths (draft : Draft) : List String → Except Refusal Options
  | [] => draft.finish
  | path :: rest =>
    match draft.setPath path with
    | some draft => readPaths draft rest
    | none => .error .usage

/-- Reads arguments on top of those read so far; `pending` is an option that waits for
its value. -/
def readFrom (draft : Draft) (pending : Option Name) : List String → Except Refusal Options
  | [] => if pending.isSome then .error .usage else draft.finish
  | argument :: rest =>
    match pending, classify argument with
    | some name, .plain =>
      match draft.set name argument with
      | some draft => readFrom draft none rest
      | none => .error .usage
    | some _, _ => .error .usage
    | none, .plain =>
      match draft.setPath argument with
      | some draft => readFrom draft none rest
      | none => .error .usage
    | none, .separator => readPaths draft rest
    | none, .option name (some value) =>
      match draft.set name value with
      | some draft => readFrom draft none rest
      | none => .error .usage
    | none, .option name none => readFrom draft (some name) rest
    | none, .information => .error .information
    | none, .unknown => .error .usage

/-- What the arguments of the command ask for. -/
def read (arguments : List String) : Except Refusal Options := readFrom {} none arguments

end Options

end AttributeBrowser
