/-!
# Errors

Why a dump cannot be shown. Errors are causes; the sentence for each stands in
`Error.message`. Reasons that some other component words itself are carried as
that component's text.
-/

namespace AttributeBrowser

/-- Why a request to the file system failed, a missing file and a missing
permission apart. -/
inductive IoReason
  | notADirectory
  | nameTooLong
  | isADirectory
  | missing
  | nulInName
  | stated (text : String)
deriving DecidableEq, Repr

/-- The text of a failed request, in the words of the system. -/
def IoReason.message : IoReason → String
  | .notADirectory => "Not a directory (os error 20)"
  | .nameTooLong => "File name too long (os error 36)"
  | .isADirectory => "Is a directory (os error 21)"
  | .missing => "No such file or directory (os error 2)"
  | .nulInName => "file name contained an unexpected NUL byte"
  | .stated text => text

/-- Why data cannot be made into a frame, or a column not be converted. -/
inductive FrameReason
  | unequalColumns
  | repeatedName
  | noData
  | openQuote
  | tooManyFields
  | invalidField
  | invalidText
  | unknownFormat
  | notConvertible
  | stated (text : String)
deriving DecidableEq, Repr

/-- The text of data that is no frame. -/
def FrameReason.message : FrameReason → String
  | .unequalColumns => "columns of unequal length"
  | .repeatedName => "two columns of one name"
  | .noData => "empty data"
  | .openQuote => "a quoted field is not closed"
  | .tooManyFields => "a line has more fields than the header"
  | .invalidField => "a field does not fit the type of its column"
  | .invalidText => "invalid utf-8"
  | .unknownFormat => "the file is not in the format of its extension"
  | .notConvertible => "a column cannot be converted"
  | .stated text => text

/-- Why a value is refused. -/
inductive ValueReason
  /-- The whole number in a row of a column is no 16-bit number. -/
  | outOfRange (column : String) (row : Nat) (value : Int)
  /-- A row of a column holds no whole number. -/
  | empty (column : String) (row : Nat)
  /-- A path names a variable that is not set. -/
  | unsetVariable (name : String)
  | stated (text : String)
deriving DecidableEq, Repr

/-- The text of a refused value. Rows are counted from zero. -/
def ValueReason.message : ValueReason → String
  | .outOfRange column row value =>
    column ++ "[" ++ row.repr ++ "] = " ++ value.repr ++ " is not a u16"
  | .empty column row => column ++ "[" ++ row.repr ++ "] is empty"
  | .unsetVariable name =>
    "error looking key '" ++ name ++ "' up: environment variable not found"
  | .stated text => text

/-- Why a file cannot be loaded. -/
inductive LoadReason
  | notAFile
  | stated (text : String)
deriving DecidableEq, Repr

/-- The text of a file that cannot be loaded. -/
def LoadReason.message : LoadReason → String
  | .notAFile => "Not a file!"
  | .stated text => text

/-- Why a log filter is refused. -/
inductive LogReason
  | invalidDirective
  | invalidLevel
  | stated (text : String)
deriving DecidableEq, Repr

/-- The text of a refused log filter. -/
def LogReason.message : LogReason → String
  | .invalidDirective => "invalid filter directive"
  | .invalidLevel =>
    "error parsing level filter: expected one of \"off\", \"error\", \"warn\", \"info\", " ++
      "\"debug\", \"trace\", or a number 0-5"
  | .stated text => text

/-- Why a dump cannot be shown. -/
inductive Error
  | io (reason : IoReason)
  | frame (reason : FrameReason)
  | loadingFailed (reason : LoadReason)
  | missingColumn (name : String)
  | invalidValue (reason : ValueReason)
  | loggingFailed (reason : LogReason)
  | fileNotFound
  | permissionDenied
  | unknownFileType
deriving DecidableEq, Repr

namespace Error

/-- The sentence shown for an error. -/
def message : Error → String
  | .io reason => "io error: " ++ reason.message
  | .frame reason => "polars error: " ++ reason.message
  | .loadingFailed reason => "loading failed: " ++ reason.message
  | .missingColumn name => "missing column \"" ++ name ++ "\""
  | .invalidValue reason => "invalid value: " ++ reason.message
  | .loggingFailed reason => "could not set up logging: " ++ reason.message
  | .fileNotFound => "file not found"
  | .permissionDenied => "permission denied"
  | .unknownFileType => "unknown file type"

/-- The text of the error of another component that this one wraps. -/
def cause? : Error → Option String
  | .io reason => some reason.message
  | .frame reason => some reason.message
  | _ => none

/-- An error that wraps another one ends with the text of that one. -/
theorem message_of_cause? {error : Error} {text : String} (h : error.cause? = some text) :
    error.message = "io error: " ++ text ∨ error.message = "polars error: " ++ text := by
  cases error with
  | io reason =>
    cases h
    exact .inl rfl
  | frame reason =>
    cases h
    exact .inr rfl
  | _ => cases h

end Error

end AttributeBrowser
