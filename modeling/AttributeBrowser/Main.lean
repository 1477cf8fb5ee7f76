import AttributeBrowser.Command.Start
import AttributeBrowser.Csv.Reader
import AttributeBrowser.Dump.FileTree
import AttributeBrowser.Screen.Session
import AttributeBrowser.Viewer.TerminalInput

/-!
# The command

Reads the arguments, the environment and the files that they name, and shows the
viewer on the terminal, which has to pass keys on as they are typed. All decisions
are made elsewhere; this module asks the system and prints.
-/

namespace AttributeBrowser.Command

/-! ## Asking the system -/

/-- The words of a text that could be names of variables. -/
def words (text : String) : List String :=
  ((text.toList.splitBy fun a b => Expansion.isNameChar a == Expansion.isNameChar b).map
    String.ofList).filter fun word => word.toList.all Expansion.isNameChar

/-- The name of the log. -/
def logName : String := "attribute-browser.log"

/-- The variable with the filter of the log. -/
def filterVariable : String := "ATTRIBUTE_BROWSER_LOG"

/-- The values of the variables that the texts may name. -/
def environment (texts : List String) : IO (List (String × String)) := do
  let names := ["HOME", "TMPDIR", filterVariable, "COLUMNS", "LINES"] ++ texts.flatMap words
  let found ← names.mapM fun name => do
    return (← IO.getEnv name).map (name, ·)
  return found.reduceOption

/-- Why a file cannot be read. -/
def failure : IO.Error → StatFailure
  | .noFileOrDirectory _ _ _ => .notFound
  | .permissionDenied _ _ _ => .permissionDenied
  | error => .other (.stated (toString error))

/-- What stands at a path: bytes, or something that is no file. -/
def look (path : String) : IO (Except StatFailure (Option (List UInt8))) := do
  try
    return .ok (some (← IO.FS.readBinFile path).toList)
  catch
    | .inappropriateType _ _ _ => return .ok none
    | error => return .error (failure error)

/-- A disk with what was found at some paths. -/
def diskOf (found : List (Path × Except StatFailure (Option (List UInt8)))) : Disk where
  stat path :=
    match found.lookup path with
    | some (.ok (some bytes)) => .ok { isFile := true, size := bytes.length }
    | some (.ok none) => .ok { isFile := false, size := 0 }
    | some (.error reason) => .error reason
    | none => .error .notFound
  read format path :=
    match found.lookup path with
    | some (.ok (some bytes)) => (FileContent.bytes bytes).read format
    | _ => .error .unknownFormat

/-- Makes the file of the log. -/
def createLog (path : String) : IO (Except IoReason Unit) := do
  try
    IO.FS.writeFile path ""
    return .ok ()
  catch
    | .noFileOrDirectory _ _ _ => return .error .missing
    | error => return .error (.stated (toString error))

/-! ## Showing a viewer -/

/-- The codes that a terminal takes for a style. -/
def styleCodes (style : Style) : String :=
  let color :=
    match style.color with
    | .plain => ""
    | .blue => ";34"
    | .yellow => ";33"
    | .darkGray => ";90"
  "\x1b[0" ++ color ++ (if style.bold then ";1" else "") ++ (if style.dim then ";2" else "")
    ++ (if style.underlined then ";4" else "") ++ (if style.reversed then ";7" else "") ++ "m"

/-- The codes that draw a screen. -/
def screenCodes (screen : Screen) : String :=
  let lines := screen.lines.zipIdx.map fun (line, y) =>
    "\x1b[" ++ (y + 1).repr ++ ";1H"
      ++ String.join ((Line.uncovered 0 line).map fun square =>
        styleCodes square.style ++ square.symbol)
  String.join lines ++ "\x1b[0m"

/-- Applies the events of one read, up to the one that makes the viewer quit. -/
def applyAll (viewer : Viewer) : List Event → Except Fault Viewer
  | [] => .ok viewer
  | event :: events =>
    if viewer.status = .quitting then .ok viewer
    else
      match Session.poll viewer event with
      | .error fault => .error fault
      | .ok next => applyAll next events

/-- Draws the viewer and reads keys until it quits or the input ends. -/
partial def interact (viewer : Viewer) (pane : PaneState) (width height : Nat) : IO UInt32 := do
  let (screen, pane) := viewer.draw width height pane
  let output ← IO.getStdout
  output.putStr (screenCodes screen)
  output.flush
  let bytes ← (← IO.getStdin).read 64
  if bytes.isEmpty then return 0
  let events := TerminalInput.events (Utf8.decodeLossy bytes.toList).toList
  match applyAll viewer events with
  | .error _ => return 101
  | .ok viewer =>
    if viewer.status = .quitting then return 0 else interact viewer pane width height

/-- Shows a source on the terminal. -/
def present (name : String) (source : Source) (width height : Nat) : IO UInt32 := do
  match Viewer.start name source width height with
  | .error _ => return 101
  | .ok viewer =>
    IO.print "\x1b[?1049h\x1b[?25l"
    let code ← interact viewer {} width height
    IO.print "\x1b[?25h\x1b[?1049l"
    return code

/-! ## The command line -/

/-- What the command accepts. -/
def usage : String :=
  "Usage: attribute-browser [OPTIONS] <PATH>\n\n" ++
  "  -k, --kind <KIND>              raw, exception-table, line-number-table,\n" ++
  "                                 local-variable-table or exceptions\n" ++
  "  -p, --constant-pool <PATH>     constant pool dump with index and value columns\n" ++
  "      --max-column-width <N>     widest column (40)\n" ++
  "      --poll-ms <N>              wait for a key, in milliseconds (100)\n" ++
  "      --log-file <PATH>          where the log goes\n" ++
  "      --log-level <FILTER>       what is logged (info)\n"

/-- Runs the command with arguments that were read. -/
def runWith (options : Options) : IO UInt32 := do
  let texts := [some options.path, options.constantPool, options.logFile].reduceOption
  let values ← environment texts
  let lookup := fun name => values.lookup name
  let bare : Host :=
    { environment := lookup, logName, filterVariable, createLog := fun _ => .ok (diskOf []) }
  let made ←
    match bare.logPath options with
    | .error _ => pure (.ok ())
    | .ok path => createLog ((Utf8.decode? path.bytes).getD "")
  let wanted := [some options.path, options.constantPool].reduceOption
  let found ← wanted.filterMapM fun text => do
    match Expansion.expand lookup text with
    | .error _ => return none
    | .ok path => return some (Path.ofString path, ← look path)
  let host := { bare with createLog := fun _ => made.map fun _ => diskOf found }
  match host.openDump options with
  | .error error =>
    IO.eprintln ("Error: " ++ error.message)
    return 1
  | .ok (.error _) => return 101
  | .ok (.ok (name, source)) =>
    let size := fun (name : String) (default : Nat) => ((lookup name).bind Options.count?).getD default
    present name source (size "COLUMNS" 80) (size "LINES" 24)

end AttributeBrowser.Command

open AttributeBrowser in
/-- The command. -/
def main (arguments : List String) : IO UInt32 := do
  match Options.read arguments with
  | .error .usage =>
    IO.eprint Command.usage
    return 2
  | .error .information =>
    IO.print Command.usage
    return 0
  | .ok options => Command.runWith options
