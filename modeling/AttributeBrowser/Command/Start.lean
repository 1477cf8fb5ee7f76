import AttributeBrowser.Command.Expansion
import AttributeBrowser.Command.LogFilter
import AttributeBrowser.Command.Options
import AttributeBrowser.Dump.Load
import AttributeBrowser.Viewer.Session

/-!
# Starting a viewer

From the arguments of the command to a viewer: the log is set up first, then the
dump is loaded, then the constant pool, and then the dump is decoded. The first of
these that fails is reported.
-/

namespace AttributeBrowser

/-- What a command finds around it. -/
structure Host where
  environment : Expansion.Variables
  /-- The name of the log in the directory for temporary files. -/
  logName : String
  /-- The variable with the filter of the log. -/
  filterVariable : String
  /-- The disk once the file of the log has been made. -/
  createLog : Path → Except IoReason Disk

namespace Host

/-- Where the log goes if nothing else is asked for. -/
def defaultLog (host : Host) : String :=
  let directory := (host.environment "TMPDIR").getD "/tmp"
  if directory.isEmpty then host.logName
  else if directory.endsWith "/" then directory ++ host.logName
  else directory ++ "/" ++ host.logName

/-- The file of the log. -/
def logPath (host : Host) (options : Options) : Except Error Path := do
  match options.logFile with
  | some text => return Path.ofString (← Expansion.expand host.environment text)
  | none => return Path.ofString host.defaultLog

/-- Sets up the log. -/
def setUpLog (host : Host) (options : Options) : Except Error Disk := do
  let disk ← (host.createLog (← host.logPath options)).mapError .io
  (LogFilter.choose (host.environment host.filterVariable) options.logLevel).mapError .loggingFailed
  return disk

/-- The constant pool of a dump. -/
def loadPool (host : Host) (disk : Disk) (options : Options) : Except Error ConstantPool := do
  match options.constantPool with
  | none => return {}
  | some text =>
    let frame ← disk.load (Path.ofString (← Expansion.expand host.environment text))
    frame.constantPool

/-- The name of a dump and its source. -/
def openDump (host : Host) (options : Options) :
    Except Error (Except Fault (String × Source)) := do
  let disk ← host.setUpLog options
  let path := Path.ofString (← Expansion.expand host.environment options.path)
  let frame ← disk.load path
  let pool ← host.loadPool disk options
  let source ← frame.sourceAs options.kind pool options.settings.maxColumnWidth
  return source.map (path.displayName, ·)

end Host

/-- A viewer of a source on a screen of a size, with row numbers of its own. -/
def Viewer.start (name : String) (source : Source) (width height : Nat)
    (clipboard : Option Clipboard := none) : Except Fault Viewer := do
  let (table, numbers) ← TableView.openOn source {}
  Viewer.init name table numbers width height clipboard

end AttributeBrowser
