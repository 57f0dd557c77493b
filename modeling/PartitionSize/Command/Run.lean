import PartitionSize.Command.Arguments
import PartitionSize.Command.Evaluate
import PartitionSize.Command.Parse
import PartitionSize.Settings.File
import PartitionSize.Trace.Filter

/-!
# Running the program

`Program.run` goes from the arguments to the exit code: it reads the settings, opens the trace, runs
the command and prints what it has to say. It needs a file system, the environment and two outputs,
and says in which order they are used; all else is computed by the modules it calls.
-/

namespace PartitionSize.Program

/-- What the program needs of the world. -/
structure World (m : Type → Type) where
  files : Files m
  /-- The trace filter of the environment, if it has one. -/
  filter : Option String
  /-- Whether the environment asks for text without colours. -/
  noColour : Bool
  /-- The time as it stands in front of events. -/
  time : m String
  writeOut : String → m Unit
  writeErr : String → m Unit

/-- A step of the program: it may end with a message. -/
abbrev Step (m : Type → Type) := ExceptT String m

/-- The result of a file operation, or the message that ends the program. -/
def orFail {m : Type → Type} {α : Type} [Monad m] (message : FileError → String)
    (r : m (Except FileError α)) : Step m α := do
  match ← r with
  | .error e => throw (message e)
  | .ok a => return a

/-- The settings that the arguments name, and the directory that holds their file. -/
def readSettings {m : Type → Type} [Monad m] (w : World m) (config : Option String) :
    Step m (Settings × String) := do
  match config with
  | none => return ({}, ".")
  | some path =>
    let file ← orFail (fun e => "config path '" ++ path ++ "': " ++ e.message)
      (w.files.canonical path)
    match Settings.ofFile file (← (w.files.read file : m (Except FileError String))) with
    | .error e => throw e.message
    | .ok settings => return (settings, (Path.parent? file).getD ".")

/-! ## The trace -/

/-- Where events go. -/
structure Sink where
  filter : Trace.Filter
  format : OutputFormat
  file : Option String

/-- The filter of the environment, if there is one, or that of the settings. What cannot be read of
the first is complained about and left out. -/
def traceFilter {m : Type → Type} [Monad m] (w : World m) (logging : LoggingSettings) :
    Step m Trace.Filter := do
  match w.filter with
  | some text =>
    let (filter, complaints) := Trace.Filter.parseLenient text
    complaints.forM fun line => w.writeErr (line ++ "\n")
    return filter
  | none =>
    match Trace.Filter.parse logging.directives with
    | .error e => throw ("invalid log filter '" ++ logging.directives ++ "': " ++ e.message)
    | .ok filter => return filter

/-- The file for events, seen from a directory. The directories that hold it are made, and so is the
file. -/
def openTraceFile {m : Type → Type} [Monad m] (w : World m) (directory path : String) :
    Step m String := do
  let path := Path.join directory path
  match Path.parent? path, Path.fileName? path with
  | none, _ => throw "log file path has no parent directory"
  | _, none => throw "log file path has no file name"
  | some holder, some name =>
    orFail FileError.message (w.files.createDirectories holder)
    let file := Path.join holder name
    w.files.append file ""
    return file

/-- The trace that the settings ask for. -/
def openTrace {m : Type → Type} [Monad m] (w : World m) (logging : LoggingSettings)
    (directory : String) : Step m Sink := do
  let filter ← traceFilter w logging
  let file ← logging.file.mapM (openTraceFile w directory)
  return { filter, format := logging.format, file }

/-- Writes the events that pass. -/
def emit {m : Type → Type} [Monad m] (w : World m) (sink : Sink) (events : List Trace.Event) :
    m Unit :=
  (events.filter sink.filter.passes).forM fun e => do
    let time ← w.time
    w.writeErr (e.line sink.format (!w.noColour) time)
    match sink.file with
    | none => return
    | some file => w.files.append file (e.line sink.format false time)

/-! ## The program -/

/-- The report of a command, with errors as messages. -/
def report {m : Type → Type} [Monad m] (w : World m) (arguments : Arguments) (settings : Settings) :
    m (Report String) := do
  let format := if arguments.json then .json else settings.output.format
  match arguments.action with
  | .parse file =>
    let r := ParseCommand.run file (← w.files.read file) format
    return { events := r.events, result := r.result.mapError (·.message) }
  | .evaluate file rows sizes =>
    let r := EvaluateCommand.run { file, rows, sizes, format } settings (← w.files.read file)
    return { events := r.events, result := r.result.mapError (·.message) }

/-- The complaint about a table that cannot be printed. -/
def tooWide : String := "Formatting argument out of range"

/-- Everything after the arguments are read, to the exit code: 101 where there is no text to
print. -/
def runArguments {m : Type → Type} [Monad m] (w : World m) (arguments : Arguments) :
    Step m UInt32 := do
  let (settings, directory) ← readSettings w arguments.config
  let sink ← openTrace w settings.logging directory
  let r ← (report w arguments settings : m (Report String))
  (emit w sink r.events : m Unit)
  match r.result with
  | .error message => throw message
  | .ok none =>
    w.writeErr (tooWide ++ "\n")
    return 101
  | .ok (some text) =>
    w.writeOut (text ++ "\n")
    return 0

/-- The whole program, to its exit code: 2 after wrong arguments, 1 after an error behind them. -/
def run {m : Type → Type} [Monad m] (w : World m) (arguments : List String) : m UInt32 := do
  match Arguments.parse arguments with
  | .error (.help true) =>
    w.writeOut (UsageError.help true).report
    return 0
  | .error e =>
    w.writeErr e.report
    return 2
  | .ok arguments =>
    match ← (runArguments w arguments).run with
    | .error message =>
      w.writeErr ("Error: " ++ message ++ "\n")
      return 1
    | .ok code => return code

end PartitionSize.Program
