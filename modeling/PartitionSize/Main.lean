import PartitionSize.Command.Run
import Std.Time.Format

/-!
# The program on a machine

The outer layer: the machine's files, clock, environment and outputs, as `Program.run` wants them.
-/

namespace PartitionSize.Machine

/-- The error of a file operation, by its cause. -/
def fileError : IO.Error → FileError
  | .noFileOrDirectory .. => .notFound
  | .alreadyExists .. => .exists
  | .inappropriateType _ code details =>
    if code = 20 then .notADirectory else if code = 21 then .isADirectory else .other details
  | .invalidArgument _ code details => if code = 36 then .nameTooLong else .other details
  | e => .other e.toString

/-- An action on a path, with its error as a value. -/
def attempt {α : Type} (path : String) (action : IO α) : IO (Except FileError α) := do
  match Path.invalid? path with
  | some e => return .error e
  | none =>
    match ← action.toBaseIO with
    | .ok a => return .ok a
    | .error e => return .error (fileError e)

/-- The files of the machine. -/
def files : Files IO where
  canonical path := attempt path do return (← IO.FS.realPath path).toString
  read path := do
    match ← attempt path (IO.FS.readBinFile path) with
    | .error e => return .error e
    | .ok bytes =>
      match String.fromUTF8? bytes with
      | some text => return .ok text
      | none => return .error .notText
  createDirectories path := attempt path (IO.FS.createDirAll path)
  append path text := do
    let handle ← IO.FS.Handle.mk path .append
    handle.putStr text

/-- The present time in UTC, to the microsecond. -/
def clock : IO String := do
  let now := Std.Time.DateTime.ofTimestamp (← Std.Time.Timestamp.now) Std.Time.TimeZone.ZoneRules.UTC
  return now.format "uuuu-MM-dd'T'HH:mm:ss.SSSSSS'Z'"

/-- The machine as the program sees it. -/
def world : IO (Program.World IO) := do
  let filter ← IO.getEnv "RUST_LOG"
  let noColour ← IO.getEnv "NO_COLOR"
  let out ← IO.getStdout
  let err ← IO.getStderr
  return {
    files
    filter
    noColour := noColour.getD "" != ""
    time := clock
    writeOut := out.putStr
    writeErr := err.putStr }

end PartitionSize.Machine

/-- The program on this machine, to its exit code. -/
def main (arguments : List String) : IO UInt32 := do
  PartitionSize.Program.run (← PartitionSize.Machine.world) arguments
