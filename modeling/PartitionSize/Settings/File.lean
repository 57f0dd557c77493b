import PartitionSize.Files
import PartitionSize.Settings.Decode

/-!
# Settings files

`Settings.ofFile` gets the path of a settings file and what reading it gave.
-/

namespace PartitionSize

/-- Why a file holds no settings. -/
inductive SettingsFileError where
  | unreadable (path : String) (e : FileError)
  /-- The text of the file is not what it should be. -/
  | contents (text : String) (e : SettingsError)
deriving Repr, DecidableEq

/-- The text of the error; a value that does not fit is shown in its place. -/
def SettingsFileError.message : SettingsFileError → String
  | .unreadable path e => "failed to read " ++ path ++ ": " ++ e.message
  | .contents text e => e.report text

/-- The settings in a file with the given contents. -/
def Settings.ofFile (path : String) (contents : Except FileError String) :
    Except SettingsFileError Settings :=
  match contents with
  | .error e => .error (.unreadable path e)
  | .ok text => (Settings.parse text).mapError (.contents text)

end PartitionSize
