import PartitionSize.Command

/-!
# The command `parse`

Reads a statement and prints its schema.
-/

namespace PartitionSize.ParseCommand

/-- Why the command failed. -/
inductive Error where
  | unreadable (path : String) (e : FileError)
  | statement (path : String) (e : StatementError)
deriving Repr, DecidableEq

/-- The text of the error. -/
def Error.message : Error → String
  | .unreadable path e => PartitionSize.unreadable path e
  | .statement path e => "unable to parse schema " ++ path ++ ": " ++ e.message

/-- The name of the command as the target of its events. -/
def target : String := "pcalc_cli::cmd_parse"

/-- The event of a statement that was read. -/
def parsed (s : Schema) : Trace.Event :=
  { level := .info
    target
    domain := .parse
    message := "schema parsed"
    fields := [("table", .text s.tableName), ("columns", .number s.columns.length)] }

/-- The schema in the format. -/
def text (format : OutputFormat) (s : Schema) : Option String :=
  match format with
  | .plain => s.render?
  | .json => some s.toJson.pretty

/-- The command on a file with the given contents. -/
def run (path : String) (contents : Except FileError String) (format : OutputFormat) :
    Report Error :=
  match contents with
  | .error e => { result := .error (.unreadable path e) }
  | .ok input =>
    match Schema.parse input with
    | .error e => { result := .error (.statement path e) }
    | .ok s => { events := [parsed s], result := .ok (text format s) }

end PartitionSize.ParseCommand
