import PartitionSize.Command
import PartitionSize.Quantity.SizeOverride

/-!
# The command `evaluate`

Reads a statement, gives its columns the sizes of the settings and then those of the command line,
and prints the estimate of a partition. Since later sizes replace earlier ones, the command line
wins. Every variable-size column that is left without a size is warned about, for it counts as zero
bytes.
-/

namespace PartitionSize.EvaluateCommand

/-- What the command line says. -/
structure Inputs where
  file : String
  rows : Option RowCount := none
  sizes : List SizeOverride := []
  format : OutputFormat := .plain

/-- Why the command failed. -/
inductive Error where
  | unreadable (path : String) (e : FileError)
  | calculation (path : String) (e : CalculationError)
deriving Repr, DecidableEq

/-- The text of the error. -/
def Error.message : Error → String
  | .unreadable path e => PartitionSize.unreadable path e
  | .calculation path e => "unable to evaluate " ++ path ++ ": " ++ e.report

/-- The number of rows: that of the command line, else that of the settings. -/
def rows (inputs : Inputs) (settings : Settings) : Int :=
  ((inputs.rows.getD settings.estimate.rows).count : Int)

/-- The sizes in the order in which they apply. -/
def sizes (inputs : Inputs) (settings : Settings) : List (String × Int) :=
  settings.sizeEstimates ++ inputs.sizes.map SizeOverride.toPair

/-! ## Events -/

/-- The name of the command as the target of its events. -/
def target : String := "pcalc_cli::cmd_evaluate"

/-- The event of the sizes being put together. -/
def merging (inputs : Inputs) (settings : Settings) : Trace.Event :=
  { level := .debug
    target
    domain := .conf
    message := "merging size estimates"
    fields :=
      [("config_sizes", .number settings.sizeEstimates.length),
        ("cli_sizes", .number inputs.sizes.length)] }

/-- The event of the calculation being started. -/
def evaluating (inputs : Inputs) (settings : Settings) : Trace.Event :=
  { level := .debug
    target
    domain := .est
    message := "evaluating schema"
    fields :=
      [("rows", .number (rows inputs settings)),
        ("sizes", .number (sizes inputs settings).length)] }

/-- The warning about a column that counts as zero bytes. -/
def warning (c : Column) : Trace.Event :=
  { level := .warn
    target
    domain := .est
    message := "no size estimate for variable-size column, counted as 0 bytes"
    fields := [("column", .text c.name), ("data_type", .text c.dataType.name)] }

/-- The warnings about a schema, in declaration order. -/
def warnings (s : Schema) : List Trace.Event := (s.columns.filter Column.lacksEstimate).map warning

/-- The event of the estimate being there. -/
def complete (c : Calculation) : Trace.Event :=
  { level := .info
    target
    domain := .est
    message := "estimate complete"
    fields :=
      [("table", .text c.schema.tableName), ("values", .number c.estimation.values),
        ("bytes", .number c.estimation.bytes)] }

/-! ## The command -/

/-- The estimate in the format. JSON objects have their fields in order of the keys. -/
def text (format : OutputFormat) (rows : Int) (c : Calculation) : Option String :=
  match format with
  | .plain => c.render? rows
  | .json => some (c.toJson rows).sorted.pretty

/-- The calculation of the command on a text. -/
def calculation (inputs : Inputs) (settings : Settings) (input : String) :
    Except CalculationError Calculation :=
  calculate input (rows inputs settings) (sizes inputs settings)

/-- The command on a file with the given contents. -/
def run (inputs : Inputs) (settings : Settings) (contents : Except FileError String) :
    Report Error :=
  match contents with
  | .error e => { result := .error (.unreadable inputs.file e) }
  | .ok input =>
    Report.after [merging inputs settings, evaluating inputs settings] <|
      match calculation inputs settings input with
      | .error e => { result := .error (.calculation inputs.file e) }
      | .ok c =>
        { events := warnings c.schema ++ [complete c]
          result := .ok (text inputs.format (rows inputs settings) c) }

end PartitionSize.EvaluateCommand
