import PartitionSize.Statement.Reader
import PartitionSize.Schema.SizeEstimate
import PartitionSize.Estimation

/-!
# From a statement to an estimate

`calculate` reads a statement, gives its columns their sizes and estimates a partition. The stages
fail in that order, after a negative row count; `CalculationError` says which stage failed and why,
and each stage has a code.
-/

namespace PartitionSize

open Text

/-- Which stage of a calculation failed, and why. -/
inductive CalculationError where
  /-- The number of rows is below zero. -/
  | negativeRows (rows : Int)
  /-- The text is not an acceptable statement. -/
  | statement (cause : StatementError)
  /-- A column cannot take the size that is given for it. -/
  | sizeEstimate (column : String) (cause : SizeEstimateError)
  /-- The estimate does not fit into 64 bits. -/
  | overflow (tableName : String) (rows : Int)
deriving Repr, DecidableEq

namespace CalculationError

/-- The number of the stage. -/
def code : CalculationError → Nat
  | .statement _ => 1001
  | .sizeEstimate .. => 1002
  | .negativeRows _ => 1003
  | .overflow .. => 1004

/-- What went wrong. -/
def message : CalculationError → String
  | .statement cause => "schema parse error: " ++ cause.message
  | .sizeEstimate _ cause => "size estimate error: " ++ cause.message
  | .negativeRows _ => "invalid row count"
  | .overflow .. => "estimate exceeds the 64-bit range"

/-- What it went wrong with, where the message does not say. -/
def detail? : CalculationError → Option String
  | .statement _ => none
  | .sizeEstimate column _ => some ("column " ++ quote column)
  | .negativeRows rows => some ("row count must be >= 0, got " ++ toString rows)
  | .overflow tableName rows =>
    some ("table " ++ tableName ++ " with " ++ toString rows ++ " rows")

/-- The whole report: code, message and detail. -/
def report (e : CalculationError) : String :=
  "[" ++ toString e.code ++ "] " ++ e.message ++
    match e.detail? with
    | none => ""
    | some detail => "\n  -> Details: " ++ detail

end CalculationError

/-- A schema with its sizes, and the estimate for it. -/
structure Calculation where
  schema : Schema
  estimation : Estimation
deriving Repr, DecidableEq

/-- The schema with the sizes; an error belongs to the stage of size estimates. -/
def Schema.applySizes (s : Schema) (sizes : List (String × Int)) : Except CalculationError Schema :=
  match s.withSizeEstimates sizes with
  | .error (column, cause) => .error (.sizeEstimate column cause)
  | .ok s => .ok s

/-- The statement in `text`, with `sizes` in order, estimated for `rows` rows. -/
def calculate (text : String) (rows : Int) (sizes : List (String × Int)) :
    Except CalculationError Calculation :=
  if rows < 0 then .error (.negativeRows rows)
  else
    match Schema.parse text with
    | .error cause => .error (.statement cause)
    | .ok parsed =>
      match parsed.applySizes sizes with
      | .error e => .error e
      | .ok schema =>
        match schema.estimate? rows with
        | none => .error (.overflow schema.tableName rows)
        | some estimation => .ok { schema, estimation }

end PartitionSize
