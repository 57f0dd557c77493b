import PartitionSize.Schema
import PartitionSize.Text.Quoted

/-!
# Size estimates

`Schema.withSizeEstimate` gives the columns of a name a size, in all three lists of the schema. The
name has to be declared, the first column of that name has to be of variable size, and the size must
not be negative; the first of these that fails is the error.

`Schema.withSizeEstimates` gives several sizes in order. A later size for a name replaces an earlier
one; a single bad entry spoils the whole.
-/

namespace PartitionSize

open Text

/-- Why a column cannot take a size estimate. -/
inductive SizeEstimateError where
  /-- No column of that name is declared. -/
  | unknownColumn (column : String)
  /-- The column has a fixed size. -/
  | fixedSizeColumn (column : String) (dataType : String)
  /-- The size is below zero. -/
  | negativeSize (column : String) (size : Int)
deriving Repr, DecidableEq

/-- The text of the error. -/
def SizeEstimateError.message : SizeEstimateError → String
  | .unknownColumn column => "no column named " ++ quote column
  | .fixedSizeColumn column dataType =>
    "can't set a size estimate on fixed size column " ++ quote column ++ " of type " ++ dataType
  | .negativeSize column size =>
    "size estimate for column " ++ quote column ++ " must be >= 0, got " ++ toString size

/-- The size estimate of every column of that name becomes `size`. -/
def Column.estimated (name : String) (size : Int) (c : Column) : Column :=
  if c.name == name then { c with sizeEstimate := some size } else c

namespace Schema

/-- Why `name` cannot take the estimate `size`, if it cannot. -/
def sizeEstimateError? (s : Schema) (name : String) (size : Int) : Option SizeEstimateError :=
  match s.column? name with
  | none => some (.unknownColumn name)
  | some c =>
    if c.dataType.isFixedSize then some (.fixedSizeColumn name c.dataType.name)
    else if size < 0 then some (.negativeSize name size)
    else none

/-- The schema in which the columns named `name` carry the estimate `size`. -/
def withSizeEstimate (s : Schema) (name : String) (size : Int) : Except SizeEstimateError Schema :=
  match s.sizeEstimateError? name size with
  | some e => .error e
  | none => .ok (s.mapColumns (Column.estimated name size))

/-- The sizes in order. The error names the entry that could not be applied. -/
def withSizeEstimates (s : Schema) : List (String × Int) →
    Except (String × SizeEstimateError) Schema
  | [] => .ok s
  | (name, size) :: sizes =>
    match s.withSizeEstimate name size with
    | .error e => .error (name, e)
    | .ok s => s.withSizeEstimates sizes

end Schema

end PartitionSize
