import PartitionSize.Calculation
import PartitionSize.Report.Amount
import PartitionSize.Text.Caret
import PartitionSize.Text.Spot

/-!
# Schemas and estimates as text

`Schema.render` is a table of the columns, in declaration order, and the two parts of the key.
Column widths are the largest byte lengths of the names and of the types; names are padded to them
by characters, of which there are never more than bytes, so the columns of the table line up.

No text is padded to more than `maxWidth` characters. The table of a schema with a longer name or
type cannot be printed (`Schema.render?`).
-/

namespace PartitionSize

open Text

/-- The text with spaces after it up to `width` characters. -/
def padRight (width : Nat) (s : String) : String := s ++ spaces (width - s.toList.length)

/-- The largest of some byte lengths. -/
def maxByteLength (texts : List String) : Nat :=
  (texts.map fun s => byteLength s.toList).foldl max 0

/-- The largest number of characters that a text can be padded to. -/
def maxWidth : Nat := 0xffff

/-- The part of the key that the columns of a name belong to. -/
inductive KeyRole where
  | partition
  | clustering
deriving Repr, DecidableEq

/-- The words for it. -/
def KeyRole.label : KeyRole → String
  | .partition => "partition key"
  | .clustering => "clustering key"

namespace PrimaryKey

/-- The part of the key that holds a column of that name, the partition part first. -/
def role? (k : PrimaryKey) (name : String) : Option KeyRole :=
  if k.partition.any (·.name == name) then some .partition
  else if k.clustering.any (·.name == name) then some .clustering
  else none

end PrimaryKey

namespace Column

/-- What is known of the size: the width, or the estimate, or nothing. -/
def sizeLabel (c : Column) : String :=
  match c.dataType.fixedWidth?, c.sizeEstimate with
  | some width, _ => toString width ++ " B"
  | none, some estimate => "~" ++ toString estimate ++ " B"
  | none, none => "variable"

/-- The notes on a column: its size, whether it is static, and its part in the key. -/
def notes (k : PrimaryKey) (c : Column) : List String :=
  [c.sizeLabel] ++ (if c.isStatic then ["static"] else []) ++
    ((k.role? c.name).map KeyRole.label).toList

/-- The line of a column in the table. -/
def line (k : PrimaryKey) (nameWidth typeWidth : Nat) (c : Column) : String :=
  "  " ++ padRight nameWidth c.name ++ "  " ++ padRight typeWidth c.dataType.name ++ "  " ++
    ", ".intercalate (c.notes k)

end Column

/-- The names of some columns in parentheses. -/
def nameList (columns : List Column) : String :=
  "(" ++ ", ".intercalate (columns.map Column.name) ++ ")"

namespace Schema

/-- The width of the names in the table. -/
def nameWidth (s : Schema) : Nat := maxByteLength (s.columns.map Column.name)

/-- The width of the types in the table. -/
def typeWidth (s : Schema) : Nat := maxByteLength (s.columns.map fun c => c.dataType.name)

/-- The lines of the columns, in declaration order. -/
def columnLines (s : Schema) : List String :=
  s.columns.map (Column.line s.primaryKey s.nameWidth s.typeWidth)

/-- The schema as lines. -/
def lines (s : Schema) : List String :=
  ["table " ++ s.tableName, "columns:"] ++ s.columnLines ++
    ["partition key: " ++ nameList s.primaryKey.partition,
      "clustering key: " ++ nameList s.primaryKey.clustering]

/-- The lines as one text, whatever their width. -/
def render (s : Schema) : String := String.join (s.lines.map (· ++ "\n"))

/-- The schema as text; none if its table is too wide to be printed. -/
def render? (s : Schema) : Option String :=
  if s.nameWidth ≤ maxWidth ∧ s.typeWidth ≤ maxWidth then some s.render else none

end Schema

/-- An estimate for `rows` rows as text. -/
def Estimation.render (rows : Int) (e : Estimation) : String :=
  "rows: " ++ groupDigits rows ++ "\nvalues: " ++ groupDigits e.values ++ "\nbytes: " ++
    groupDigits e.bytes ++ " bytes (" ++ humanBytes e.bytes ++ ")\n"

/-- A calculation for `rows` rows as text; none if its schema cannot be printed. -/
def Calculation.render? (rows : Int) (c : Calculation) : Option String :=
  c.schema.render?.map fun table => table ++ "\n" ++ c.estimation.render rows

end PartitionSize
