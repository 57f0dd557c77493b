import PartitionSize.Calculation
import PartitionSize.Json

/-!
# Schemas and estimates as JSON

The objects have their fields in the order of declaration; a missing size estimate is `null`.
-/

namespace PartitionSize

/-- A type as an object. -/
def DataType.toJson (t : DataType) : Json := .obj [("name", .str t.name)]

/-- A column as an object. -/
def Column.toJson (c : Column) : Json :=
  .obj
    [("name", .str c.name), ("data_type", c.dataType.toJson), ("is_static", .bool c.isStatic),
      ("size_estimate", match c.sizeEstimate with | none => .null | some n => .int n)]

/-- One part of a key as an object. -/
def columnsJson (columns : List Column) : Json :=
  .obj [("columns", .arr (columns.map Column.toJson))]

/-- A key as an object. -/
def PrimaryKey.toJson (k : PrimaryKey) : Json :=
  .obj [("partition_key", columnsJson k.partition), ("clustering_key", columnsJson k.clustering)]

/-- A schema as an object. -/
def Schema.toJson (s : Schema) : Json :=
  .obj
    [("table_name", .str s.tableName), ("columns", .arr (s.columns.map Column.toJson)),
      ("primary_key", s.primaryKey.toJson)]

/-- An estimate as an object. -/
def Estimation.toJson (e : Estimation) : Json :=
  .obj [("values", .int e.values), ("bytes", .int e.bytes)]

/-- A calculation for `rows` rows as an object. -/
def Calculation.toJson (rows : Int) (c : Calculation) : Json :=
  .obj
    [("schema", c.schema.toJson), ("estimation", c.estimation.toJson), ("rows", .int rows)]

end PartitionSize
