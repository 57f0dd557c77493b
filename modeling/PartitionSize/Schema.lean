/-!
# Table schemas

A `Schema` is what a `CREATE TABLE` statement declares: the columns in the order of declaration and
the primary key, whose two lists hold copies of declared columns in key order.

* `DataType.fixedWidth?` knows the types of a fixed width, whatever the case of their names.
* `Column.size` is the fixed width, else the estimate, else zero.
* `Schema.nonKeyColumns` are the declared columns whose *name* is not in the key.
-/

namespace PartitionSize

/-- A column type as it is written, such as `uuid` or `map<int,text>`. -/
structure DataType where
  name : String
deriving Repr, DecidableEq

namespace DataType

/-- The widths in bytes of the fixed-size types, by lowercase name. -/
def fixedWidths : List (String × Int) :=
  [("uuid", 16), ("timeuuid", 16), ("timestamp", 8), ("bigint", 8), ("double", 8), ("float", 4),
    ("int", 4), ("boolean", 1)]

/-- The width in bytes of a fixed-size type; nothing for a variable-size one. -/
def fixedWidth? (t : DataType) : Option Int := fixedWidths.lookup t.name.toLower

/-- Whether every value of the type has the same width. -/
def isFixedSize (t : DataType) : Bool := t.fixedWidth?.isSome

/-- Whether the type has type arguments. -/
def isCollection (t : DataType) : Bool := t.name.toList.contains '<'

end DataType

/-- A declared column. -/
structure Column where
  name : String
  dataType : DataType
  isStatic : Bool := false
  /-- The size in bytes that was given for a variable-size column. -/
  sizeEstimate : Option Int := none
deriving Repr, DecidableEq

namespace Column

/-- The size that counts: the fixed width, else the estimate, else zero. -/
def size (c : Column) : Int :=
  match c.dataType.fixedWidth? with
  | some width => width
  | none => c.sizeEstimate.getD 0

/-- Whether the column would count as zero bytes for want of an estimate. -/
def lacksEstimate (c : Column) : Bool := !c.dataType.isFixedSize && c.sizeEstimate.isNone

end Column

/-- The columns that decide which partition a row lives in, and those that order the rows inside
one, each in key order. -/
structure PrimaryKey where
  partition : List Column := []
  clustering : List Column := []
deriving Repr, DecidableEq

namespace PrimaryKey

/-- The partition columns, then the clustering columns. -/
def columns (k : PrimaryKey) : List Column := k.partition ++ k.clustering

/-- The number of entries of the two lists. -/
def size (k : PrimaryKey) : Nat := k.partition.length + k.clustering.length

/-- Whether the key has no column. -/
def isEmpty (k : PrimaryKey) : Bool := k.size == 0

/-- Whether a column of that name is in the key. -/
def contains (k : PrimaryKey) (name : String) : Bool := k.columns.any (·.name == name)

end PrimaryKey

/-- A table: its name, its columns in the order of declaration, and its primary key. -/
structure Schema where
  tableName : String
  columns : List Column
  primaryKey : PrimaryKey
deriving Repr, DecidableEq

namespace Schema

/-- The first declared column of a name. -/
def column? (s : Schema) (name : String) : Option Column := s.columns.find? (·.name == name)

/-- The columns that a partition stores once. -/
def staticColumns (s : Schema) : List Column := s.columns.filter (·.isStatic)

/-- The declared columns whose name is not in the key. -/
def nonKeyColumns (s : Schema) : List Column :=
  s.columns.filter fun c => !s.primaryKey.contains c.name

/-- The same change to every column of the three lists. -/
def mapColumns (f : Column → Column) (s : Schema) : Schema :=
  { s with
    columns := s.columns.map f
    primaryKey :=
      { partition := s.primaryKey.partition.map f
        clustering := s.primaryKey.clustering.map f } }

end Schema

/-! ## Laws -/

theorem PrimaryKey.length_columns (k : PrimaryKey) : k.columns.length = k.size := by
  simp [columns, size]

theorem Schema.mapColumns_id (s : Schema) : s.mapColumns id = s := by
  simp [mapColumns]

theorem Schema.mapColumns_mapColumns (f g : Column → Column) (s : Schema) :
    (s.mapColumns f).mapColumns g = s.mapColumns (g ∘ f) := by
  simp [mapColumns]

end PartitionSize
