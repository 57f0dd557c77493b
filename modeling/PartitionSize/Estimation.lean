import PartitionSize.Schema

/-!
# The size of a partition

A partition of `rows` rows stores `values` cells: every non-key, non-static column once a row and
every static column once. Its size in bytes is that of the key columns, of the clustering and
non-key columns of each row, and of eight bytes of metadata for each cell and each row.

* `Schema.estimate?` computes in the 64-bit range: each sum and product has to fit, or there is no
  estimate.
* `Schema.cellCount` and `Schema.byteTotal` are the same numbers over all integers.
-/

namespace PartitionSize

/-! ## The 64-bit range -/

/-- The integers of 64 bits with a sign. -/
def InRange64 (n : Int) : Prop := -0x8000000000000000 ≤ n ∧ n < 0x8000000000000000

instance (n : Int) : Decidable (InRange64 n) := by unfold InRange64; exact inferInstance

/-- The number, if it fits into 64 bits. -/
def fit64 (n : Int) : Option Int := if InRange64 n then some n else none

@[simp] theorem fit64_eq_some {n m : Int} : fit64 n = some m ↔ InRange64 n ∧ m = n := by
  unfold fit64; split <;> simp_all [eq_comm]

@[simp] theorem fit64_eq_none {n : Int} : fit64 n = none ↔ ¬ InRange64 n := by
  unfold fit64; split <;> simp_all

/-! ## Estimates -/

/-- The estimated contents of one partition. -/
structure Estimation where
  /-- The number of stored cells. -/
  values : Int
  /-- The total size in bytes. -/
  bytes : Int
deriving Repr, DecidableEq

/-- The bytes of metadata of a cell, and of a row. -/
def metadataBytes : Int := 8

/-- The sum of the sizes of some columns, if it and every partial sum fit into 64 bits. -/
def sumSizes? (columns : List Column) : Option Int :=
  columns.foldlM (fun total c => fit64 (total + c.size)) 0

/-- The sum of the sizes of some columns. -/
def sumSizes : List Column → Int
  | [] => 0
  | c :: cs => c.size + sumSizes cs

namespace Schema

/-- The number of cells that a row adds. -/
def cellsPerRow (s : Schema) : Int :=
  s.columns.length - s.primaryKey.size - s.staticColumns.length

/-- The estimate for `rows` rows, unless some intermediate number leaves the 64-bit range. -/
def estimate? (s : Schema) (rows : Int) : Option Estimation := do
  let cells ← fit64 (rows * s.cellsPerRow)
  let values ← fit64 (cells + s.staticColumns.length)
  let partition ← sumSizes? s.primaryKey.partition
  let clustering ← sumSizes? s.primaryKey.clustering
  let nonKey ← sumSizes? s.nonKeyColumns
  let row ← fit64 (clustering + nonKey)
  let allRows ← fit64 (row * rows)
  let cellMetadata ← fit64 (values * metadataBytes)
  let rowMetadata ← fit64 (rows * metadataBytes)
  let metadata ← fit64 (cellMetadata + rowMetadata)
  let key ← fit64 (partition + clustering)
  let withMetadata ← fit64 (key + metadata)
  let bytes ← fit64 (withMetadata + allRows)
  some { values, bytes }

/-! ## The same over all integers -/

/-- The number of cells of `rows` rows. -/
def cellCount (s : Schema) (rows : Int) : Int := rows * s.cellsPerRow + s.staticColumns.length

/-- The size in bytes of `rows` rows. -/
def byteTotal (s : Schema) (rows : Int) : Int :=
  sumSizes s.primaryKey.partition + sumSizes s.primaryKey.clustering +
    (sumSizes s.primaryKey.clustering + sumSizes s.nonKeyColumns) * rows +
    metadataBytes * s.cellCount rows + metadataBytes * rows

end Schema

end PartitionSize
