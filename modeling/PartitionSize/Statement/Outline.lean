import PartitionSize.Statement

/-!
# The outline of a statement

An `Outline` is what a statement says before any name is looked up: the table's name and its
entries, each a column definition or a primary key clause. Whether the outline makes sense is said
here by looking at each entry and the entries before it: `Outline.violation?` is the leftmost thing
that is wrong, and `Outline.schema` what the outline declares when nothing is.
-/

namespace PartitionSize

/-- One entry of a column list, as written. -/
inductive Entry where
  /-- A column definition and whether `PRIMARY KEY` follows its type. -/
  | column (name dataType : String) (inlineKey isStatic : Bool)
  /-- A primary key clause: the names of its partition part and of its clustering part. -/
  | key (partition clustering : List String)
deriving Repr, DecidableEq

namespace Entry

/-- The column that an entry declares. -/
def column? : Entry → Option Column
  | .column name dataType _ isStatic => some { name, dataType := { name := dataType }, isStatic }
  | .key .. => none

/-- Whether an entry declares the primary key. -/
def declaresKey : Entry → Bool
  | .column _ _ inlineKey _ => inlineKey
  | .key .. => true

/-- The columns that some entries declare, in order. -/
def columns (entries : List Entry) : List Column := entries.filterMap column?

/-- What is wrong with a name in a key clause after the given entries. -/
def nameViolation? (earlier : List Entry) (name : String) : Option StatementError :=
  match (columns earlier).find? (·.name == name) with
  | none => some (.unknownKeyColumn name)
  | some c => if c.isStatic then some (.staticKeyColumn name) else none

/-- What is wrong with an entry that declares the key, beyond its names. -/
def secondKey? (earlier : List Entry) : Option StatementError :=
  if earlier.any declaresKey then some .duplicatePrimaryKey else none

/-- What is wrong with an entry after the given entries: the names of a key first, in the order they
are written, then a second key. -/
def violation? (earlier : List Entry) : Entry → Option StatementError
  | .column _ _ false _ => none
  | .column name _ true isStatic =>
    if isStatic then some (.staticKeyColumn name) else secondKey? earlier
  | .key partition clustering =>
    ((partition ++ clustering).findSome? (nameViolation? earlier)).or (secondKey? earlier)

/-- The first thing that is wrong with a list of entries after the given ones. -/
def firstViolation? (earlier : List Entry) : List Entry → Option StatementError
  | [] => none
  | e :: entries => (violation? earlier e).or (firstViolation? (earlier ++ [e]) entries)

/-- The key that an entry declares after the given entries. -/
def primaryKey? (earlier : List Entry) : Entry → Option PrimaryKey
  | .column _ _ false _ => none
  | e@(.column _ _ true _) => some { partition := e.column?.toList }
  | .key partition clustering =>
    let named (name : String) := (columns earlier).find? (·.name == name)
    some { partition := partition.filterMap named, clustering := clustering.filterMap named }

/-- The first key that a list of entries declares after the given ones. -/
def firstKey? (earlier : List Entry) : List Entry → Option PrimaryKey
  | [] => none
  | e :: entries => (primaryKey? earlier e).or (firstKey? (earlier ++ [e]) entries)

end Entry

/-- A statement before any name is looked up. -/
structure Outline where
  tableName : String
  entries : List Entry
deriving Repr, DecidableEq

namespace Outline

/-- The leftmost thing that is wrong. -/
def violation? (o : Outline) : Option StatementError := Entry.firstViolation? [] o.entries

/-- The schema that an outline without a violation declares. -/
def schema (o : Outline) : Schema :=
  { tableName := o.tableName
    columns := Entry.columns o.entries
    primaryKey := (Entry.firstKey? [] o.entries).getD {} }

end Outline

end PartitionSize
