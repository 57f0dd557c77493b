import PartitionSize.Schema
import PartitionSize.Text.Quoted

/-!
# What can be wrong with a statement

A statement that is not accepted is either cut short, or has a token that does not fit, or its
primary key does not fit its columns. `StatementError` names the cause, `message` its text.
-/

namespace PartitionSize

open Text

/-- A successful step of a chain of readers comes from a successful first one. -/
theorem Except.exists_of_bind_eq_ok {ε α β : Type} {x : Except ε α} {f : α → Except ε β} {b : β}
    (h : (x >>= f) = .ok b) : ∃ a, x = .ok a ∧ f a = .ok b := by
  cases x with
  | error e => cases h
  | ok a => exact ⟨a, rfl, h⟩

/-- Why a text is not an acceptable `CREATE TABLE` statement. -/
inductive StatementError where
  /-- The text ends inside the statement. -/
  | endOfInput
  /-- A token stands where another, or a name, has to stand. -/
  | unexpectedToken (expected actual : String)
  /-- The key names a column that no earlier entry declares. -/
  | unknownKeyColumn (column : String)
  /-- The table has a second primary key. -/
  | duplicatePrimaryKey
  /-- The key names a static column. -/
  | staticKeyColumn (column : String)
deriving Repr, DecidableEq

/-- The text of the error. -/
def StatementError.message : StatementError → String
  | .endOfInput => "unexpected end of input"
  | .unexpectedToken expected actual => "expected " ++ quote expected ++ ", got " ++ quote actual
  | .unknownKeyColumn column => "invalid column " ++ quote column ++ " in primary key"
  | .duplicatePrimaryKey => "multiple primary keys defined"
  | .staticKeyColumn column =>
    "column " ++ quote column ++ " cannot be both static and part of the primary key"

/-- What a name stands for, as an error says it. -/
inductive NameRole where
  | table
  | column
  | dataType
deriving Repr, DecidableEq

/-- The words for it. -/
def NameRole.description : NameRole → String
  | .table => "table name"
  | .column => "column name"
  | .dataType => "type name"

namespace PrimaryKey

/-- The declared column that a key column's name stands for: the first of that name, which must not
be static. -/
def resolve (declared : List Column) (name : String) : Except StatementError Column :=
  match declared.find? (·.name == name) with
  | none => .error (.unknownKeyColumn name)
  | some c => if c.isStatic then .error (.staticKeyColumn name) else .ok c

end PrimaryKey

/-- What the entries of a column list have declared so far. -/
structure Declarations where
  columns : List Column := []
  primaryKey : Option PrimaryKey := none
deriving Repr, DecidableEq

namespace Declarations

/-- One more column. -/
def addColumn (d : Declarations) (c : Column) : Declarations :=
  { d with columns := d.columns ++ [c] }

/-- The primary key, of which there is at most one. -/
def setPrimaryKey (d : Declarations) (k : PrimaryKey) : Except StatementError Declarations :=
  match d.primaryKey with
  | some _ => .error .duplicatePrimaryKey
  | none => .ok { d with primaryKey := some k }

/-- A column definition; with an inline key the column is the whole partition key. -/
def define (d : Declarations) (c : Column) (inlineKey : Bool) :
    Except StatementError Declarations :=
  if inlineKey then
    if c.isStatic then .error (.staticKeyColumn c.name)
    else (d.setPrimaryKey { partition := [c] }).map (·.addColumn c)
  else .ok (d.addColumn c)

/-- The schema of a table with these declarations. -/
def toSchema (d : Declarations) (tableName : String) : Schema :=
  { tableName, columns := d.columns, primaryKey := d.primaryKey.getD {} }

end Declarations

end PartitionSize
