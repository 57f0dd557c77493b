import PartitionSize.Decimal

/-!
# TOML values

A `Toml.Node` is a value and where its text stands, and so is a `Toml.Key`. Tables remember how they
were opened, for that decides what may be added to them later; arrays remember whether they are made
of `[[…]]` headers.
-/

namespace PartitionSize.Toml

/-- A piece of a document, from one byte offset to another. -/
structure Span where
  start : Nat
  stop : Nat
deriving Repr, DecidableEq

/-- A key and where it stands, with its quotes if it has any. -/
structure Key where
  name : String
  span : Span
deriving Repr, DecidableEq

/-- A floating-point number. -/
inductive Real where
  | finite (x : Decimal)
  | infinite (negative : Bool)
  | notANumber
deriving Repr, DecidableEq

/-- How a table was opened. -/
inductive TableKind where
  /-- Written in braces; nothing can be added to it. -/
  | braces
  /-- By a header of its own. -/
  | header
  /-- By the header of a table inside it. -/
  | implied
  /-- By a dotted key. -/
  | dotted
deriving Repr, DecidableEq

mutual

/-- A value and where its text stands. -/
inductive Node where
  | mk (span : Span) (value : Value)

/-- A TOML value. A date or a time is its text. -/
inductive Value where
  | string (s : String)
  | integer (n : Int)
  | real (x : Real)
  | boolean (b : Bool)
  | datetime (text : String)
  | array (ofTables : Bool) (items : List Node)
  | table (kind : TableKind) (entries : List (Key × Node))

end

/-- The entries of a table, in the order they were written. -/
abbrev Entries := List (Key × Node)

namespace Node

/-- Where the text of the value stands. -/
def span : Node → Span
  | .mk span _ => span

/-- The value. -/
def value : Node → Value
  | .mk _ value => value

end Node

namespace Real

/-- The text of a number: the fewest digits that stand for the same 64-bit binary number; nothing if
it lies beyond the largest. -/
def text? : Real → Option String
  | .finite x => x.nearest?.map fun b => b.shortest.positional
  | .infinite negative => some (if negative then "-inf" else "inf")
  | .notANumber => some "NaN"

end Real

end PartitionSize.Toml
