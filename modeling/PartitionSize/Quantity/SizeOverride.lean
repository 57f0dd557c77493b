import PartitionSize.Quantity.ByteSize

/-!
# Sizes of columns

A `SizeOverride` gives one column a size, and is written `COLUMN=SIZE`. The first equals sign
divides it; blanks around the name and around the size do not count.
-/

namespace PartitionSize

/-- A size for the columns of one name. -/
structure SizeOverride where
  column : String
  size : ByteSize
deriving Repr, DecidableEq

/-- Why a text is no `COLUMN=SIZE`. -/
inductive SizeOverrideError where
  /-- There is no equals sign. -/
  | missingEquals (text : String)
  /-- There is no name before it. -/
  | missingColumn (text : String)
  /-- What follows it is no byte size. -/
  | size (cause : QuantityError)
deriving Repr, DecidableEq

/-- The text of the error. -/
def SizeOverrideError.message : SizeOverrideError → String
  | .missingEquals text => "expected COLUMN=SIZE, got " ++ Text.quote text
  | .missingColumn text => "missing column name in " ++ Text.quote text
  | .size cause => ByteSize.errorMessage cause

namespace SizeOverride

/-- The text before and after the first equals sign, if there is one. -/
def splitAtEquals (s : String) : Option (String × String) :=
  match s.toList.dropWhile (· != '=') with
  | [] => none
  | _ :: after => some (String.ofList (s.toList.takeWhile (· != '=')), String.ofList after)

/-- The column and the size that a text gives. -/
def parse (s : String) : Except SizeOverrideError SizeOverride :=
  match splitAtEquals s with
  | none => .error (.missingEquals s)
  | some (before, after) =>
    let column := Text.trim before
    if column = "" then .error (.missingColumn s)
    else
      match ByteSize.parse after with
      | .error e => .error (.size e)
      | .ok size => .ok { column, size }

/-- The name and the size, as a schema takes them. -/
def toPair (o : SizeOverride) : String × Int := (o.column, o.size.bytes)

end SizeOverride

end PartitionSize
