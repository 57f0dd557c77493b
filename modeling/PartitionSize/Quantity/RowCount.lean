import PartitionSize.Quantity.Number

/-!
# Row counts

A `RowCount` is a number of rows of at most 63 bits, written as `5000000`, `5_000_000` or `5M`: the
units are decimal, one letter of either case.
-/

namespace PartitionSize

/-- A number of rows. -/
@[ext]
structure RowCount where
  count : Nat
  count_lt : count < Number.signedBound
deriving Repr

namespace RowCount

instance : DecidableEq RowCount := fun a b =>
  decidable_of_iff (a.count = b.count) RowCount.ext_iff.symm

/-- One row. -/
def one : RowCount := ⟨1, by decide⟩

instance : Inhabited RowCount := ⟨one⟩

/-- The units of a row count. -/
def units : List (String × Nat) :=
  [("k", 1000), ("K", 1000), ("m", 1000000), ("M", 1000000), ("b", 1000000000), ("B", 1000000000)]

/-- The text of an error about a row count. -/
def errorMessage : QuantityError → String
  | .empty => "empty row count"
  | .malformed text stop =>
    "invalid row count " ++ Text.quote text ++ ": " ++ Text.caretUnder text stop
  | .tooLarge n => "row count " ++ toString n ++ " is too large"
  | .notScalar => QuantityError.notScalarMessage

/-- The row count of a number. -/
def ofNat (n : Nat) : Except QuantityError RowCount :=
  if h : n < Number.signedBound then .ok ⟨n, h⟩ else .error (.tooLarge n)

/-- The row count that a text writes. -/
def parse (s : String) : Except QuantityError RowCount :=
  let text := Text.trim s
  if text = "" then .error .empty
  else
    match Number.read units text.toList with
    | .error stop => .error (.malformed text stop)
    | .ok n => ofNat n

/-- The row count of a number or a text. -/
def ofScalar : Scalar → Except QuantityError RowCount
  | .number n => if 0 ≤ n ∧ n < Number.unsignedBound then ofNat n.toNat else .error .notScalar
  | .text s => parse s
  | .other => .error .notScalar

/-- The row count as a text. -/
def toText (r : RowCount) : String := toString r.count

end RowCount

end PartitionSize
