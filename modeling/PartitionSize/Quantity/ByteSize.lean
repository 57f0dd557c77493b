import PartitionSize.Quantity.Number

/-!
# Byte sizes

A `ByteSize` is a number of bytes of at most 63 bits, written as `100`, `100B`, `64KB` or `2GB` in
any case: the units are binary. It is written back in the largest unit that divides it.
-/

namespace PartitionSize

/-- A number of bytes. -/
@[ext]
structure ByteSize where
  bytes : Nat
  bytes_lt : bytes < Number.signedBound
deriving Repr

namespace ByteSize

instance : DecidableEq ByteSize := fun a b =>
  decidable_of_iff (a.bytes = b.bytes) ByteSize.ext_iff.symm

/-- The units of a byte size, in upper case. -/
def units : List (String × Nat) :=
  [("KB", 1024), ("MB", 1024 * 1024), ("GB", 1024 * 1024 * 1024), ("B", 1)]

/-- The text of an error about a byte size. What could not be read is shown in upper case. -/
def errorMessage : QuantityError → String
  | .empty => "empty byte-size string"
  | .malformed text stop =>
    "invalid byte size " ++ Text.quote text ++ " (expected B/KB/MB/GB): " ++
      Text.caretUnder text.toUpper stop
  | .tooLarge n => "byte size " ++ toString n ++ " is too large"
  | .notScalar => QuantityError.notScalarMessage

/-- The byte size of a number. -/
def ofNat (n : Nat) : Except QuantityError ByteSize :=
  if h : n < Number.signedBound then .ok ⟨n, h⟩ else .error (.tooLarge n)

/-- The byte size that a text writes. -/
def parse (s : String) : Except QuantityError ByteSize :=
  let text := Text.trim s
  if text = "" then .error .empty
  else
    match Number.read units text.toUpper.toList with
    | .error stop => .error (.malformed text stop)
    | .ok n => ofNat n

/-- The byte size of a number or a text. -/
def ofScalar : Scalar → Except QuantityError ByteSize
  | .number n => if 0 ≤ n ∧ n < Number.unsignedBound then ofNat n.toNat else .error .notScalar
  | .text s => parse s
  | .other => .error .notScalar

/-- The byte size in the largest unit that divides it; no bytes are `0B`. -/
def toText (b : ByteSize) : String :=
  let n := b.bytes
  if n = 0 then "0B"
  else if n % (1024 * 1024 * 1024) = 0 then toString (n / (1024 * 1024 * 1024)) ++ "GB"
  else if n % (1024 * 1024) = 0 then toString (n / (1024 * 1024)) ++ "MB"
  else if n % 1024 = 0 then toString (n / 1024) ++ "KB"
  else toString n ++ "B"

/-- The byte size as a value of a settings file or a JSON document: its text. -/
def toScalar (b : ByteSize) : Scalar := .text b.toText

end ByteSize

end PartitionSize
