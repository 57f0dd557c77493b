import PartitionSize.Report.Rounding

/-!
# Decimal numbers in 64-bit binary

A `Decimal` is a number as it is written: digits times a power of ten. `Decimal.nearest?` is the
nearest number of 53 binary digits, a tie to the even one, and nothing beyond the largest;
`Binary.shortest` the decimal of fewest digits that is still nearer to a binary number than to any
other. Both compare exact integers.
-/

namespace PartitionSize

/-- The number `digits * 10 ^ exponent`, or its opposite. -/
structure Decimal where
  negative : Bool
  digits : Nat
  exponent : Int
deriving Repr, DecidableEq

/-- The number `significand * 2 ^ exponent`, or its opposite. -/
structure Binary where
  negative : Bool
  significand : Nat
  exponent : Int
deriving Repr, DecidableEq

namespace Binary

/-- The binary digits of a significand. -/
def precision : Nat := 53

/-- The least exponent of a significand. -/
def minExponent : Int := -1074

/-- The greatest exponent of a significand. -/
def maxExponent : Int := 971

/-- Twice the distance to the next number up and to the next number down, each in quarters of
`2 ^ exponent`. Just above a power of two the numbers below are twice as dense. -/
def gaps (b : Binary) : Nat × Nat :=
  (2, if b.significand = Nat.pow 2 (precision - 1) ∧ minExponent < b.exponent then 1 else 2)

/-- Whether `c * 10 ^ p` is nearer to a positive binary number than to its neighbours, or half way
to one of them and the number is even. -/
def holds (b : Binary) (p : Int) (c : Nat) : Bool :=
  let scale := Nat.pow 2 (b.exponent - 2).toNat * Nat.pow 10 (-p).toNat
  let value := 4 * b.significand * scale
  let point := c * Nat.pow 10 p.toNat * Nat.pow 2 (2 - b.exponent).toNat
  let (up, down) := b.gaps
  if b.significand % 2 = 0 then
    decide (value ≤ point + down * scale) && decide (point ≤ value + up * scale)
  else decide (value < point + down * scale) && decide (point < value + up * scale)

/-- The multiples of `10 ^ p` on both sides of a positive binary number, and whether the lower one
is the nearer. -/
def neighbours (b : Binary) (p : Int) : Nat × Bool :=
  let n := b.significand * Nat.pow 2 b.exponent.toNat * Nat.pow 10 (-p).toNat
  let d := Nat.pow 2 (-b.exponent).toNat * Nat.pow 10 p.toNat
  (n / d, decide (2 * (n % d) ≤ d))

/-- The first decimal that a positive binary number holds, with its exponent going down from `p` for
`n` steps. -/
def search (b : Binary) (p : Int) : Nat → Nat × Int
  | 0 => (0, 0)
  | n + 1 =>
    let (c, lower) := b.neighbours p
    let first := if lower then c else c + 1
    let second := if lower then c + 1 else c
    if b.holds p first then (first, p)
    else if b.holds p second then (second, p)
    else search b (p - 1) n

/-- The decimal of fewest digits that a binary number holds. -/
def shortest (b : Binary) : Decimal :=
  if b.significand = 0 then ⟨b.negative, 0, 0⟩
  else
    let (digits, exponent) := b.search 309 700
    ⟨b.negative, digits, exponent⟩

end Binary

namespace Decimal

/-- The nearest binary number, unless it lies beyond the largest. Exponents far outside the range
are decided by the number of digits alone. -/
def nearest? (x : Decimal) : Option Binary :=
  let magnitude := (toString x.digits).toList.length + x.exponent
  if x.digits = 0 ∨ magnitude < -400 then some ⟨x.negative, 0, 0⟩
  else if 400 < magnitude then none
  else
    let n := x.digits * Nat.pow 10 x.exponent.toNat
    let d := Nat.pow 10 (-x.exponent).toNat
    let guess : Int := n.log2 - d.log2
    let fits := d * Nat.pow 2 guess.toNat ≤ n * Nat.pow 2 (-guess).toNat
    let log : Int := if fits then guess else guess - 1
    let exponent := max (log - (Binary.precision - 1)) Binary.minExponent
    let m := roundDiv (n * Nat.pow 2 (-exponent).toNat) (d * Nat.pow 2 exponent.toNat)
    let b : Binary :=
      if m = Nat.pow 2 Binary.precision then
        ⟨x.negative, Nat.pow 2 (Binary.precision - 1), exponent + 1⟩
      else ⟨x.negative, m, exponent⟩
    if Binary.maxExponent < b.exponent then none else some b

/-- The number in positional notation, with at least one digit on each side of the point. -/
def positional (x : Decimal) : String :=
  let sign := if x.negative then "-" else ""
  let zeros (n : Nat) : String := String.ofList (List.replicate n '0')
  let digits := toString x.digits
  if 0 ≤ x.exponent then sign ++ digits ++ (if x.digits = 0 then "" else zeros x.exponent.toNat) ++ ".0"
  else
    let places := (-x.exponent).toNat
    let padded := (zeros (places + 1 - digits.toList.length) ++ digits).toList
    sign ++ String.ofList (padded.take (padded.length - places)) ++ "." ++
      String.ofList (padded.drop (padded.length - places))

end Decimal

end PartitionSize
