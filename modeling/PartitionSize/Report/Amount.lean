import PartitionSize.Report.Rounding

/-!
# Amounts for people

* `groupDigits` writes an integer with a comma before every group of three digits, counted from the
  end: `660,000,036`.
* `humanBytes` writes a number of bytes in the largest binary unit that is not larger, to one
  decimal: `629.4 MiB`. Numbers below 1024 are exact. The number is first rounded to 53 binary digits
  and its unit chosen, then rounded to tenths, a tie to the even one; so `1024.0 KiB` is written just
  below a mebibyte.
-/

namespace PartitionSize

/-- The digits with a comma wherever a multiple of three of them is left. -/
def groupThrees : List Char → List Char
  | [] => []
  | c :: cs =>
    if cs ≠ [] ∧ cs.length % 3 = 0 then c :: ',' :: groupThrees cs else c :: groupThrees cs

/-- An integer with its digits in groups of three. -/
def groupDigits (n : Int) : String :=
  (if n < 0 then "-" else "") ++ String.ofList (groupThrees (toString n.natAbs).toList)

namespace BinaryUnit

/-- The names of the powers of 1024, from the first on. -/
def names : List String := ["KiB", "MiB", "GiB", "TiB", "PiB", "EiB"]

/-- The binary digits of a number that are kept before its unit is chosen. -/
def precision : Nat := 53

/-- The largest unit among the powers `k` to `k + n` of 1024 that is at most `v`, as its power; `k`
when none of the larger ones is. -/
def largest (v : Nat) (k : Nat) : Nat → Nat
  | 0 => k
  | n + 1 => if Nat.pow 1024 (k + 1) ≤ v then largest v (k + 1) n else k

/-- The power of 1024 that a number of at least 1024 is written in. -/
def power (v : Nat) : Nat := largest v 1 (names.length - 1)

/-- A number of tenths with its decimal point. -/
def tenths (n : Nat) : String := toString (n / 10) ++ "." ++ toString (n % 10)

end BinaryUnit

open BinaryUnit in
/-- A number of bytes in a binary unit, to one decimal. -/
def humanBytes (n : Int) : String :=
  if n < 1024 then toString n ++ " B"
  else
    let v := roundTo precision n.toNat
    tenths (roundDiv (10 * v) (Nat.pow 1024 (power v))) ++ " " ++ names.getD (power v - 1) ""

end PartitionSize
