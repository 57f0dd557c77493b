/-!
# Rounding to nearest

`roundDiv n d` is the quotient rounded to the nearest integer, a tie to the even neighbour, and
`roundTo bits n` the nearest number that `bits` binary digits and a power of two can write. Numbers
of no more digits stay as they are (`roundTo_of_log2_lt`).
-/

namespace PartitionSize

/-- The integer nearest to `n / d`, the even one of two. -/
def roundDiv (n d : Nat) : Nat :=
  let q := n / d
  let r := n % d
  if 2 * r < d then q else if d < 2 * r then q + 1 else q + q % 2

/-- The number nearest to `n` that has at most `bits` binary digits before its trailing zeros. -/
def roundTo (bits n : Nat) : Nat :=
  let unit := Nat.pow 2 (n.log2 + 1 - bits)
  roundDiv n unit * unit

theorem roundDiv_one (n : Nat) : roundDiv n 1 = n := by simp [roundDiv, Nat.mod_one]

theorem roundTo_of_log2_lt {bits n : Nat} (h : n.log2 < bits) : roundTo bits n = n := by
  have hz : n.log2 + 1 - bits = 0 := by omega
  simp [roundTo, hz, roundDiv_one]

end PartitionSize
