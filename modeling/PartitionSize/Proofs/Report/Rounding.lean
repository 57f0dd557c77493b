import PartitionSize.Report.Rounding
import Mathlib.Data.Nat.Dist
import Mathlib.Data.Nat.Log

/-!
# Rounding is to the nearest, and keeps the order

* **Quotients** (`IsNearest n d q`): no integer is nearer to `n / d` than `q`, and `q` is even if
  another one is as near. There is one such integer, `roundDiv n d` (`isNearest_iff`).
* **Binary digits** (`IsRounded bits n v`): `v` is short, which is to say that it has at most `bits`
  binary digits before its trailing zeros; no short number is nearer to `n`; and the significand of
  `v` is even if another one is as near. There is one such number, `roundTo bits n`
  (`isRounded_iff`). A short number is a multiple of the unit that `n` is rounded to, or else it is
  below the binade of `n` (`Short.multiple_or_lt`), and so it is further away than the start of the
  binade.
* **Order**: `roundDiv_mono` and `roundTo_mono`.
-/

namespace PartitionSize

/-! ## Quotients -/

/-- No integer is nearer to `n / d` than `q`, and `q` is even if another one is as near. -/
structure IsNearest (n d q : Nat) : Prop where
  nearest : ∀ k, n.dist (q * d) ≤ n.dist (k * d)
  even : ∀ k, k ≠ q → n.dist (k * d) = n.dist (q * d) → q % 2 = 0

theorem roundDiv_cases (n d : Nat) :
    (roundDiv n d = n / d ∧ 2 * (n % d) ≤ d) ∨ (roundDiv n d = n / d + 1 ∧ d ≤ 2 * (n % d)) := by
  unfold roundDiv
  dsimp only
  split
  · exact .inl ⟨rfl, by omega⟩
  · split
    · exact .inr ⟨rfl, by omega⟩
    · omega

theorem even_roundDiv {n d : Nat} (h : 2 * (n % d) = d) : roundDiv n d % 2 = 0 := by
  unfold roundDiv
  dsimp only
  rw [if_neg (by omega), if_neg (by omega)]
  omega

theorem le_roundDiv {n d k : Nat} (hd : 0 < d) (h : k * d ≤ n) : k ≤ roundDiv n d := by
  have hk : k ≤ n / d := (Nat.le_div_iff_mul_le hd).2 h
  rcases roundDiv_cases n d with ⟨hq, -⟩ | ⟨hq, -⟩ <;> omega

theorem roundDiv_le {n d k : Nat} (hd : 0 < d) (h : n ≤ k * d) : roundDiv n d ≤ k := by
  rcases roundDiv_cases n d with ⟨hq, -⟩ | ⟨hq, hr⟩
  · rw [hq]
    exact Nat.div_le_of_le_mul (by rwa [Nat.mul_comm])
  · -- it was rounded up, so the quotient was not exact
    have hdiv := Nat.div_add_mod n d
    have hlt : d * (n / d) < d * k := by rw [Nat.mul_comm d k]; omega
    rw [hq]
    exact Nat.lt_of_mul_lt_mul_left hlt

theorem roundDiv_mono {n m d : Nat} (h : n ≤ m) : roundDiv n d ≤ roundDiv m d := by
  rcases Nat.lt_or_eq_of_le (Nat.div_le_div_right (c := d) h) with hlt | heq
  · rcases roundDiv_cases n d with ⟨hn, -⟩ | ⟨hn, -⟩ <;>
      rcases roundDiv_cases m d with ⟨hm, -⟩ | ⟨hm, -⟩ <;> omega
  · have hn := Nat.div_add_mod n d
    have hm := Nat.div_add_mod m d
    rw [heq] at hn
    rcases roundDiv_cases n d with ⟨hqn, hrn⟩ | ⟨hqn, hrn⟩ <;>
      rcases roundDiv_cases m d with ⟨hqm, hrm⟩ | ⟨hqm, hrm⟩
    · omega
    · omega
    · -- a tie, rounded up and rounded down: then the two are the same
      obtain rfl : n = m := by omega
      exact Nat.le_refl _
    · omega

/-- Two multiples of `d` are the same, or `d` apart, or more. -/
theorem mul_cases (k q d : Nat) :
    k * d + d ≤ q * d ∨ k = q ∨ k = q + 1 ∨ q * d + 2 * d ≤ k * d := by
  rcases Nat.lt_trichotomy k q with h | h | h
  · have := Nat.mul_le_mul_right d (Nat.succ_le_of_lt h)
    rw [Nat.succ_mul] at this
    exact .inl this
  · exact .inr (.inl h)
  · rcases Nat.eq_or_lt_of_le (Nat.succ_le_of_lt h) with h | h
    · exact .inr (.inr (.inl h.symm))
    · have := Nat.mul_le_mul_right d (Nat.succ_le_of_lt h)
      rw [Nat.succ_mul, Nat.succ_mul] at this
      exact .inr (.inr (.inr (by omega)))

theorem isNearest_roundDiv {n d : Nat} (hd : 0 < d) : IsNearest n d (roundDiv n d) := by
  have hdiv := Nat.div_add_mod n d
  have hmod := Nat.mod_lt n hd
  rw [Nat.mul_comm] at hdiv
  have hsucc : (n / d + 1) * d = n / d * d + d := Nat.succ_mul ..
  constructor
  · intro k
    unfold Nat.dist
    rcases roundDiv_cases n d with ⟨hq, hr⟩ | ⟨hq, hr⟩ <;> rw [hq] <;>
      rcases mul_cases k (n / d) d with hk | rfl | rfl | hk <;> omega
  · intro k hne heq
    refine even_roundDiv ?_
    unfold Nat.dist at heq
    rcases roundDiv_cases n d with ⟨hq, hr⟩ | ⟨hq, hr⟩ <;> rw [hq] at hne heq <;>
      rcases mul_cases k (n / d) d with hk | rfl | rfl | hk <;> omega

theorem IsNearest.le {n d q q' : Nat} (hd : 0 < d) (h : IsNearest n d q) (h' : IsNearest n d q') :
    q' ≤ q := by
  refine Nat.le_of_not_lt fun hlt => ?_
  have heq : n.dist (q' * d) = n.dist (q * d) := Nat.le_antisymm (h'.nearest q) (h.nearest q')
  have heven := h.even q' (by omega) heq
  have heven' := h'.even q (by omega) heq.symm
  -- both are even, so there is an integer between them, and it is nearer
  have hbetween := h.nearest (q + 1)
  have hfar : (q + 2) * d ≤ q' * d := Nat.mul_le_mul_right d (by omega)
  rw [Nat.add_mul] at hbetween hfar
  unfold Nat.dist at heq hbetween
  omega

/-- **The rounded quotient** is the only integer that is nearest. -/
theorem isNearest_iff {n d q : Nat} (hd : 0 < d) : IsNearest n d q ↔ q = roundDiv n d := by
  have hround : IsNearest n d (roundDiv n d) := isNearest_roundDiv hd
  constructor
  · exact fun h => Nat.le_antisymm (hround.le hd h) (h.le hd hround)
  · rintro rfl
    exact hround

/-! ## Binary digits -/

/-- `v` has at most `bits` binary digits before its trailing zeros. -/
def Short (bits v : Nat) : Prop := ∃ m e, m < 2 ^ bits ∧ v = m * 2 ^ e

/-- `v` is short, no short number is nearer to `n`, and where another one is as near, the
significand of `v`, written with `bits` digits, is even. -/
structure IsRounded (bits n v : Nat) : Prop where
  short : Short bits v
  nearest : ∀ w, Short bits w → n.dist v ≤ n.dist w
  even : ∀ w, Short bits w → w ≠ v → n.dist w = n.dist v →
    ∃ m e, 2 ^ (bits - 1) ≤ m ∧ m < 2 ^ bits ∧ m % 2 = 0 ∧ v = m * 2 ^ e

/-- A short number is a multiple of `2 ^ e`, or it does not reach `2 ^ (bits - 1)` times that. -/
theorem Short.multiple_or_lt {bits w : Nat} (h : Short bits w) (e : Nat) (hb : 0 < bits) :
    (∃ k, w = k * 2 ^ e) ∨ (0 < e ∧ w < 2 ^ (bits - 1) * 2 ^ e) := by
  obtain ⟨m, e', hm, rfl⟩ := h
  rcases Nat.lt_or_ge e' e with hlt | hge
  · refine .inr ⟨by omega, ?_⟩
    calc m * 2 ^ e' < 2 ^ bits * 2 ^ e' := Nat.mul_lt_mul_of_pos_right hm (Nat.two_pow_pos _)
      _ = 2 ^ (bits + e') := (Nat.pow_add ..).symm
      _ ≤ 2 ^ (bits - 1 + e) := Nat.pow_le_pow_right (by decide) (by omega)
      _ = 2 ^ (bits - 1) * 2 ^ e := Nat.pow_add ..
  · refine .inl ⟨m * 2 ^ (e' - e), ?_⟩
    rw [Nat.mul_assoc, ← Nat.pow_add, Nat.sub_add_cancel hge]

/-! ### The unit -/

/-- The exponent of the unit that `n` is rounded to. -/
def unitExponent (bits n : Nat) : Nat := n.log2 + 1 - bits

theorem roundTo_eq (bits n : Nat) :
    roundTo bits n = roundDiv n (2 ^ unitExponent bits n) * 2 ^ unitExponent bits n := rfl

theorem le_mul_unit (bits n : Nat) : n ≤ 2 ^ bits * 2 ^ unitExponent bits n := by
  rw [← Nat.pow_add]
  have hle : n.log2 + 1 ≤ bits + unitExponent bits n := by unfold unitExponent; omega
  exact Nat.le_of_lt (Nat.lt_of_lt_of_le Nat.lt_log2_self (Nat.pow_le_pow_right (by decide) hle))

theorem mul_unit_le {bits n : Nat} (hb : 0 < bits) (h : 0 < unitExponent bits n) :
    2 ^ (bits - 1) * 2 ^ unitExponent bits n ≤ n := by
  unfold unitExponent at h ⊢
  have hn : n ≠ 0 := by
    rintro rfl
    rw [Nat.log2_zero] at h
    omega
  have hexp : bits - 1 + (n.log2 + 1 - bits) = n.log2 := by omega
  rw [← Nat.pow_add, hexp]
  exact Nat.log2_self_le hn

/-- A power of two that is a multiple of the unit stays below, or above, the rounded number. -/
theorem two_pow_le_roundTo {bits n k : Nat} (hk : unitExponent bits n ≤ k) (h : 2 ^ k ≤ n) :
    2 ^ k ≤ roundTo bits n := by
  rw [← Nat.sub_add_cancel hk, Nat.pow_add] at h ⊢
  exact Nat.mul_le_mul_right _ (le_roundDiv (Nat.two_pow_pos _) h)

theorem roundTo_le_two_pow {bits n k : Nat} (hk : unitExponent bits n ≤ k) (h : n ≤ 2 ^ k) :
    roundTo bits n ≤ 2 ^ k := by
  rw [← Nat.sub_add_cancel hk, Nat.pow_add] at h ⊢
  exact Nat.mul_le_mul_right _ (roundDiv_le (Nat.two_pow_pos _) h)

/-! ### The nearest short number -/

theorem short_roundTo {bits : Nat} (hb : 0 < bits) (n : Nat) : Short bits (roundTo bits n) := by
  have hle : roundDiv n (2 ^ unitExponent bits n) ≤ 2 ^ bits :=
    roundDiv_le (Nat.two_pow_pos _) (le_mul_unit bits n)
  rw [roundTo_eq]
  rcases Nat.lt_or_eq_of_le hle with hlt | heq
  · exact ⟨_, _, hlt, rfl⟩
  · rw [heq, ← Nat.pow_add]
    exact ⟨1, _, Nat.one_lt_two_pow (by omega), (Nat.one_mul _).symm⟩

/-- A multiple of the unit with an even factor has an even significand, if `n` has more digits than
are kept. -/
theorem exists_even_significand {bits n : Nat} (hb : 1 < bits) (h : 0 < unitExponent bits n)
    (heven : roundDiv n (2 ^ unitExponent bits n) % 2 = 0) :
    ∃ m e, 2 ^ (bits - 1) ≤ m ∧ m < 2 ^ bits ∧ m % 2 = 0 ∧ roundTo bits n = m * 2 ^ e := by
  have hge : 2 ^ (bits - 1) ≤ roundDiv n (2 ^ unitExponent bits n) :=
    le_roundDiv (Nat.two_pow_pos _) (mul_unit_le (by omega) h)
  have hle : roundDiv n (2 ^ unitExponent bits n) ≤ 2 ^ bits :=
    roundDiv_le (Nat.two_pow_pos _) (le_mul_unit bits n)
  rw [roundTo_eq]
  rcases Nat.lt_or_eq_of_le hle with hlt | heq
  · exact ⟨_, _, hge, hlt, heven, rfl⟩
  · -- rounded up to the next binade
    refine ⟨2 ^ (bits - 1), unitExponent bits n + 1, Nat.le_refl _, ?_, ?_, ?_⟩
    · exact Nat.pow_lt_pow_right (by decide) (by omega)
    · exact Nat.two_pow_mod_two_eq_zero.2 (by omega)
    · rw [heq, ← Nat.pow_add, ← Nat.pow_add]
      congr 1
      omega

theorem isRounded_roundTo {bits : Nat} (hb : 1 < bits) (n : Nat) :
    IsRounded bits n (roundTo bits n) := by
  have hnear : IsNearest n (2 ^ unitExponent bits n) _ := isNearest_roundDiv (Nat.two_pow_pos _)
  -- below the binade, the start of the binade is nearer
  have hbelow : ∀ w, w < 2 ^ (bits - 1) * 2 ^ unitExponent bits n → 0 < unitExponent bits n →
      n.dist (roundTo bits n) < n.dist w := by
    intro w hw he
    have hstart := hnear.nearest (2 ^ (bits - 1))
    have hle := mul_unit_le (by omega) he
    rw [roundTo_eq]
    unfold Nat.dist at hstart ⊢
    omega
  refine ⟨short_roundTo (by omega) n, fun w hw => ?_, fun w hw hne heq => ?_⟩
  · rcases hw.multiple_or_lt (unitExponent bits n) (by omega) with ⟨k, rfl⟩ | ⟨he, hlt⟩
    · exact hnear.nearest k
    · exact Nat.le_of_lt (hbelow w hlt he)
  · rcases hw.multiple_or_lt (unitExponent bits n) (by omega) with ⟨k, rfl⟩ | ⟨he, hlt⟩
    · rcases Nat.eq_zero_or_pos (unitExponent bits n) with hzero | hpos
      · -- all digits are kept, so nothing else is as near
        have hself : roundTo bits n = n :=
          roundTo_of_log2_lt (by unfold unitExponent at hzero; omega)
        rw [hself] at heq hne
        unfold Nat.dist at heq
        omega
      · refine exists_even_significand hb hpos (hnear.even k ?_ heq)
        rintro rfl
        exact hne rfl
    · exact absurd heq (Nat.ne_of_gt (hbelow w hlt he))

/-! ### The only one -/

/-- Of two significands of `bits` digits, the one with the smaller exponent is the smaller
number. -/
theorem mul_two_pow_lt {bits m m' e e' : Nat} (hm : m < 2 ^ bits) (hm' : 2 ^ (bits - 1) ≤ m')
    (h : e < e') : m * 2 ^ e < m' * 2 ^ e' :=
  calc m * 2 ^ e < 2 ^ bits * 2 ^ e := Nat.mul_lt_mul_of_pos_right hm (Nat.two_pow_pos _)
    _ = 2 ^ (bits + e) := (Nat.pow_add ..).symm
    _ ≤ 2 ^ (bits - 1 + e') := Nat.pow_le_pow_right (by decide) (by omega)
    _ = 2 ^ (bits - 1) * 2 ^ e' := Nat.pow_add ..
    _ ≤ m' * 2 ^ e' := Nat.mul_le_mul_right _ hm'

theorem IsRounded.le {bits n v w : Nat} (hb : 1 < bits) (hv : IsRounded bits n v)
    (hw : IsRounded bits n w) : w ≤ v := by
  refine Nat.le_of_not_lt fun hlt => ?_
  have heq : n.dist w = n.dist v :=
    Nat.le_antisymm (hw.nearest v hv.short) (hv.nearest w hw.short)
  obtain ⟨m, e, hm, hm', heven, rfl⟩ := hv.even w hw.short (Nat.ne_of_gt hlt) heq
  obtain ⟨k, e', hk, hk', heven', rfl⟩ := hw.even _ hv.short (Nat.ne_of_lt hlt) heq.symm
  have hsucc : m + 1 < 2 ^ bits := by
    have hpow : 2 ^ bits % 2 = 0 := Nat.two_pow_mod_two_eq_zero.2 (by omega)
    omega
  -- both significands are even, so there is a short number between the two, and it is nearer
  have hbetween : (m + 1) * 2 ^ e < k * 2 ^ e' := by
    rcases Nat.lt_trichotomy e e' with he | rfl | he
    · exact mul_two_pow_lt hsucc hk he
    · have hmk : m < k := Nat.lt_of_mul_lt_mul_right hlt
      exact Nat.mul_lt_mul_of_pos_right (by omega) (Nat.two_pow_pos _)
    · exact absurd hlt (Nat.lt_asymm (mul_two_pow_lt hk' hm he))
  have hnear := hv.nearest ((m + 1) * 2 ^ e) ⟨m + 1, e, hsucc, rfl⟩
  have habove : m * 2 ^ e < (m + 1) * 2 ^ e :=
    Nat.mul_lt_mul_of_pos_right (Nat.lt_succ_self m) (Nat.two_pow_pos _)
  unfold Nat.dist at heq hnear
  omega

/-- **The rounded number** is the only short one that is nearest. -/
theorem isRounded_iff {bits n v : Nat} (hb : 1 < bits) :
    IsRounded bits n v ↔ v = roundTo bits n := by
  have hround : IsRounded bits n (roundTo bits n) := isRounded_roundTo hb n
  constructor
  · exact fun h => Nat.le_antisymm (hround.le hb h) (h.le hb hround)
  · rintro rfl
    exact hround

/-- Up to `2 ^ bits` nothing is rounded. -/
theorem roundTo_of_le_two_pow {bits n : Nat} (hb : 1 < bits) (h : n ≤ 2 ^ bits) :
    roundTo bits n = n := by
  have hshort : Short bits n := by
    rcases Nat.lt_or_eq_of_le h with hlt | rfl
    · exact ⟨n, 0, hlt, (Nat.mul_one n).symm⟩
    · exact ⟨1, bits, Nat.one_lt_two_pow (by omega), (Nat.one_mul _).symm⟩
  have hnear := (isRounded_roundTo hb n).nearest n hshort
  unfold Nat.dist at hnear
  omega

/-! ## Order -/

theorem roundTo_mono {bits n m : Nat} (hb : 0 < bits) (h : n ≤ m) :
    roundTo bits n ≤ roundTo bits m := by
  have hlog : n.log2 ≤ m.log2 := by
    rw [Nat.log2_eq_log_two, Nat.log2_eq_log_two]
    exact Nat.log_mono_right h
  rcases Nat.lt_or_eq_of_le hlog with hlt | heq
  · -- a power of two lies between the two
    have hm : m ≠ 0 := by
      rintro rfl
      rw [Nat.log2_zero] at hlt
      omega
    calc roundTo bits n ≤ 2 ^ (n.log2 + 1) :=
          roundTo_le_two_pow (by unfold unitExponent; omega) (Nat.le_of_lt Nat.lt_log2_self)
      _ ≤ 2 ^ m.log2 := Nat.pow_le_pow_right (by decide) hlt
      _ ≤ roundTo bits m :=
          two_pow_le_roundTo (by unfold unitExponent; omega) (Nat.log2_self_le hm)
  · have hunit : unitExponent bits n = unitExponent bits m := by unfold unitExponent; rw [heq]
    rw [roundTo_eq, roundTo_eq, hunit]
    exact Nat.mul_le_mul_right _ (roundDiv_mono h)

end PartitionSize
