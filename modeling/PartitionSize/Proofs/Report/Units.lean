import PartitionSize.Report.Amount
import PartitionSize.Proofs.Quantity.RoundTrip
import PartitionSize.Proofs.Report.Rounding
import Mathlib.Algebra.Order.Field.Rat
import Mathlib.Order.Bounds.Defs
import Mathlib.Tactic.Linarith

/-!
# Binary units say the size, and in order

An amount of bytes is written as a number and a unit. `BinaryUnit.reading?` reads such a text as
number times unit, whoever wrote it.

* **The unit** (`isGreatest_power`) is the largest one that is not larger than the amount.
* **The number** (`tenthsOf`) is a quotient rounded to tenths. Just below the next unit it can be
  1024.0, which is as much as the next unit starts with, so the order is kept across units
  (`tenthsOf_mul_mono`).
* **What is read** is the number itself below 1024 (`reading?_humanBytes_of_lt`), and a number of
  tenths of the unit from there on (`reading?_humanBytes_of_le`). A larger amount is never read as
  less (`exists_reading_mono`).
-/

namespace PartitionSize

namespace BinaryUnit

/-! ## Reading an amount -/

/-- The value of digits with a decimal point or without one. -/
def decimal (cs : List Char) : ℚ :=
  let whole := cs.takeWhile (· != '.')
  let behind := (cs.dropWhile (· != '.')).drop 1
  Nat.ofDigitChars 10 (whole ++ behind) 0 / 10 ^ behind.length

/-- The value of a decimal with a sign or without one. -/
def number : List Char → ℚ
  | '-' :: cs => -decimal cs
  | cs => decimal cs

/-- The number of bytes that a text gives: a number, a blank, and the name of a power of 1024. -/
def reading? (text : String) : Option ℚ :=
  let unit := String.ofList ((text.toList.dropWhile (· != ' ')).drop 1)
  (("B" :: names).idxOf? unit).map fun k =>
    number (text.toList.takeWhile (· != ' ')) * 1024 ^ k

theorem ofDigitChars_toString (n : Nat) : Nat.ofDigitChars 10 (toString n).toList 0 = n := by
  rw [Nat.toString_eq_ofList_toDigits, String.toList_ofList, Nat.ofDigitChars_ten_toDigits]

theorem ne_of_isDigit {c d : Char} (hc : c.isDigit = true) (hd : d.isDigit = false) :
    (c != d) = true := by
  rw [bne_iff_ne]
  rintro rfl
  exact absurd (hd.symm.trans hc) Bool.false_ne_true

theorem decimal_toString (n : Nat) : decimal (toString n).toList = n := by
  have hne : ∀ c ∈ (toString n).toList, (c != '.') = true :=
    fun c hc => ne_of_isDigit (Number.isDigit_of_mem_toString c hc) rfl
  unfold decimal
  rw [List.takeWhile_eq_self_iff.2 hne, List.dropWhile_eq_nil_iff.2 hne]
  simp

/-- The value of digits, a point and one more digit. -/
theorem decimal_tenths (n : Nat) : decimal (tenths n).toList = n / 10 := by
  have hne : ∀ c ∈ (toString (n / 10)).toList, (c != '.') = true :=
    fun c hc => ne_of_isDigit (Number.isDigit_of_mem_toString c hc) rfl
  have hlast : (toString (n % 10)).toList = [(n % 10).digitChar] := by
    rw [Nat.toString_eq_ofList_toDigits, String.toList_ofList,
      Nat.toDigits_of_lt_base (Nat.mod_lt n (by decide))]
  have hvalue : ∀ r < 10, r.digitChar.toNat - '0'.toNat = r := by decide
  have htext : (tenths n).toList = (toString (n / 10)).toList ++ '.' :: [(n % 10).digitChar] := by
    rw [← hlast]
    simp [tenths]
  unfold decimal
  rw [htext, List.takeWhile_append_of_pos hne, List.dropWhile_append_of_pos hne]
  simp only [List.takeWhile_cons, List.dropWhile_cons, bne_self_eq_false, Bool.false_eq_true,
    if_false, List.drop_one, List.tail_cons, List.append_nil, List.length_singleton, pow_one]
  rw [Nat.ofDigitChars_append, ofDigitChars_toString, Nat.ofDigitChars_cons,
    hvalue _ (Nat.mod_lt n (by decide)), Nat.ofDigitChars_nil, Nat.div_add_mod]

theorem number_of_head {c : Char} {cs : List Char} (hc : c ≠ '-') :
    number (c :: cs) = decimal (c :: cs) := by
  unfold number
  split
  · next h => exact absurd (List.cons.inj h).1 hc
  · rfl

theorem number_of_digits {n : Nat} {cs : List Char} :
    number ((toString n).toList ++ cs) = decimal ((toString n).toList ++ cs) := by
  cases h : (toString n).toList with
  | nil => exact absurd h (Number.toString_ne_nil n)
  | cons c ds =>
    refine number_of_head ?_
    rintro rfl
    have := Number.isDigit_of_mem_toString (n := n) '-' (by rw [h]; exact List.mem_cons_self)
    cases this

theorem toList_negSucc (n : Nat) :
    (toString (Int.negSucc n)).toList = '-' :: (toString (n + 1)).toList := by
  have htext : toString (Int.negSucc n) = "-" ++ toString (n + 1) := rfl
  rw [htext, String.toList_append]
  rfl

theorem number_toString (n : Int) : number (toString n).toList = n := by
  cases n with
  | ofNat n =>
    have h : number ((toString n).toList ++ []) = decimal ((toString n).toList ++ []) :=
      number_of_digits
    rw [List.append_nil, decimal_toString] at h
    exact h
  | negSucc n => rw [toList_negSucc, number, decimal_toString, Int.cast_negSucc]

theorem number_tenths (n : Nat) : number (tenths n).toList = n / 10 := by
  rw [← decimal_tenths]
  unfold tenths
  rw [String.append_assoc, String.toList_append]
  exact number_of_digits

theorem isDigit_or_of_mem_toString {n : Int} {c : Char} (h : c ∈ (toString n).toList) :
    c.isDigit = true ∨ c = '-' := by
  cases n with
  | ofNat n => exact .inl (Number.isDigit_of_mem_toString c h)
  | negSucc n =>
    rw [toList_negSucc, List.mem_cons] at h
    exact h.symm.imp_left (Number.isDigit_of_mem_toString c)

/-- Digits, and a minus in front, are none of the characters that separate. -/
theorem not_mem_toString {n : Int} {c : Char} (hc : c.isDigit = false) (hminus : c ≠ '-') :
    c ∉ (toString n).toList := by
  intro hm
  rcases isDigit_or_of_mem_toString hm with hdigit | rfl
  · exact absurd (hc.symm.trans hdigit) Bool.false_ne_true
  · exact hminus rfl

theorem ne_blank_digits (n : Nat) : ∀ c ∈ (toString n).toList, c ≠ ' ' := by
  rintro c hc rfl
  cases Number.isBlank_toString n ' ' hc

theorem ne_blank_toString (n : Int) : ∀ c ∈ (toString n).toList, c ≠ ' ' := by
  rintro c hc rfl
  exact not_mem_toString rfl (by decide) hc

theorem ne_blank_tenths (n : Nat) : ∀ c ∈ (tenths n).toList, c ≠ ' ' := by
  unfold tenths
  rw [String.toList_append, String.toList_append]
  intro c hc
  rcases List.mem_append.1 hc with hc | hc
  · rcases List.mem_append.1 hc with hc | hc
    · exact ne_blank_digits _ c hc
    · rw [List.mem_singleton.1 hc]
      decide
  · exact ne_blank_digits _ c hc

theorem idxOf?_names {k : Nat} (hone : 1 ≤ k) (hsix : k ≤ 6) :
    ("B" :: names).idxOf? (names.getD (k - 1) "") = some k := by
  have hall : ∀ k < 7, 1 ≤ k → ("B" :: names).idxOf? (names.getD (k - 1) "") = some k := by decide
  exact hall k (by omega) hone

/-- A number, a blank and a unit are read as their product. -/
theorem reading?_eq {s unit : String} {k : Nat} (hs : ∀ c ∈ s.toList, c ≠ ' ')
    (hk : ("B" :: names).idxOf? unit = some k) :
    reading? (s ++ " " ++ unit) = some (number s.toList * 1024 ^ k) := by
  have hne : ∀ c ∈ s.toList, (c != ' ') = true := fun c hc => bne_iff_ne.2 (hs c hc)
  have htext : (s ++ " " ++ unit).toList = s.toList ++ ' ' :: unit.toList := by simp
  unfold reading?
  rw [htext, List.takeWhile_append_of_pos hne, List.dropWhile_append_of_pos hne]
  simp only [List.takeWhile_cons, List.dropWhile_cons, bne_self_eq_false, Bool.false_eq_true,
    if_false, List.drop_one, List.tail_cons, List.append_nil, String.ofList_toList]
  rw [hk]
  rfl

/-! ## The unit -/

theorem largest_spec (v k n : Nat) :
    k ≤ largest v k n ∧ largest v k n ≤ k + n ∧
      (k < largest v k n → 1024 ^ largest v k n ≤ v) ∧
      (largest v k n < k + n → v < 1024 ^ (largest v k n + 1)) := by
  induction n generalizing k with
  | zero => exact ⟨Nat.le_refl _, Nat.le_refl _, by simp [largest], by simp [largest]⟩
  | succ n ih =>
    unfold largest
    split
    · next hle =>
      obtain ⟨hlow, hhigh, hreach, hmiss⟩ := ih (k + 1)
      refine ⟨by omega, by omega, fun _ => ?_, fun hlt => hmiss (by omega)⟩
      rcases Nat.lt_or_eq_of_le hlow with hlt | heq
      · exact hreach hlt
      · rw [← heq]
        exact hle
    · next hgt => exact ⟨by omega, by omega, by omega, fun _ => Nat.lt_of_not_le hgt⟩

/-- The unit is the largest one that is at most the number. -/
theorem isGreatest_power {v : Nat} (hv : 1024 ≤ v) :
    IsGreatest {k | 1 ≤ k ∧ k ≤ 6 ∧ 1024 ^ k ≤ v} (power v) := by
  obtain ⟨hlow, hhigh, hreach, hmiss⟩ := largest_spec v 1 5
  refine ⟨⟨hlow, hhigh, ?_⟩, fun k hk => Nat.le_of_not_lt fun hlt => ?_⟩
  · rcases Nat.lt_or_eq_of_le hlow with hlt | heq
    · exact hreach hlt
    · unfold power
      rw [show names.length - 1 = 5 from rfl, ← heq]
      exact hv
  · obtain ⟨-, hle, hk⟩ := hk
    have hnext : 1024 ^ (power v + 1) ≤ v :=
      Nat.le_trans (Nat.pow_le_pow_right (by decide) hlt) hk
    have hpower : power v < 6 := by omega
    exact absurd hnext (Nat.not_le.2 (hmiss hpower))

/-! ## The number -/

/-- The number of tenths of its unit that `v` is written with. -/
def tenthsOf (v : Nat) : Nat := roundDiv (10 * v) (1024 ^ power v)

/-- What is written keeps the order, also from one unit to the next. -/
theorem tenthsOf_mul_mono {v w : Nat} (hv : 1024 ≤ v) (h : v ≤ w) :
    tenthsOf v * 1024 ^ power v ≤ tenthsOf w * 1024 ^ power w := by
  obtain ⟨⟨hone, hsix, hreach⟩, hgreatest⟩ := isGreatest_power hv
  obtain ⟨⟨hone', hsix', hreach'⟩, hgreatest'⟩ := isGreatest_power (Nat.le_trans hv h)
  have hpower : power v ≤ power w := hgreatest' ⟨hone, hsix, Nat.le_trans hreach h⟩
  have hpos : ∀ k, 0 < 1024 ^ k := fun k => Nat.pow_pos (by decide)
  rcases Nat.lt_or_eq_of_le hpower with hlt | heq
  · -- the start of the next unit lies between the two
    have hbelow : v ≤ 1024 ^ (power v + 1) := by
      refine Nat.le_of_not_lt fun hgt => ?_
      have := hgreatest ⟨by omega, by omega, Nat.le_of_lt hgt⟩
      omega
    have hv10 : tenthsOf v ≤ 10 * 1024 := by
      refine roundDiv_le (hpos _) ?_
      rw [Nat.pow_succ] at hbelow
      omega
    have hw10 : 10 ≤ tenthsOf w := le_roundDiv (hpos _) (Nat.mul_le_mul_left 10 hreach')
    calc tenthsOf v * 1024 ^ power v ≤ 10 * 1024 * 1024 ^ power v := Nat.mul_le_mul_right _ hv10
      _ = 10 * 1024 ^ (power v + 1) := by rw [Nat.pow_succ, Nat.mul_assoc, Nat.mul_comm 1024]
      _ ≤ 10 * 1024 ^ power w := Nat.mul_le_mul_left 10 (Nat.pow_le_pow_right (by decide) hlt)
      _ ≤ tenthsOf w * 1024 ^ power w := Nat.mul_le_mul_right _ hw10
  · unfold tenthsOf
    rw [← heq]
    exact Nat.mul_le_mul_right _ (roundDiv_mono (Nat.mul_le_mul_left 10 h))

theorem le_tenthsOf_mul {v : Nat} (hv : 1024 ≤ v) : 10240 ≤ tenthsOf v * 1024 ^ power v :=
  tenthsOf_mul_mono (Nat.le_refl 1024) hv

end BinaryUnit

/-- A number can be read in its decimal text. -/
theorem toString_int_injective {a b : Int} (h : toString a = toString b) : a = b := by
  have hnumber : (a : ℚ) = b := by
    rw [← BinaryUnit.number_toString, ← BinaryUnit.number_toString, h]
  exact_mod_cast hnumber

/-! ## Amounts of bytes -/

open BinaryUnit

theorem le_roundTo_precision {n : Nat} (h : 1024 ≤ n) : 1024 ≤ roundTo precision n := by
  have hself : roundTo precision 1024 = 1024 := roundTo_of_log2_lt (by decide)
  rw [← hself]
  exact roundTo_mono (by decide) h

theorem humanBytes_of_lt {n : Int} (h : n < 1024) : humanBytes n = toString n ++ " B" := if_pos h

theorem humanBytes_of_le {n : Int} (h : 1024 ≤ n) :
    humanBytes n = tenths (tenthsOf (roundTo precision n.toNat)) ++ " " ++
      names.getD (power (roundTo precision n.toNat) - 1) "" :=
  if_neg (Int.not_lt.2 h)

/-- Numbers below 1024 are read back exactly. -/
theorem reading?_humanBytes_of_lt {n : Int} (h : n < 1024) :
    reading? (humanBytes n) = some (n : ℚ) := by
  have hunit : ("B" :: names).idxOf? "B" = some 0 := by decide
  have htext : humanBytes n = toString n ++ " " ++ "B" := by
    rw [humanBytes_of_lt h, String.append_assoc]
    rfl
  rw [htext, reading?_eq (ne_blank_toString n) hunit, number_toString, pow_zero, mul_one]

theorem reading?_humanBytes_of_le {n : Int} (h : 1024 ≤ n) :
    reading? (humanBytes n) = some ((tenthsOf (roundTo precision n.toNat) : ℚ) / 10 *
      1024 ^ power (roundTo precision n.toNat)) := by
  have hv : 1024 ≤ roundTo precision n.toNat := le_roundTo_precision (by omega)
  obtain ⟨⟨hone, hsix, -⟩, -⟩ := isGreatest_power hv
  rw [humanBytes_of_le h, reading?_eq (ne_blank_tenths _) (idxOf?_names hone hsix), number_tenths]

/-- **Amounts keep the order**: of two numbers of bytes, the larger one is not written as less. -/
theorem exists_reading_mono {n m : Int} (h : n ≤ m) :
    ∃ x y, reading? (humanBytes n) = some x ∧ reading? (humanBytes m) = some y ∧ x ≤ y := by
  rcases lt_or_ge m 1024 with hm | hm
  · exact ⟨n, m, reading?_humanBytes_of_lt (by omega), reading?_humanBytes_of_lt hm,
      Int.cast_le.2 h⟩
  rcases lt_or_ge n 1024 with hn | hn
  · refine ⟨n, _, reading?_humanBytes_of_lt hn, reading?_humanBytes_of_le hm, ?_⟩
    generalize hv : roundTo precision m.toNat = v
    have hle : 10240 ≤ tenthsOf v * 1024 ^ power v := by
      rw [← hv]
      exact le_tenthsOf_mul (le_roundTo_precision (by omega))
    have hq : (10240 : ℚ) ≤ tenthsOf v * 1024 ^ power v := by exact_mod_cast hle
    have hnq : (n : ℚ) ≤ 1024 := by exact_mod_cast hn.le
    linarith
  · refine ⟨_, _, reading?_humanBytes_of_le hn, reading?_humanBytes_of_le hm, ?_⟩
    have hround : roundTo precision n.toNat ≤ roundTo precision m.toNat :=
      roundTo_mono (by decide) (Int.toNat_le_toNat h)
    generalize hv : roundTo precision n.toNat = v at hround
    generalize hw : roundTo precision m.toNat = w at hround
    have hle : tenthsOf v * 1024 ^ power v ≤ tenthsOf w * 1024 ^ power w := by
      refine tenthsOf_mul_mono ?_ hround
      rw [← hv]
      exact le_roundTo_precision (by omega)
    have hq : (tenthsOf v : ℚ) * 1024 ^ power v ≤ tenthsOf w * 1024 ^ power w := by
      exact_mod_cast hle
    linarith

/-- **Amounts are accurate and keep the order.** From 1024 on, a number of bytes is rounded to the
nearest one of 53 binary digits, the even one of two; its unit is the largest that is not larger;
and the number of units is rounded to the nearest tenth, the even one of two. Below, the number is
written as it is. What is read in the text of a larger number is never less. -/
theorem humanBytes_nearest_mono :
    (∀ n : Int, 1024 ≤ n → ∃ v k t unit,
      (∀ w, IsRounded 53 n.toNat w ↔ w = v) ∧ (n ≤ 2 ^ 53 → (v : Int) = n) ∧
      IsGreatest {k | 1 ≤ k ∧ k ≤ 6 ∧ 1024 ^ k ≤ v} k ∧
      ["KiB", "MiB", "GiB", "TiB", "PiB", "EiB"][k - 1]? = some unit ∧
      (∀ q, IsNearest (10 * v) (1024 ^ k) q ↔ q = t) ∧
      humanBytes n = toString (t / 10) ++ "." ++ toString (t % 10) ++ " " ++ unit ∧
      reading? (humanBytes n) = some ((t : ℚ) / 10 * 1024 ^ k)) ∧
    (∀ n : Int, n < 1024 →
      humanBytes n = toString n ++ " B" ∧ reading? (humanBytes n) = some (n : ℚ)) ∧
    ∀ n m : Int, n ≤ m → ∃ x y,
      reading? (humanBytes n) = some x ∧ reading? (humanBytes m) = some y ∧ x ≤ y := by
  refine ⟨fun n h => ?_, fun n h => ⟨humanBytes_of_lt h, reading?_humanBytes_of_lt h⟩,
    fun n m h => exists_reading_mono h⟩
  have hv : 1024 ≤ roundTo precision n.toNat := le_roundTo_precision (by omega)
  have hpower := isGreatest_power hv
  refine ⟨roundTo precision n.toNat, power (roundTo precision n.toNat),
    tenthsOf (roundTo precision n.toNat), names.getD (power (roundTo precision n.toNat) - 1) "",
    fun w => isRounded_iff (by decide), fun hle => ?_, hpower, ?_,
    fun q => isNearest_iff (Nat.pow_pos (by decide)), humanBytes_of_le h,
    reading?_humanBytes_of_le h⟩
  · rw [roundTo_of_le_two_pow (by decide) (by unfold precision; omega)]
    omega
  · have hlt : power (roundTo precision n.toNat) - 1 < names.length :=
      Nat.lt_of_le_of_lt (Nat.sub_le_sub_right hpower.1.2.1 1) (by decide)
    rw [List.getD_eq_getElem?_getD]
    change names[_]? = _
    rw [List.getElem?_eq_getElem hlt, Option.getD_some]

/-- Just below a mebibyte, the kibibytes are rounded up to as many as there are in one. -/
theorem humanBytes_nearest_mono_below_mebibyte :
    (1024 : Int) ≤ 1048575 ∧ IsRounded 53 1048575 1048575 ∧ humanBytes 1048575 = "1024.0 KiB" ∧
      ∃ x y, reading? (humanBytes 1048575) = some x ∧ reading? (humanBytes 1048576) = some y ∧
        x ≤ y := by
  obtain ⟨hnearest, -, hmono⟩ := humanBytes_nearest_mono
  obtain ⟨v, k, t, unit, hrounded, hself, -⟩ := hnearest 1048575 (by decide)
  have hv : v = 1048575 := by exact_mod_cast hself (by norm_num)
  exact ⟨by decide, (hrounded 1048575).2 hv.symm, by decide +kernel,
    hmono 1048575 1048576 (by decide)⟩

end PartitionSize
