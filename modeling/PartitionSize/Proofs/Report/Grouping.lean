import PartitionSize.Proofs.Report.Units

/-!
# Grouped digits say the number

`groupDigits` puts commas between the digits of a number, and nothing else changes.

* **Nothing is lost** (`filter_groupThrees`): without its commas, the text is the digits again.
  Hence no two numbers are written alike.
* **Groups** (`exists_isGrouping`): the commas stand between groups of three digits. Only the first
  group, which takes what the others leave over, may have fewer. Read from the front, a group ends
  where the digits behind it are a multiple of three (`IsGrouping.length`).
-/

namespace PartitionSize

/-- Digits in groups of three, and the first group what is left over. -/
structure IsGrouping (cs first : List Char) (groups : List (List Char)) : Prop where
  pos : 1 ≤ first.length
  le_three : first.length ≤ 3
  three : ∀ g ∈ groups, g.length = 3
  flatten : first ++ groups.flatten = cs

namespace IsGrouping

variable {c : Char} {cs first : List Char} {groups : List (List Char)}

/-- How many digits there are in the groups after the first is a multiple of three. -/
theorem length (h : IsGrouping cs first groups) : cs.length = first.length + 3 * groups.length := by
  have hthrees : groups.flatten.length = 3 * groups.length := by
    rw [List.length_flatten, List.map_congr_left h.three, List.map_const', List.sum_replicate_nat,
      Nat.mul_comm]
  rw [← h.flatten, List.length_append, hthrees]

/-- One more digit begins a group where a multiple of three follows. -/
theorem cons_of_mod_eq (h : IsGrouping cs first groups) (hmod : cs.length % 3 = 0) :
    IsGrouping (c :: cs) [c] (first :: groups) where
  pos := Nat.le_refl 1
  le_three := Nat.le_add_left 1 2
  three := by
    have hlength := h.length
    have hpos := h.pos
    have hle := h.le_three
    exact List.forall_mem_cons.2 ⟨by omega, h.three⟩
  flatten := by rw [List.flatten_cons, h.flatten, List.singleton_append]

/-- Anywhere else it belongs to the first group. -/
theorem cons_of_mod_ne (h : IsGrouping cs first groups) (hmod : cs.length % 3 ≠ 0) :
    IsGrouping (c :: cs) (c :: first) groups where
  pos := Nat.succ_pos _
  le_three := by
    have hlength := h.length
    have hle := h.le_three
    rw [List.length_cons]
    omega
  three := h.three
  flatten := by rw [List.cons_append, h.flatten]

theorem forall_mem {p : Char → Prop} (h : IsGrouping cs first groups) (hp : ∀ c ∈ cs, p c) :
    ∀ g ∈ first :: groups, ∀ c ∈ g, p c := by
  intro g hg c hc
  refine hp c ?_
  rw [← h.flatten, ← List.flatten_cons]
  exact List.mem_flatten_of_mem hg hc

end IsGrouping

/-! ## Digits -/

theorem filter_groupThrees {cs : List Char} (h : ',' ∉ cs) :
    (groupThrees cs).filter (· != ',') = cs := by
  induction cs with
  | nil => rfl
  | cons c cs ih =>
    rw [List.mem_cons, not_or] at h
    have hc : ∀ rest, (c :: rest).filter (· != ',') = c :: rest.filter (· != ',') :=
      fun _ => List.filter_cons_of_pos (bne_iff_ne.2 (Ne.symm h.1))
    unfold groupThrees
    split
    · rw [hc, List.filter_cons_of_neg (by decide), ih h.2]
    · rw [hc, ih h.2]

theorem exists_isGrouping {cs : List Char} (h : cs ≠ []) :
    ∃ first groups, IsGrouping cs first groups ∧
      groupThrees cs = [','].intercalate (first :: groups) := by
  induction cs with
  | nil => exact absurd rfl h
  | cons c cs ih =>
    by_cases hcs : cs = []
    · subst hcs
      exact ⟨[c], [], ⟨Nat.le_refl 1, Nat.le_add_left 1 2, by simp, rfl⟩, rfl⟩
    obtain ⟨first, groups, hgroups, htext⟩ := ih hcs
    unfold groupThrees
    rw [htext]
    by_cases hmod : cs.length % 3 = 0
    · refine ⟨[c], first :: groups, hgroups.cons_of_mod_eq hmod, ?_⟩
      rw [if_pos ⟨hcs, hmod⟩, List.intercalate_cons_cons]
      rfl
    · refine ⟨c :: first, groups, hgroups.cons_of_mod_ne hmod, ?_⟩
      rw [if_neg fun hcomma => hmod hcomma.2]
      cases groups with
      | nil => simp
      | cons g groups => rw [List.intercalate_cons_cons, List.intercalate_cons_cons]; rfl

/-! ## Numbers -/

/-- The text of a number is its sign and the digits of its absolute value. -/
theorem toString_eq_sign_append (n : Int) :
    toString n = (if n < 0 then "-" else "") ++ toString n.natAbs := by
  cases n with
  | ofNat n =>
    have hpos : ¬Int.ofNat n < 0 := Int.not_lt.2 (Int.natCast_nonneg n)
    rw [if_neg hpos, String.empty_append]
    rfl
  | negSucc n =>
    rw [if_pos (Int.negSucc_lt_zero n)]
    rfl

theorem comma_not_mem_digits (n : Nat) : ',' ∉ (toString n).toList :=
  fun h => absurd (Number.isDigit_of_mem_toString ',' h) (by decide)

theorem filter_groupDigits (n : Int) :
    String.ofList ((groupDigits n).toList.filter (· != ',')) = toString n := by
  have hsign : (if n < 0 then "-" else "").toList.filter (· != ',') =
      (if n < 0 then "-" else "").toList := by
    split <;> rfl
  rw [toString_eq_sign_append n, groupDigits, String.toList_append, String.toList_ofList,
    List.filter_append, hsign, filter_groupThrees (comma_not_mem_digits _), ← String.toList_append,
    String.ofList_toList]

/-- **Grouping loses nothing.** A number is written as its decimal digits with commas between them,
so that one to three digits come first, behind the sign, and then groups of three. Hence no two
numbers are written alike. -/
theorem groupDigits_groups :
    (∀ n : Int, String.ofList ((groupDigits n).toList.filter (· != ',')) = toString n ∧
      ∃ (first : String) (groups : List String),
        groupDigits n = (if n < 0 then "-" else "") ++ ",".intercalate (first :: groups) ∧
        1 ≤ first.length ∧ first.length ≤ 3 ∧ (∀ g ∈ groups, g.length = 3) ∧
        ∀ g ∈ first :: groups, ∀ c ∈ g.toList, c.isDigit = true) ∧
    Function.Injective groupDigits := by
  refine ⟨fun n => ⟨filter_groupDigits n, ?_⟩, fun n m h => ?_⟩
  · obtain ⟨first, groups, hgroups, htext⟩ := exists_isGrouping (Number.toString_ne_nil n.natAbs)
    refine ⟨String.ofList first, groups.map String.ofList, ?_, ?_, ?_, ?_, ?_⟩
    · rw [groupDigits, htext]
      congr 1
      apply String.toList_injective
      simp [String.toList_intercalate]
    · simpa using hgroups.pos
    · simpa using hgroups.le_three
    · simpa using hgroups.three
    · have hdigits := hgroups.forall_mem Number.isDigit_of_mem_toString
      rw [← List.map_cons]
      exact List.forall_mem_map.2 fun g hg => by simpa using hdigits g hg
  · apply toString_int_injective
    rw [← filter_groupDigits n, ← filter_groupDigits m, h]

example : groupDigits (-0x8000000000000000) = "-9,223,372,036,854,775,808" := by decide +kernel

end PartitionSize
