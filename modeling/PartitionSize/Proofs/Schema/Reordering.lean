import PartitionSize.Proofs.Estimation.Exact
import PartitionSize.Proofs.Schema.Sizes

/-!
# Sizes in another order

What a list of sizes does to a schema is said without the order of work:

* **All or nothing** (`Schema.firstSizeError?_eq_none_iff`): the list applies if the schema at the
  start accepts each of its entries (`Schema.Accepts`). Else the first one that it rejects is the
  error (`Schema.firstSizeError?_eq_some_iff`), with the first cause of `Schema.Rejects` that holds.
* **Other orders** (`Schema.applySizes_last`): acceptance is a matter of the members of the list,
  and the last size for a name one of the entries for that name alone (`lastSize?_eq_getLast?`). So
  no other order changes whether a list applies, and one that keeps the entries of each name in
  order (`SameSizes`) does not change what comes out.
-/

namespace PartitionSize

namespace Schema

/-! ## Entries -/

/-- The first declared column of the entry's name is of variable size, and the size is none below
zero. -/
structure Accepts (s : Schema) (entry : String × Int) : Prop where
  variableSize : ∃ c, s.column? entry.1 = some c ∧ c.dataType.isFixedSize = false
  nonneg : 0 ≤ entry.2

/-- What is wrong with an entry: each cause counts where the ones above it do not hold. -/
inductive Rejects (s : Schema) : String × Int → SizeEstimateError → Prop
  | unknownColumn {name : String} {size : Int} (h : s.column? name = none) :
    Rejects s (name, size) (.unknownColumn name)
  | fixedSizeColumn {name : String} {size : Int} {c : Column} (h : s.column? name = some c)
      (hf : c.dataType.isFixedSize = true) :
    Rejects s (name, size) (.fixedSizeColumn name c.dataType.name)
  | negativeSize {name : String} {size : Int} {c : Column} (h : s.column? name = some c)
      (hf : c.dataType.isFixedSize = false) (hneg : size < 0) :
    Rejects s (name, size) (.negativeSize name size)

theorem sizeEstimateError?_eq_none_iff (s : Schema) (name : String) (size : Int) :
    s.sizeEstimateError? name size = none ↔ s.Accepts (name, size) := by
  rw [sizeEstimateError?_eq, Option.or_eq_none_iff, refusal?_eq_none_iff]
  constructor
  · rintro ⟨hname, hsize⟩
    refine ⟨hname, Int.not_lt.1 fun hneg => ?_⟩
    rw [if_pos hneg] at hsize
    cases hsize
  · intro h
    exact ⟨h.variableSize, if_neg (Int.not_lt.2 h.nonneg)⟩

theorem sizeEstimateError?_eq_some_iff (s : Schema) (name : String) (size : Int)
    (cause : SizeEstimateError) :
    s.sizeEstimateError? name size = some cause ↔ s.Rejects (name, size) cause := by
  unfold sizeEstimateError?
  constructor
  · intro h
    cases hc : s.column? name with
    | none =>
      rw [hc] at h
      cases h
      exact .unknownColumn hc
    | some c =>
      cases hf : c.dataType.isFixedSize with
      | true =>
        simp only [hc, hf, if_true] at h
        cases h
        exact .fixedSizeColumn hc hf
      | false =>
        simp only [hc, hf, Bool.false_eq_true, if_false] at h
        split at h
        · next hneg => cases h; exact .negativeSize hc hf hneg
        · cases h
  · rintro (hc | ⟨hc, hf⟩ | ⟨hc, hf, hneg⟩)
    · rw [hc]
    · simp [hc, hf]
    · simp [hc, hf, hneg]

/-! ## Lists of entries -/

theorem firstSizeError?_eq_none_iff (s : Schema) (sizes : List (String × Int)) :
    s.firstSizeError? sizes = none ↔ ∀ entry ∈ sizes, s.Accepts entry := by
  unfold firstSizeError?
  rw [List.findSome?_eq_none_iff]
  simp only [Option.map_eq_none_iff, sizeEstimateError?_eq_none_iff]

theorem firstSizeError?_eq_some_iff (s : Schema) (sizes : List (String × Int)) (column : String)
    (cause : SizeEstimateError) :
    s.firstSizeError? sizes = some (column, cause) ↔
      ∃ before size behind, sizes = before ++ (column, size) :: behind ∧
        (∀ entry ∈ before, s.Accepts entry) ∧ s.Rejects (column, size) cause := by
  unfold firstSizeError?
  rw [List.findSome?_eq_some_iff]
  simp only [Option.map_eq_some_iff, Option.map_eq_none_iff, sizeEstimateError?_eq_none_iff,
    sizeEstimateError?_eq_some_iff, Prod.mk.injEq]
  constructor
  · rintro ⟨before, ⟨name, size⟩, behind, rfl, ⟨cause, h, rfl, rfl⟩, hb⟩
    exact ⟨before, size, behind, rfl, hb, h⟩
  · rintro ⟨before, size, behind, rfl, hb, h⟩
    exact ⟨before, _, behind, rfl, ⟨cause, h, rfl, rfl⟩, hb⟩

end Schema

/-! ## Orders -/

/-- The two lists have the same entries for each name, in the same order. -/
def SameSizes (sizes sizes' : List (String × Int)) : Prop :=
  ∀ name, sizes.filter (·.1 == name) = sizes'.filter (·.1 == name)

/-- Lists that agree for each name are reorderings of each other. -/
theorem SameSizes.perm {sizes sizes' : List (String × Int)} (h : SameSizes sizes sizes') :
    sizes.Perm sizes' := by
  rw [List.perm_iff_count]
  intro entry
  have hcount : ∀ l : List (String × Int), l.count entry = (l.filter (·.1 == entry.1)).count entry :=
    fun l => (List.count_filter (by simp)).symm
  rw [hcount, hcount sizes', h entry.1]

/-- The last size for a name is that of the last of its entries. -/
theorem lastSize?_eq_getLast? (sizes : List (String × Int)) (name : String) :
    lastSize? sizes name = (sizes.filter (·.1 == name)).getLast?.map (·.2) := by
  induction sizes with
  | nil => rfl
  | cons entry sizes ih =>
    rw [lastSize?_cons, ih]
    by_cases hn : name = entry.1
    · rw [List.filter_cons_of_pos (by simp [hn]), List.getLast?_cons, if_pos hn]
      cases (sizes.filter (·.1 == name)).getLast? <;> rfl
    · rw [List.filter_cons_of_neg (by simpa using Ne.symm hn), if_neg hn, Option.or_none]

theorem SameSizes.lastSize?_eq {sizes sizes' : List (String × Int)} (h : SameSizes sizes sizes') :
    lastSize? sizes = lastSize? sizes' := by
  funext name
  rw [lastSize?_eq_getLast?, lastSize?_eq_getLast?, h name]

/-! ## The stage of sizes -/

theorem Schema.applySizes_eq_error_iff (s : Schema) (sizes : List (String × Int))
    (e : CalculationError) :
    s.applySizes sizes = .error e ↔
      ∃ column cause, s.firstSizeError? sizes = some (column, cause) ∧
        e = .sizeEstimate column cause := by
  unfold applySizes
  rw [withSizeEstimates_eq]
  cases s.firstSizeError? sizes with
  | some p =>
    obtain ⟨column, cause⟩ := p
    simp [eq_comm]
  | none => simp

theorem Schema.applySizes_eq_ok_iff (s s' : Schema) (sizes : List (String × Int)) :
    s.applySizes sizes = .ok s' ↔ (∀ entry ∈ sizes, s.Accepts entry) ∧
      s' = s.mapColumns (Column.resized (lastSize? sizes)) := by
  rw [← firstSizeError?_eq_none_iff, ← withSizeEstimates_eq_ok_iff]
  exact ⟨applySizes_eq_ok, applySizes_of_withSizeEstimates⟩

theorem Schema.exists_applySizes_iff (s : Schema) (sizes : List (String × Int)) :
    (∃ s', s.applySizes sizes = .ok s') ↔ ∀ entry ∈ sizes, s.Accepts entry := by
  simp only [applySizes_eq_ok_iff]
  exact ⟨fun ⟨_, h, _⟩ => h, fun h => ⟨_, h, rfl⟩⟩

/-- **Sizes apply all or none, the last for a name counts, and names do not depend on each other.**
For every schema, a list of sizes applies exactly when the schema accepts each entry, and then each
column of the three lists carries the last size for its name, and all else is as it was. Else the
error is that of the first entry that the schema rejects. No reordering changes whether a list
applies, and one that keeps the entries of each name in order gives the same schema. -/
theorem Schema.applySizes_last (s : Schema) (sizes : List (String × Int)) :
    ((∃ s', s.applySizes sizes = .ok s') ↔ ∀ entry ∈ sizes, s.Accepts entry) ∧
    (∀ s', s.applySizes sizes = .ok s' → s' = s.mapColumns fun c =>
      { c with sizeEstimate :=
          ((sizes.filter (·.1 == c.name)).getLast?.map (·.2)).or c.sizeEstimate }) ∧
    (∀ e, s.applySizes sizes = .error e ↔
      ∃ before column size behind cause, sizes = before ++ (column, size) :: behind ∧
        (∀ entry ∈ before, s.Accepts entry) ∧ s.Rejects (column, size) cause ∧
        e = .sizeEstimate column cause) ∧
    (∀ sizes', sizes'.Perm sizes →
      ((∃ s', s.applySizes sizes' = .ok s') ↔ ∃ s', s.applySizes sizes = .ok s')) ∧
    (∀ sizes', SameSizes sizes' sizes →
      sizes'.Perm sizes ∧ ∀ s', s.applySizes sizes' = .ok s' ↔ s.applySizes sizes = .ok s') := by
  have hperm : ∀ sizes' : List (String × Int), sizes'.Perm sizes →
      ((∀ entry ∈ sizes', s.Accepts entry) ↔ ∀ entry ∈ sizes, s.Accepts entry) := by
    intro sizes' h
    simp only [h.mem_iff]
  refine ⟨s.exists_applySizes_iff sizes, fun s' h => ?_, fun e => ?_, fun sizes' h => ?_,
    fun sizes' h => ⟨h.perm, fun s' => ?_⟩⟩
  · rw [((s.applySizes_eq_ok_iff s' sizes).1 h).2]
    congr 1
    funext c
    rw [Column.resized, lastSize?_eq_getLast?]
  · simp only [applySizes_eq_error_iff, firstSizeError?_eq_some_iff]
    constructor
    · rintro ⟨column, cause, ⟨before, size, behind, heq, hb, hr⟩, he⟩
      exact ⟨before, column, size, behind, cause, heq, hb, hr, he⟩
    · rintro ⟨before, column, size, behind, cause, heq, hb, hr, he⟩
      exact ⟨column, cause, ⟨before, size, behind, heq, hb, hr⟩, he⟩
  · rw [exists_applySizes_iff, exists_applySizes_iff, hperm sizes' h]
  · rw [applySizes_eq_ok_iff, applySizes_eq_ok_iff, hperm sizes' h.perm, h.lastSize?_eq]

/-- Two columns of one name, one of a fixed width, and the size for `w` behind both for `v` or
between them. A size for `z` behind one below zero is not reached. -/
theorem Schema.applySizes_last_of_repeated_name :
    Schema.applySizes ⟨"t", [⟨"v", ⟨"text"⟩, false, none⟩, ⟨"v", ⟨"int"⟩, false, none⟩,
        ⟨"w", ⟨"blob"⟩, false, some 3⟩], ⟨[⟨"v", ⟨"int"⟩, false, none⟩], []⟩⟩
        [("v", 5), ("v", 9), ("w", 1)] =
      .ok ⟨"t", [⟨"v", ⟨"text"⟩, false, some 9⟩, ⟨"v", ⟨"int"⟩, false, some 9⟩,
        ⟨"w", ⟨"blob"⟩, false, some 1⟩], ⟨[⟨"v", ⟨"int"⟩, false, some 9⟩], []⟩⟩ ∧
    Schema.applySizes ⟨"t", [⟨"v", ⟨"text"⟩, false, none⟩, ⟨"v", ⟨"int"⟩, false, none⟩,
        ⟨"w", ⟨"blob"⟩, false, some 3⟩], ⟨[⟨"v", ⟨"int"⟩, false, none⟩], []⟩⟩
        [("v", 5), ("w", -1), ("z", 2)] = .error (.sizeEstimate "w" (.negativeSize "w" (-1))) := by
  constructor
  · have hsame : SameSizes [("v", 5), ("v", 9), ("w", 1)] [("v", 5), ("w", 1), ("v", 9)] := by
      intro name
      by_cases hv : "v" = name
      · subst hv
        decide
      · simp [List.filter_cons, hv]
    obtain ⟨-, -, -, -, horder⟩ := Schema.applySizes_last
      ⟨"t", [⟨"v", ⟨"text"⟩, false, none⟩, ⟨"v", ⟨"int"⟩, false, none⟩,
        ⟨"w", ⟨"blob"⟩, false, some 3⟩], ⟨[⟨"v", ⟨"int"⟩, false, none⟩], []⟩⟩
      [("v", 5), ("w", 1), ("v", 9)]
    exact ((horder _ hsame).2 _).2 (by decide +kernel)
  · obtain ⟨-, -, herror, -, -⟩ := Schema.applySizes_last
      ⟨"t", [⟨"v", ⟨"text"⟩, false, none⟩, ⟨"v", ⟨"int"⟩, false, none⟩,
        ⟨"w", ⟨"blob"⟩, false, some 3⟩], ⟨[⟨"v", ⟨"int"⟩, false, none⟩], []⟩⟩
      [("v", 5), ("w", -1), ("z", 2)]
    rw [herror]
    refine ⟨[("v", 5)], "w", -1, [("z", 2)], _, rfl, ?_, .negativeSize rfl (by decide +kernel)
      (by decide), rfl⟩
    rw [List.forall_mem_singleton]
    exact ⟨⟨_, rfl, by decide +kernel⟩, by decide⟩

end PartitionSize
