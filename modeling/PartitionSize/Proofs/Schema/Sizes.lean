import PartitionSize.Proofs.Schema.Bare
import PartitionSize.Proofs.Settings.Sorted

/-!
# Several size estimates

Sizes are given one after the other, each to a schema that the ones before it have changed. What
comes out depends on the schema at the start and on the list alone:

* **Refusals** (`Schema.refusal?`): whether a name can take a size is a matter of its first declared
  column, which no size changes (`refusal?_eq_of_bare_eq`). An entry fails for that, or for a size
  below zero (`sizeEstimateError?_eq`). So the first entry of the list that fails on the schema at
  the start (`Schema.firstSizeError?`) is the error, whatever comes behind it.
* **Last wins** (`Schema.withSizeEstimates_eq`): else each column carries the last size for its
  name (`lastSize?`), and keeps its estimate where there is none.
* **Fixed widths** (`Schema.fixedSize_of_withSizeEstimates`): the first column of a name decides for
  all of them, so a column of a fixed width takes the size that is meant for another of its name.
-/

namespace PartitionSize

/-! ## Refusals -/

/-- Why the columns of a name can take no size, whatever the size is. -/
def Schema.refusal? (s : Schema) (name : String) : Option SizeEstimateError :=
  match s.column? name with
  | none => some (.unknownColumn name)
  | some c =>
    if c.dataType.isFixedSize then some (.fixedSizeColumn name c.dataType.name) else none

/-- The first entry whose name can take no size, and why. -/
def Schema.firstRefusal? (s : Schema) (sizes : List (String × Int)) :
    Option (String × SizeEstimateError) :=
  sizes.findSome? fun entry => (s.refusal? entry.1).map fun cause => (entry.1, cause)

namespace Schema

/-- **One size** is refused for its name, or else fails for being negative. -/
theorem sizeEstimateError?_eq (s : Schema) (name : String) (size : Int) :
    s.sizeEstimateError? name size =
      (s.refusal? name).or (if size < 0 then some (.negativeSize name size) else none) := by
  unfold sizeEstimateError? refusal?
  cases s.column? name with
  | none => rfl
  | some c => cases hc : c.dataType.isFixedSize <;> simp [hc]

/-- A name can take a size unless no column has it, or the first one that does is of a fixed
width. -/
theorem isSome_refusal?_iff (s : Schema) (name : String) :
    (s.refusal? name).isSome = true ↔
      ∀ c, s.column? name = some c → c.dataType.isFixedSize = true := by
  unfold refusal?
  cases s.column? name with
  | none => simp
  | some c => cases hc : c.dataType.isFixedSize <;> simp [hc]

theorem refusal?_eq_none_iff (s : Schema) (name : String) :
    s.refusal? name = none ↔ ∃ c, s.column? name = some c ∧ c.dataType.isFixedSize = false := by
  unfold refusal?
  cases s.column? name with
  | none => simp
  | some c => cases hc : c.dataType.isFixedSize <;> simp [hc]

theorem isSome_firstRefusal?_iff (s : Schema) (sizes : List (String × Int)) :
    (s.firstRefusal? sizes).isSome = true ↔
      ∃ entry ∈ sizes, ∀ c, s.column? entry.1 = some c → c.dataType.isFixedSize = true := by
  unfold firstRefusal?
  rw [List.findSome?_isSome_iff]
  simp only [Option.isSome_map, isSome_refusal?_iff]

theorem column?_bare (s : Schema) (name : String) :
    s.bare.column? name = (s.column? name).map Column.bare := by
  unfold column? bare mapColumns
  rw [List.find?_map]
  rfl

theorem refusal?_bare (s : Schema) : s.bare.refusal? = s.refusal? := by
  funext name
  unfold refusal?
  rw [column?_bare]
  cases s.column? name <;> rfl

theorem refusal?_eq_of_bare_eq {s s' : Schema} (h : s.bare = s'.bare) :
    s.refusal? = s'.refusal? := by
  rw [← refusal?_bare, h, refusal?_bare]

/-- The first entry that fails, and why. -/
def firstSizeError? (s : Schema) (sizes : List (String × Int)) :
    Option (String × SizeEstimateError) :=
  sizes.findSome? fun entry =>
    (s.sizeEstimateError? entry.1 entry.2).map fun cause => (entry.1, cause)

theorem firstSizeError?_eq_of_bare_eq {s s' : Schema} (h : s.bare = s'.bare) :
    s.firstSizeError? = s'.firstSizeError? := by
  funext sizes
  unfold firstSizeError?
  simp only [sizeEstimateError?_eq, refusal?_eq_of_bare_eq h]

/-- Sizes that are not negative fail for their names only. -/
theorem firstSizeError?_eq_firstRefusal? (s : Schema) {sizes : List (String × Int)}
    (h : ∀ entry ∈ sizes, 0 ≤ entry.2) : s.firstSizeError? sizes = s.firstRefusal? sizes := by
  induction sizes with
  | nil => rfl
  | cons entry sizes ih =>
    rw [List.forall_mem_cons] at h
    have ih := ih h.2
    unfold firstSizeError? firstRefusal? at ih ⊢
    rw [List.findSome?_cons, List.findSome?_cons, ih, sizeEstimateError?_eq,
      if_neg (Int.not_lt.2 h.1), Option.or_none]

end Schema

/-! ## Last wins -/

/-- The last size that a list gives to the columns of a name. -/
def lastSize? (sizes : List (String × Int)) (name : String) : Option Int :=
  sizes.reverse.lookup name

theorem lastSize?_cons (name : String) (size : Int) (sizes : List (String × Int)) (k : String) :
    lastSize? ((name, size) :: sizes) k =
      (lastSize? sizes k).or (if k = name then some size else none) :=
  lookup_reverse_cons k (name, size) sizes

/-- The column with the size for its name, if there is one. -/
def Column.resized (size? : String → Option Int) (c : Column) : Column :=
  { c with sizeEstimate := (size? c.name).or c.sizeEstimate }

/-- The column with the size for its name, and with no estimate if there is none. -/
def Column.sized (size? : String → Option Int) (c : Column) : Column :=
  { c with sizeEstimate := size? c.name }

namespace Column

/-- Of a size and those behind it, those behind it count first. -/
theorem resized_comp_estimated (name : String) (size : Int) (sizes : List (String × Int)) :
    resized (lastSize? sizes) ∘ estimated name size =
      resized (lastSize? ((name, size) :: sizes)) := by
  funext c
  by_cases hn : c.name = name
  · simp [resized, estimated, lastSize?_cons, hn]
  · simp [resized, estimated, lastSize?_cons, hn]

theorem resized_comp_bare (size? : String → Option Int) :
    resized size? ∘ bare = sized size? := by
  funext c
  simp [resized, sized, bare]

end Column

/-- **Several sizes**: the error of the first entry that fails, or for each column the last size of
its name. -/
theorem Schema.withSizeEstimates_eq (s : Schema) (sizes : List (String × Int)) :
    s.withSizeEstimates sizes = match s.firstSizeError? sizes with
      | some e => .error e
      | none => .ok (s.mapColumns (Column.resized (lastSize? sizes))) := by
  induction sizes generalizing s with
  | nil => exact congrArg Except.ok (mapColumns_id s).symm
  | cons entry sizes ih =>
    obtain ⟨name, size⟩ := entry
    unfold withSizeEstimates firstSizeError?
    rw [List.findSome?_cons]
    cases he : s.sizeEstimateError? name size with
    | some cause =>
      unfold withSizeEstimate
      rw [he]
      rfl
    | none =>
      have h1 : s.withSizeEstimate name size = .ok (s.mapColumns (Column.estimated name size)) := by
        unfold withSizeEstimate
        rw [he]
      rw [h1]
      dsimp only
      -- the entries behind it fail as they did before it
      rw [ih, firstSizeError?_eq_of_bare_eq (bare_withSizeEstimate h1), mapColumns_mapColumns,
        Column.resized_comp_estimated]
      rfl

theorem Schema.withSizeEstimates_eq_ok_iff {s s' : Schema} {sizes : List (String × Int)} :
    s.withSizeEstimates sizes = .ok s' ↔
      s.firstSizeError? sizes = none ∧ s' = s.mapColumns (Column.resized (lastSize? sizes)) := by
  rw [withSizeEstimates_eq]
  cases s.firstSizeError? sizes with
  | some e => simp
  | none => simp [eq_comm]

theorem Schema.withSizeEstimates_append_singleton_iff {s s' : Schema}
    {sizes : List (String × Int)} {name : String} {size : Int} :
    s.withSizeEstimates (sizes ++ [(name, size)]) = .ok s' ↔
      ∃ s1, s.withSizeEstimates sizes = .ok s1 ∧ s1.withSizeEstimate name size = .ok s' := by
  induction sizes generalizing s with
  | nil =>
    rw [List.nil_append]
    unfold withSizeEstimates
    cases hn : s.withSizeEstimate name size <;> simp [withSizeEstimates, hn]
  | cons entry sizes ih =>
    rw [List.cons_append]
    unfold withSizeEstimates
    cases s.withSizeEstimate entry.1 entry.2 with
    | error e => simp
    | ok s => exact ih

/-- Where one size is taken, so is any other that is not negative. -/
theorem Schema.withSizeEstimate_of_nonneg {s s' : Schema} {name : String} {size size' : Int}
    (h : s.withSizeEstimate name size' = .ok s') (h0 : 0 ≤ size) :
    s.withSizeEstimate name size = .ok (s.mapColumns (Column.estimated name size)) := by
  have he : s.sizeEstimateError? name size = none := by
    unfold withSizeEstimate at h
    split at h
    · cases h
    · next he =>
      rw [sizeEstimateError?_eq, Option.or_eq_none_iff] at he ⊢
      exact ⟨he.1, if_neg (Int.not_lt.2 h0)⟩
  unfold withSizeEstimate
  rw [he]

/-- A schema without estimates carries those of the list and no other. -/
theorem Schema.mapColumns_resized_of_bare {s : Schema} (hs : s.bare = s)
    (size? : String → Option Int) :
    s.mapColumns (Column.resized size?) = s.mapColumns (Column.sized size?) := by
  conv => lhs; rw [← hs, bare, mapColumns_mapColumns, Column.resized_comp_bare]

theorem Schema.withSizeEstimates_of_bare {s : Schema} {sizes : List (String × Int)}
    (hs : s.bare = s) (h : ∀ entry ∈ sizes, 0 ≤ entry.2) :
    s.withSizeEstimates sizes = match s.firstRefusal? sizes with
      | some e => .error e
      | none => .ok (s.mapColumns (Column.sized (lastSize? sizes))) := by
  rw [withSizeEstimates_eq, firstSizeError?_eq_firstRefusal? s h, mapColumns_resized_of_bare hs]

/-! ## Columns of a fixed width -/

theorem lastSize?_eq_none_iff (sizes : List (String × Int)) (name : String) :
    lastSize? sizes name = none ↔ name ∉ sizes.map (·.1) := by
  induction sizes with
  | nil => simp [lastSize?]
  | cons entry sizes ih =>
    rw [lastSize?_cons, Option.or_eq_none_iff, ih, List.map_cons, List.mem_cons, not_or, and_comm]
    by_cases hn : name = entry.1 <;> simp [hn]

/-- Sizes of a schema that was read: its columns carry those of the list and no other. -/
theorem Schema.eq_mapColumns_sized {text : String} {sizes : List (String × Int)} {parsed s : Schema}
    (hp : Schema.parse text = .ok parsed) (hs : parsed.withSizeEstimates sizes = .ok s) :
    s = parsed.mapColumns (Column.sized (lastSize? sizes)) := by
  rw [(withSizeEstimates_eq_ok_iff.1 hs).2,
    mapColumns_resized_of_bare (Schema.fresh_of_parse hp).bare_eq]

/-- A name that is given a size starts with a column of variable size. -/
theorem Schema.exists_column?_of_mem {s : Schema} {sizes : List (String × Int)} {name : String}
    (h : s.firstSizeError? sizes = none) (hm : name ∈ sizes.map (·.1)) :
    ∃ c, s.column? name = some c ∧ c.dataType.isFixedSize = false := by
  obtain ⟨entry, hentry, rfl⟩ := List.mem_map.1 hm
  have he := List.findSome?_eq_none_iff.1 h entry hentry
  rw [Option.map_eq_none_iff, sizeEstimateError?_eq, Option.or_eq_none_iff] at he
  exact (refusal?_eq_none_iff s entry.1).1 he.1

/-- Where every name is declared once, the first column of a name is the only one. -/
theorem Schema.column?_of_nodup {s : Schema} (hn : (s.columns.map (·.name)).Nodup) {c : Column}
    (hc : c ∈ s.columns) : s.column? c.name = some c := by
  unfold column?
  cases hf : s.columns.find? (·.name == c.name) with
  | none => simpa using List.find?_eq_none.1 hf c hc
  | some first =>
    have hname : first.name = c.name := by simpa using List.find?_some hf
    rw [List.inj_on_of_nodup_map hn (List.mem_of_find?_eq_some hf) hc hname]

/-- **Columns of a fixed width with an estimate.** After any sizes for the columns of a statement,
no column of a fixed width carries an estimate exactly when no size is for the name of one. A column
of a fixed width that does carry one shares its name with a column of variable size, declared before
it; so there is none where every name is declared once. -/
theorem Schema.fixedSize_of_withSizeEstimates {text : String} {sizes : List (String × Int)}
    {parsed s : Schema} (hp : Schema.parse text = .ok parsed)
    (hs : parsed.withSizeEstimates sizes = .ok s) :
    ((∀ c ∈ s.columns ++ (s.primaryKey.partition ++ s.primaryKey.clustering),
        c.dataType.isFixedSize = true → c.sizeEstimate = none) ↔
      ∀ c ∈ parsed.columns, c.dataType.isFixedSize = true → c.name ∉ sizes.map (·.1)) ∧
    (∀ c ∈ s.columns ++ (s.primaryKey.partition ++ s.primaryKey.clustering),
      c.dataType.isFixedSize = true → c.sizeEstimate ≠ none →
        ∃ first, parsed.column? c.name = some first ∧ first.dataType.isFixedSize = false) ∧
    ((parsed.columns.map (·.name)).Nodup →
      ∀ c ∈ s.columns ++ (s.primaryKey.partition ++ s.primaryKey.clustering),
        c.dataType.isFixedSize = true → c.sizeEstimate = none) := by
  have hsized := eq_mapColumns_sized hp hs
  have hnone := (withSizeEstimates_eq_ok_iff.1 hs).1
  have hsound := (Schema.sound_of_parse hp).withSizeEstimates hs
  -- the key holds copies, so every column of the three lists comes from a declared one
  have hfrom : ∀ c ∈ s.columns ++ (s.primaryKey.partition ++ s.primaryKey.clustering),
      ∃ c0 ∈ parsed.columns, c0.sized (lastSize? sizes) = c := by
    intro c hc
    have hm : c ∈ s.columns := by
      rcases List.mem_append.1 hc with hc | hc
      · exact hc
      · exact hsound.key_mem c hc
    rw [hsized] at hm
    exact List.mem_map.1 hm
  have hfirst : ∀ c ∈ parsed.columns, (c.sized (lastSize? sizes)).sizeEstimate ≠ none →
      ∃ first, parsed.column? c.name = some first ∧ first.dataType.isFixedSize = false := by
    intro c _ he
    refine exists_column?_of_mem hnone (Classical.not_not.1 fun hm => he ?_)
    exact (lastSize?_eq_none_iff sizes c.name).2 hm
  refine ⟨⟨fun h c hc hf => ?_, fun h c hc hf => ?_⟩, fun c hc _ he => ?_, fun hn c hc hf => ?_⟩
  · rw [← lastSize?_eq_none_iff]
    refine h (c.sized (lastSize? sizes)) (List.mem_append_left _ ?_) hf
    rw [hsized]
    exact List.mem_map_of_mem hc
  · obtain ⟨c0, hc0, rfl⟩ := hfrom c hc
    exact (lastSize?_eq_none_iff sizes c0.name).2 (h c0 hc0 hf)
  · obtain ⟨c0, hc0, rfl⟩ := hfrom c hc
    exact hfirst c0 hc0 he
  · obtain ⟨c0, hc0, rfl⟩ := hfrom c hc
    refine Classical.byContradiction fun he => ?_
    obtain ⟨first, hcol, hvar⟩ := hfirst c0 hc0 he
    rw [column?_of_nodup hn hc0] at hcol
    cases hcol
    exact absurd (hvar.symm.trans hf) Bool.false_ne_true

/-- A size for `v` reaches no column of a fixed width where `w` has one. -/
theorem Schema.fixedSize_of_other_name :
    Schema.parse "CREATE TABLE t(w text, w int, v blob, PRIMARY KEY (w));" =
        .ok ⟨"t", [⟨"w", ⟨"text"⟩, false, none⟩, ⟨"w", ⟨"int"⟩, false, none⟩,
          ⟨"v", ⟨"blob"⟩, false, none⟩], ⟨[⟨"w", ⟨"text"⟩, false, none⟩], []⟩⟩ ∧
      ∃ s : Schema, s.columns = [⟨"w", ⟨"text"⟩, false, none⟩, ⟨"w", ⟨"int"⟩, false, none⟩,
          ⟨"v", ⟨"blob"⟩, false, some 7⟩] ∧
        ∀ c ∈ s.columns ++ (s.primaryKey.partition ++ s.primaryKey.clustering),
          c.dataType.isFixedSize = true → c.sizeEstimate = none := by
  have hp : Schema.parse "CREATE TABLE t(w text, w int, v blob, PRIMARY KEY (w));" =
      .ok ⟨"t", [⟨"w", ⟨"text"⟩, false, none⟩, ⟨"w", ⟨"int"⟩, false, none⟩,
        ⟨"v", ⟨"blob"⟩, false, none⟩], ⟨[⟨"w", ⟨"text"⟩, false, none⟩], []⟩⟩ := by decide +kernel
  have hs : Schema.withSizeEstimates ⟨"t", [⟨"w", ⟨"text"⟩, false, none⟩,
        ⟨"w", ⟨"int"⟩, false, none⟩, ⟨"v", ⟨"blob"⟩, false, none⟩],
        ⟨[⟨"w", ⟨"text"⟩, false, none⟩], []⟩⟩ [("v", 7)] =
      .ok ⟨"t", [⟨"w", ⟨"text"⟩, false, none⟩, ⟨"w", ⟨"int"⟩, false, none⟩,
        ⟨"v", ⟨"blob"⟩, false, some 7⟩], ⟨[⟨"w", ⟨"text"⟩, false, none⟩], []⟩⟩ := by
    decide +kernel
  exact ⟨hp, _, rfl, (Schema.fixedSize_of_withSizeEstimates hp hs).1.2 (by decide +kernel)⟩

/-- A size for `a` reaches both columns of that name, though one is an `int`, and the copy of that
one in the key. -/
theorem Schema.not_forall_fixedSize_without_estimate :
    ¬ ∀ (text : String) (sizes : List (String × Int)) (parsed s : Schema),
      Schema.parse text = .ok parsed → parsed.withSizeEstimates sizes = .ok s →
      ∀ c ∈ s.columns ++ (s.primaryKey.partition ++ s.primaryKey.clustering),
        c.dataType.isFixedSize = true → c.sizeEstimate = none := by
  intro hall
  have hp : Schema.parse "CREATE TABLE t(a text, a int PRIMARY KEY);" =
      .ok ⟨"t", [⟨"a", ⟨"text"⟩, false, none⟩, ⟨"a", ⟨"int"⟩, false, none⟩],
        ⟨[⟨"a", ⟨"int"⟩, false, none⟩], []⟩⟩ := by decide +kernel
  have hs : Schema.withSizeEstimates ⟨"t", [⟨"a", ⟨"text"⟩, false, none⟩,
        ⟨"a", ⟨"int"⟩, false, none⟩], ⟨[⟨"a", ⟨"int"⟩, false, none⟩], []⟩⟩ [("a", 5)] =
      .ok ⟨"t", [⟨"a", ⟨"text"⟩, false, some 5⟩, ⟨"a", ⟨"int"⟩, false, some 5⟩],
        ⟨[⟨"a", ⟨"int"⟩, false, some 5⟩], []⟩⟩ := by decide +kernel
  have h := hall _ _ _ _ hp hs ⟨"a", ⟨"int"⟩, false, some 5⟩ (by simp) (by decide +kernel)
  cases h

end PartitionSize
