import PartitionSize.Proofs.Statement.Sentence
import PartitionSize.Calculation
import Mathlib.Data.List.Nodup
import Mathlib.Data.List.Perm.Subperm

/-!
# The invariant of schemas

`Schema.Sound s`: every entry of the key of `s` is one of its declared columns, as a whole value,
and is not static; and no size estimate is negative. It holds of every schema that is read and
stays true under size estimates:

* **Reading**: each entry keeps it (`Sound.declare`), so all of them do (`Sound.declareAll`), and
  a schema that is read has it (`Schema.sound_of_parse`).
* **Size estimates**: one keeps it (`Sound.withSizeEstimate`), so all of them do
  (`Sound.withSizeEstimates`). Hence no size is negative (`Sound.size_nonneg`).
* **Counting** (`Sound.keySize_add_static_le`): where the key names no column twice, its entries and
  the static columns are different declared columns.
-/

namespace PartitionSize

/-- The invariant of schemas (module doc). -/
structure Schema.Sound (s : Schema) : Prop where
  key_mem : ∀ c ∈ s.primaryKey.columns, c ∈ s.columns
  key_not_static : ∀ c ∈ s.primaryKey.columns, c.isStatic = false
  estimate_nonneg : ∀ c ∈ s.columns, ∀ size ∈ c.sizeEstimate, 0 ≤ size

/-- No two entries of the key have the same name. -/
def PrimaryKey.NoRepeats (k : PrimaryKey) : Prop := (k.columns.map (·.name)).Nodup

instance (k : PrimaryKey) : Decidable k.NoRepeats := by
  unfold PrimaryKey.NoRepeats
  exact inferInstance

/-! ## Reading -/

theorem PrimaryKey.resolve_eq_ok {declared : List Column} {name : String} {c : Column}
    (h : resolve declared name = .ok c) : c ∈ declared ∧ c.isStatic = false := by
  unfold resolve at h
  split at h
  · cases h
  · next hf =>
    split at h
    · cases h
    · next hs => cases h; exact ⟨List.mem_of_find?_eq_some hf, by simpa using hs⟩

theorem PrimaryKey.mem_of_mapM_resolve {declared : List Column} {names : List String}
    {columns : List Column} (h : names.mapM (resolve declared) = .ok columns) :
    ∀ c ∈ columns, c ∈ declared ∧ c.isStatic = false := by
  induction names generalizing columns with
  | nil => cases h; simp
  | cons name names ih =>
    rw [List.mapM_cons] at h
    obtain ⟨c, hc, h⟩ := Except.exists_of_bind_eq_ok h
    obtain ⟨cs, hcs, h⟩ := Except.exists_of_bind_eq_ok h
    cases h
    intro c' hm
    rcases List.mem_cons.1 hm with rfl | hm
    · exact resolve_eq_ok hc
    · exact ih hcs c' hm

theorem Declarations.setPrimaryKey_eq_ok {d d' : Declarations} {k : PrimaryKey}
    (h : d.setPrimaryKey k = .ok d') : d' = { d with primaryKey := some k } := by
  unfold setPrimaryKey at h
  split at h
  · cases h
  · cases h; rfl

theorem Declarations.define_eq_ok {d d' : Declarations} {c : Column} {inlineKey : Bool}
    (h : d.define c inlineKey = .ok d') :
    (inlineKey = false ∧ d' = d.addColumn c) ∨
      (c.isStatic = false ∧
        d' = { columns := d.columns ++ [c], primaryKey := some { partition := [c] } }) := by
  unfold define at h
  split at h
  · split at h
    · cases h
    · next hs =>
      cases hd : d.setPrimaryKey { partition := [c] } with
      | error e => rw [hd] at h; cases h
      | ok d1 =>
        rw [hd, setPrimaryKey_eq_ok hd] at h
        cases h
        exact .inr ⟨by simpa using hs, rfl⟩
  · next hk => cases h; exact .inl ⟨by simpa using hk, rfl⟩

namespace Schema.Sound

/-- **One entry** keeps the invariant: a column comes without an estimate, and a key is made of
columns that are declared by then. -/
theorem declare {d d' : Declarations} {tableName : String} {e : Entry}
    (h : (d.toSchema tableName).Sound) (he : e.declare d = .ok d') :
    (d'.toSchema tableName).Sound := by
  cases e with
  | column name dataType inlineKey isStatic =>
    have hnew : ∀ c ∈ d.columns ++ [{ name, dataType := { name := dataType }, isStatic }],
        ∀ size ∈ c.sizeEstimate, 0 ≤ size := by
      intro c hc
      rcases List.mem_append.1 hc with hc | hc
      · exact h.estimate_nonneg c hc
      · rw [List.mem_singleton.1 hc]; simp
    rcases Declarations.define_eq_ok he with ⟨-, rfl⟩ | ⟨hs, rfl⟩
    · exact ⟨fun c hc => List.mem_append_left _ (h.key_mem c hc), h.key_not_static, hnew⟩
    · refine ⟨fun c hc => List.mem_append_right _ hc, fun c hc => ?_, hnew⟩
      rw [List.mem_singleton.1 hc]
      exact hs
  | key partition clustering =>
    obtain ⟨columns, hp, he⟩ := Except.exists_of_bind_eq_ok he
    obtain ⟨columns', hc, he⟩ := Except.exists_of_bind_eq_ok he
    rw [Declarations.setPrimaryKey_eq_ok he]
    have hk : ∀ c ∈ columns ++ columns', c ∈ d.columns ∧ c.isStatic = false := by
      intro c hm
      rcases List.mem_append.1 hm with hm | hm
      · exact PrimaryKey.mem_of_mapM_resolve hp c hm
      · exact PrimaryKey.mem_of_mapM_resolve hc c hm
    exact ⟨fun c hm => (hk c hm).1, fun c hm => (hk c hm).2, h.estimate_nonneg⟩

theorem declareAll {d d' : Declarations} {tableName : String} {entries : List Entry}
    (h : (d.toSchema tableName).Sound) (he : Entry.declareAll d entries = .ok d') :
    (d'.toSchema tableName).Sound := by
  induction entries generalizing d with
  | nil => cases he; exact h
  | cons e entries ih =>
    obtain ⟨d1, h1, he⟩ := Except.exists_of_bind_eq_ok he
    exact ih (h.declare h1) he

end Schema.Sound

theorem Schema.sound_of_parse {text : String} {s : Schema} (h : Schema.parse text = .ok s) :
    s.Sound := by
  obtain ⟨o, rest, d, -, hd, rfl⟩ := Schema.exists_declareAll h
  exact Schema.Sound.declareAll ⟨by simp [Declarations.toSchema, PrimaryKey.columns],
    by simp [Declarations.toSchema, PrimaryKey.columns], by simp [Declarations.toSchema]⟩ hd

/-! ## Size estimates -/

theorem Column.isStatic_estimated (name : String) (size : Int) (c : Column) :
    (c.estimated name size).isStatic = c.isStatic := by
  unfold estimated
  split <;> rfl

theorem Schema.columns_primaryKey_mapColumns (f : Column → Column) (s : Schema) :
    (s.mapColumns f).primaryKey.columns = s.primaryKey.columns.map f := by
  simp [mapColumns, PrimaryKey.columns]

theorem Schema.withSizeEstimate_eq_ok {s s' : Schema} {name : String} {size : Int}
    (h : s.withSizeEstimate name size = .ok s') :
    0 ≤ size ∧ s' = s.mapColumns (Column.estimated name size) := by
  unfold withSizeEstimate at h
  split at h
  · cases h
  · next he =>
    cases h
    refine ⟨?_, rfl⟩
    unfold sizeEstimateError? at he
    split at he
    · cases he
    · split at he
      · cases he
      · split at he
        · cases he
        · omega

namespace Schema.Sound

/-- **One size estimate** keeps the invariant: it changes equal columns alike. -/
theorem withSizeEstimate {s s' : Schema} {name : String} {size : Int} (h : s.Sound)
    (he : s.withSizeEstimate name size = .ok s') : s'.Sound := by
  obtain ⟨hsize, rfl⟩ := Schema.withSizeEstimate_eq_ok he
  refine ⟨?_, ?_, ?_⟩
  · rw [columns_primaryKey_mapColumns]
    intro c hc
    obtain ⟨c, hm, rfl⟩ := List.mem_map.1 hc
    exact List.mem_map_of_mem (h.key_mem c hm)
  · rw [columns_primaryKey_mapColumns]
    intro c hc
    obtain ⟨c, hm, rfl⟩ := List.mem_map.1 hc
    rw [Column.isStatic_estimated]
    exact h.key_not_static c hm
  · intro c hc
    obtain ⟨c, hm, rfl⟩ := List.mem_map.1 hc
    unfold Column.estimated
    split
    · rintro _ ⟨⟩; exact hsize
    · exact h.estimate_nonneg c hm

theorem withSizeEstimates {s s' : Schema} {sizes : List (String × Int)} (h : s.Sound)
    (he : s.withSizeEstimates sizes = .ok s') : s'.Sound := by
  induction sizes generalizing s with
  | nil => cases he; exact h
  | cons entry sizes ih =>
    unfold Schema.withSizeEstimates at he
    split at he
    · cases he
    · next h1 => exact ih (h.withSizeEstimate h1) he

end Schema.Sound

/-! ## Sizes -/

theorem DataType.fixedWidth?_nonneg {t : DataType} {width : Int}
    (h : t.fixedWidth? = some width) : 0 ≤ width := by
  obtain ⟨before, behind, heq, -⟩ := List.lookup_eq_some_iff.1 h
  have hm : (t.name.toLower, width) ∈ fixedWidths := by rw [heq]; simp
  have hall : ∀ p ∈ fixedWidths, 0 ≤ p.2 := by decide
  exact hall _ hm

namespace Schema.Sound

variable {s : Schema} (h : s.Sound)
include h

theorem size_nonneg {c : Column} (hc : c ∈ s.columns) : 0 ≤ c.size := by
  unfold Column.size
  split
  · next hw => exact DataType.fixedWidth?_nonneg hw
  · cases he : c.sizeEstimate with
    | none => simp
    | some size => exact h.estimate_nonneg c hc size he

theorem partition_nonneg : ∀ c ∈ s.primaryKey.partition, 0 ≤ c.size :=
  fun _ hc => h.size_nonneg (h.key_mem _ (List.mem_append_left _ hc))

theorem clustering_nonneg : ∀ c ∈ s.primaryKey.clustering, 0 ≤ c.size :=
  fun _ hc => h.size_nonneg (h.key_mem _ (List.mem_append_right _ hc))

theorem nonKey_nonneg : ∀ c ∈ s.nonKeyColumns, 0 ≤ c.size :=
  fun _ hc => h.size_nonneg (List.mem_of_mem_filter hc)

/-! ## Counting -/

theorem keySize_add_static_le (hk : s.primaryKey.NoRepeats) :
    s.primaryKey.size + s.staticColumns.length ≤ s.columns.length := by
  have hsub : s.primaryKey.columns ⊆ s.columns.filter fun c => !c.isStatic := by
    intro c hc
    rw [List.mem_filter, h.key_not_static c hc]
    exact ⟨h.key_mem c hc, rfl⟩
  have hle := (List.subperm_of_subset (List.Nodup.of_map _ hk) hsub).length_le
  rw [PrimaryKey.length_columns] at hle
  have hsplit := List.length_eq_length_filter_add (l := s.columns) (·.isStatic)
  unfold Schema.staticColumns
  omega

end Schema.Sound

end PartitionSize
