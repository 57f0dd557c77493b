import PartitionSize.Proofs.Schema.Sound

/-!
# What size estimates leave of a schema

`Schema.bare s` is `s` without its size estimates: the table, the names, types and static flags of
all columns, and the length and order of the three lists.

* **Reading** (`Schema.fresh_of_parse`): a schema that is read is bare, has a column, and has no
  clustering column without a partition column. Each entry keeps what this rests on
  (`Fresh.declare`), so all of them do (`Fresh.declareAll`); that a clause names a partition column
  is a matter of the grammar (`Grammar.Sentence.hasPartition`).
* **Size estimates** (`Schema.bare_withSizeEstimates`): they change nothing else, so all of this
  stays true, and what was read is what is left without them.
* **Together** with `Schema.Sound`, the invariant of every schema that is ever built
  (`invariant_of_withSizeEstimates`).
-/

namespace PartitionSize

/-! ## Entries of a sentence -/

/-- A key clause has a partition part. -/
def Entry.HasPartition : Entry → Prop
  | .column .. => True
  | .key partition _ => partition ≠ []

namespace Grammar

theorem Partition.ne_nil {ts rest : List Token} {names : List String}
    (h : Partition ts names rest) : names ≠ [] := by
  cases h <;> simp

theorem EntryText.hasPartition {ts rest : List Token} {e : Entry} (h : EntryText ts e rest) :
    e.HasPartition := by
  cases h with
  | key _ hc =>
    cases hc with
    | mk hp _ => exact hp.ne_nil
  | column => trivial

theorem Entries.hasPartition {ts rest : List Token} {es : List Entry} (h : Entries ts es rest) :
    es ≠ [] ∧ ∀ e ∈ es, e.HasPartition := by
  induction h with
  | last he _ => exact ⟨by simp, by simpa using he.hasPartition⟩
  | cons he _ ih => exact ⟨by simp, List.forall_mem_cons.2 ⟨he.hasPartition, ih.2⟩⟩

theorem Sentence.hasPartition {ts rest : List Token} {o : Outline} (h : Sentence ts o rest) :
    o.entries ≠ [] ∧ ∀ e ∈ o.entries, e.HasPartition := by
  cases h with
  | mk _ _ _ hes => exact hes.hasPartition

end Grammar

/-! ## Reading -/

/-- Declarations as entries leave them. -/
structure Declarations.Fresh (d : Declarations) : Prop where
  noEstimate : ∀ c ∈ d.columns, c.sizeEstimate = none
  partition_ne_nil : ∀ k ∈ d.primaryKey, k.partition ≠ []

theorem PrimaryKey.ne_nil_of_mapM_resolve {declared columns : List Column} {names : List String}
    (h : names.mapM (resolve declared) = .ok columns) (hn : names ≠ []) : columns ≠ [] := by
  cases names with
  | nil => exact absurd rfl hn
  | cons name names =>
    rw [List.mapM_cons] at h
    obtain ⟨c, -, h⟩ := Except.exists_of_bind_eq_ok h
    obtain ⟨cs, -, h⟩ := Except.exists_of_bind_eq_ok h
    cases h
    simp

namespace Declarations.Fresh

/-- **One entry**: a column is added, or there is one already that a key names. -/
theorem declare {d d' : Declarations} {e : Entry} (h : d.Fresh) (hp : e.HasPartition)
    (he : e.declare d = .ok d') : d'.Fresh ∧ d'.columns ≠ [] := by
  cases e with
  | column name dataType inlineKey isStatic =>
    have hnew : ∀ c ∈ d.columns ++ [{ name, dataType := { name := dataType }, isStatic }],
        c.sizeEstimate = none := by
      intro c hc
      rcases List.mem_append.1 hc with hc | hc
      · exact h.noEstimate c hc
      · rw [List.mem_singleton.1 hc]
    rcases Declarations.define_eq_ok he with ⟨-, rfl⟩ | ⟨-, rfl⟩
    · exact ⟨⟨hnew, h.partition_ne_nil⟩, by simp [addColumn]⟩
    · refine ⟨⟨hnew, fun k hk => ?_⟩, by simp⟩
      cases hk
      simp
  | key partition clustering =>
    obtain ⟨columns, hc, he⟩ := Except.exists_of_bind_eq_ok he
    obtain ⟨columns', -, he⟩ := Except.exists_of_bind_eq_ok he
    rw [Declarations.setPrimaryKey_eq_ok he]
    have hne : columns ≠ [] := PrimaryKey.ne_nil_of_mapM_resolve hc hp
    refine ⟨⟨h.noEstimate, fun k hk => by cases hk; exact hne⟩, ?_⟩
    -- a clause adds no column, but the ones it names are declared
    obtain ⟨c, hm⟩ := List.exists_mem_of_ne_nil columns hne
    exact List.ne_nil_of_mem (PrimaryKey.mem_of_mapM_resolve hc c hm).1

theorem declareAll {d d' : Declarations} {entries : List Entry} (h : d.Fresh)
    (hp : ∀ e ∈ entries, e.HasPartition) (he : Entry.declareAll d entries = .ok d') :
    d'.Fresh ∧ (d.columns ≠ [] ∨ entries ≠ [] → d'.columns ≠ []) := by
  induction entries generalizing d with
  | nil => cases he; exact ⟨h, by simp⟩
  | cons e entries ih =>
    rw [List.forall_mem_cons] at hp
    obtain ⟨d1, h1, he⟩ := Except.exists_of_bind_eq_ok he
    obtain ⟨hd1, hne⟩ := h.declare hp.1 h1
    obtain ⟨hd', hcols⟩ := ih hd1 hp.2 he
    exact ⟨hd', fun _ => hcols (.inl hne)⟩

end Declarations.Fresh

/-- The column without its size estimate. -/
def Column.bare (c : Column) : Column := { c with sizeEstimate := none }

/-- The schema without its size estimates. -/
def Schema.bare (s : Schema) : Schema := s.mapColumns Column.bare

/-- A schema as it is read. -/
structure Schema.Fresh (s : Schema) : Prop where
  bare_eq : s.bare = s
  columns_ne_nil : s.columns ≠ []
  clustering_eq_nil : s.primaryKey.partition = [] → s.primaryKey.clustering = []

theorem Column.bare_eq {c : Column} (h : c.sizeEstimate = none) : c.bare = c := by
  unfold bare
  rw [← h]

theorem Schema.bare_eq_of_forall {s : Schema} (h : ∀ c ∈ s.columns, c.sizeEstimate = none)
    (hk : ∀ c ∈ s.primaryKey.columns, c ∈ s.columns) : s.bare = s := by
  have hmap : ∀ columns : List Column, (∀ c ∈ columns, c ∈ s.columns) →
      columns.map Column.bare = columns := by
    intro columns hc
    calc columns.map Column.bare = columns.map id :=
          List.map_congr_left fun c hm => Column.bare_eq (h c (hc c hm))
      _ = columns := List.map_id columns
  unfold bare mapColumns
  rw [hmap _ fun _ hc => hc, hmap _ fun _ hc => hk _ (List.mem_append_left _ hc),
    hmap _ fun _ hc => hk _ (List.mem_append_right _ hc)]

theorem Schema.fresh_of_parse {text : String} {s : Schema} (h : Schema.parse text = .ok s) :
    s.Fresh := by
  have hs := Schema.sound_of_parse h
  obtain ⟨o, rest, d, ho, hd, rfl⟩ := Schema.exists_declareAll h
  obtain ⟨hne, hp⟩ := ho.hasPartition
  obtain ⟨hfresh, hcols⟩ := Declarations.Fresh.declareAll ⟨by simp, by simp⟩ hp hd
  refine ⟨bare_eq_of_forall hfresh.noEstimate hs.key_mem, hcols (.inr hne), ?_⟩
  unfold Declarations.toSchema
  cases hk : d.primaryKey with
  | none => exact fun _ => rfl
  | some k => exact fun h0 => absurd h0 (hfresh.partition_ne_nil k hk)

/-! ## Size estimates -/

@[simp] theorem Column.bare_estimated (name : String) (size : Int) (c : Column) :
    (c.estimated name size).bare = c.bare := by
  unfold estimated
  split <;> rfl

/-- **One size estimate** changes nothing else. -/
theorem Schema.bare_withSizeEstimate {s s' : Schema} {name : String} {size : Int}
    (h : s.withSizeEstimate name size = .ok s') : s'.bare = s.bare := by
  obtain ⟨-, rfl⟩ := Schema.withSizeEstimate_eq_ok h
  have hf : Column.bare ∘ Column.estimated name size = Column.bare :=
    funext (Column.bare_estimated name size)
  unfold bare
  rw [mapColumns_mapColumns, hf]

theorem Schema.bare_withSizeEstimates {s s' : Schema} {sizes : List (String × Int)}
    (h : s.withSizeEstimates sizes = .ok s') : s'.bare = s.bare := by
  induction sizes generalizing s with
  | nil => cases h; rfl
  | cons entry sizes ih =>
    unfold withSizeEstimates at h
    split at h
    · cases h
    · next h1 => rw [ih h, bare_withSizeEstimate h1]

/-- What is left without sizes is what was read. -/
theorem Schema.bare_eq_parsed {text : String} {sizes : List (String × Int)} {parsed s : Schema}
    (hp : Schema.parse text = .ok parsed) (hs : parsed.withSizeEstimates sizes = .ok s) :
    s.bare = parsed := by
  rw [bare_withSizeEstimates hs, (Schema.fresh_of_parse hp).bare_eq]

/-! ## The invariant -/

/-- **The invariant of schemas**: however often columns of a schema that was read are given sizes,
it has columns; every entry of its key is one of them, as a whole value, and not static; there is no
clustering column without a partition column; no size is negative; and without its size estimates
it is the schema that was read. -/
theorem Schema.invariant_of_withSizeEstimates {text : String} {sizes : List (String × Int)}
    {parsed s : Schema} (hp : Schema.parse text = .ok parsed)
    (hs : parsed.withSizeEstimates sizes = .ok s) :
    s.columns ≠ [] ∧
      (∀ c ∈ s.primaryKey.partition ++ s.primaryKey.clustering,
        c ∈ s.columns ∧ c.isStatic = false) ∧
      (s.primaryKey.partition = [] → s.primaryKey.clustering = []) ∧
      (∀ c ∈ s.columns ++ (s.primaryKey.partition ++ s.primaryKey.clustering),
        (∀ size ∈ c.sizeEstimate, 0 ≤ size) ∧ 0 ≤ c.size) ∧
      s.bare = parsed := by
  have hfresh := Schema.fresh_of_parse hp
  have hsound := (Schema.sound_of_parse hp).withSizeEstimates hs
  have hbare : s.bare = parsed := by rw [bare_withSizeEstimates hs, hfresh.bare_eq]
  subst hbare
  refine ⟨?_, fun c hc => ⟨hsound.key_mem c hc, hsound.key_not_static c hc⟩, ?_, ?_, rfl⟩
  · exact fun h0 => hfresh.columns_ne_nil (by simp [bare, mapColumns, h0])
  · intro h0
    have := hfresh.clustering_eq_nil (by simp [bare, mapColumns, h0])
    simpa [bare, mapColumns] using this
  · have hmem : ∀ c ∈ s.columns ++ (s.primaryKey.partition ++ s.primaryKey.clustering),
        c ∈ s.columns := by
      intro c hc
      rcases List.mem_append.1 hc with hc | hc
      · exact hc
      · exact hsound.key_mem c hc
    exact fun c hc => ⟨hsound.estimate_nonneg c (hmem c hc), hsound.size_nonneg (hmem c hc)⟩

/-- Two columns of one name: a size is given to both, and to the copy of the first in the key. -/
theorem Schema.invariant_of_repeated_name :
    Schema.parse "CREATE TABLE t(k text PRIMARY KEY, k blob, s text STATIC);" =
        .ok ⟨"t", [⟨"k", ⟨"text"⟩, false, none⟩, ⟨"k", ⟨"blob"⟩, false, none⟩,
          ⟨"s", ⟨"text"⟩, true, none⟩], ⟨[⟨"k", ⟨"text"⟩, false, none⟩], []⟩⟩ ∧
      ∃ s : Schema, s.primaryKey = ⟨[⟨"k", ⟨"text"⟩, false, some 9⟩], []⟩ ∧
        (∀ c ∈ s.primaryKey.partition ++ s.primaryKey.clustering,
          c ∈ s.columns ∧ c.isStatic = false) ∧
        s.bare = ⟨"t", [⟨"k", ⟨"text"⟩, false, none⟩, ⟨"k", ⟨"blob"⟩, false, none⟩,
          ⟨"s", ⟨"text"⟩, true, none⟩], ⟨[⟨"k", ⟨"text"⟩, false, none⟩], []⟩⟩ := by
  have hp : Schema.parse "CREATE TABLE t(k text PRIMARY KEY, k blob, s text STATIC);" =
      .ok ⟨"t", [⟨"k", ⟨"text"⟩, false, none⟩, ⟨"k", ⟨"blob"⟩, false, none⟩,
        ⟨"s", ⟨"text"⟩, true, none⟩], ⟨[⟨"k", ⟨"text"⟩, false, none⟩], []⟩⟩ := by decide +kernel
  have hs : Schema.withSizeEstimates ⟨"t", [⟨"k", ⟨"text"⟩, false, none⟩,
        ⟨"k", ⟨"blob"⟩, false, none⟩, ⟨"s", ⟨"text"⟩, true, none⟩],
        ⟨[⟨"k", ⟨"text"⟩, false, none⟩], []⟩⟩ [("k", 5), ("s", 1), ("k", 9)] =
      .ok ⟨"t", [⟨"k", ⟨"text"⟩, false, some 9⟩, ⟨"k", ⟨"blob"⟩, false, some 9⟩,
        ⟨"s", ⟨"text"⟩, true, some 1⟩], ⟨[⟨"k", ⟨"text"⟩, false, some 9⟩], []⟩⟩ := by
    decide +kernel
  obtain ⟨-, hkey, -, -, hbare⟩ := Schema.invariant_of_withSizeEstimates hp hs
  exact ⟨hp, _, rfl, hkey, hbare⟩

end PartitionSize
