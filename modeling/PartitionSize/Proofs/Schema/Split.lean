import PartitionSize.Proofs.Schema.Bare

/-!
# Key columns and other columns

An estimate counts the cells of a row by the lengths of lists and the bytes of a row by the names of
columns. Where no name is declared twice and the key repeats none, the two agree, for then the
columns are those of the key and the others (`Sound.perm_columns`).

* **Counting** (`Sound.cellsPerRow_eq`): what is left of the columns without the key and the static
  ones are the non-key columns that are not static.
* **Summing** (`Sound.sumSizes_add`): the sizes of the three lists add up to those of all columns.
* **After any size estimates** (`split_of_parse`): both conditions are about names, and size
  estimates change none (`names_bare`, `noRepeats_bare`).
-/

namespace PartitionSize

/-! ## Sums -/

theorem sumSizes_append (columns columns' : List Column) :
    sumSizes (columns ++ columns') = sumSizes columns + sumSizes columns' := by
  induction columns with
  | nil => simp [sumSizes]
  | cons c columns ih =>
    rw [List.cons_append, sumSizes, sumSizes, ih, Int.add_assoc]

theorem sumSizes_eq_of_perm {columns columns' : List Column} (h : columns.Perm columns') :
    sumSizes columns = sumSizes columns' := by
  induction h with
  | nil => rfl
  | cons c _ ih => rw [sumSizes, sumSizes, ih]
  | swap c c' columns => rw [sumSizes, sumSizes, sumSizes, sumSizes, Int.add_left_comm]
  | trans _ _ ih ih' => rw [ih, ih']

/-! ## Columns in and out of the key -/

theorem PrimaryKey.contains_iff (k : PrimaryKey) (name : String) :
    k.contains name = true ↔ ∃ c ∈ k.columns, c.name = name := by
  simp [contains]

namespace Schema.Sound

variable {s : Schema} (h : s.Sound)
include h

/-- Where every name is declared once, a column is in the key if its name is. -/
theorem mem_key_iff (hn : (s.columns.map (·.name)).Nodup) (c : Column) :
    c ∈ s.primaryKey.columns ↔ c ∈ s.columns ∧ s.primaryKey.contains c.name = true := by
  rw [PrimaryKey.contains_iff]
  constructor
  · exact fun hc => ⟨h.key_mem c hc, c, hc, rfl⟩
  · rintro ⟨hc, c', hc', hname⟩
    rwa [← List.inj_on_of_nodup_map hn (h.key_mem c' hc') hc hname]

variable (hk : s.primaryKey.NoRepeats) (hn : (s.columns.map (·.name)).Nodup)
include hk hn

theorem perm_columns :
    (s.primaryKey.partition ++ s.primaryKey.clustering ++ s.nonKeyColumns).Perm s.columns := by
  have hkey : s.primaryKey.columns.Perm
      (s.columns.filter fun c => s.primaryKey.contains c.name) := by
    -- the orders differ, the members do not, and neither list repeats one
    rw [List.perm_ext_iff_of_nodup (List.Nodup.of_map _ hk) ((List.Nodup.of_map _ hn).filter _)]
    intro c
    rw [h.mem_key_iff hn, List.mem_filter]
  exact (hkey.append_right s.nonKeyColumns).trans (List.filter_append_perm _ _)

/-- Each declared column is in one of the three lists, and there once. -/
theorem count_add_count_add_count {c : Column} (hc : c ∈ s.columns) :
    s.primaryKey.partition.count c + s.primaryKey.clustering.count c +
      s.nonKeyColumns.count c = 1 := by
  rw [← List.count_append, ← List.count_append, (h.perm_columns hk hn).count_eq]
  exact List.count_eq_one_of_mem (List.Nodup.of_map _ hn) hc

/-- Static columns are no key columns. -/
theorem length_staticColumns :
    s.staticColumns.length = (s.nonKeyColumns.filter (·.isStatic)).length := by
  have hkey : (s.primaryKey.columns.filter (·.isStatic)) = [] := by
    rw [List.filter_eq_nil_iff]
    intro c hc
    simp [h.key_not_static c hc]
  have hperm := ((h.perm_columns hk hn).filter (·.isStatic)).length_eq
  change ((s.primaryKey.columns ++ s.nonKeyColumns).filter _).length = _ at hperm
  rw [List.filter_append, hkey, List.nil_append] at hperm
  exact hperm.symm

theorem cellsPerRow_eq :
    s.cellsPerRow = ((s.nonKeyColumns.filter fun c => !c.isStatic).length : Int) := by
  have hlength := (h.perm_columns hk hn).length_eq
  have hstatic := h.length_staticColumns hk hn
  have hsplit := List.length_eq_length_filter_add (l := s.nonKeyColumns) (·.isStatic)
  rw [List.length_append, List.length_append] at hlength
  unfold cellsPerRow PrimaryKey.size
  omega

theorem sumSizes_add :
    sumSizes s.primaryKey.partition + sumSizes s.primaryKey.clustering +
      sumSizes s.nonKeyColumns = sumSizes s.columns := by
  rw [← sumSizes_append, ← sumSizes_append, sumSizes_eq_of_perm (h.perm_columns hk hn)]

end Schema.Sound

/-! ## Size estimates change no name -/

theorem Schema.names_bare (s : Schema) :
    s.bare.columns.map (·.name) = s.columns.map (·.name) := by
  simp [bare, mapColumns, Column.bare, Function.comp_def]

theorem Schema.noRepeats_bare (s : Schema) :
    s.bare.primaryKey.NoRepeats ↔ s.primaryKey.NoRepeats := by
  unfold PrimaryKey.NoRepeats
  rw [bare, columns_primaryKey_mapColumns, List.map_map]
  rfl

/-- **The columns are split into key and non-key columns.** Where the key of a statement repeats no
column, the key and the static columns are no more than all columns, after any size estimates. Where
moreover no name is declared twice, each declared column is in exactly one of the two key lists and
the non-key columns, an estimate counts the non-key columns that are not static, and the sizes of
the three lists add up to those of all columns. -/
theorem Schema.split_of_parse {text : String} {sizes : List (String × Int)} {parsed s : Schema}
    (hp : Schema.parse text = .ok parsed) (hs : parsed.withSizeEstimates sizes = .ok s)
    (hk : parsed.primaryKey.NoRepeats) :
    s.primaryKey.size + s.staticColumns.length ≤ s.columns.length ∧
      ((parsed.columns.map (·.name)).Nodup →
        (s.primaryKey.partition ++ s.primaryKey.clustering ++ s.nonKeyColumns).Perm s.columns ∧
        (∀ c ∈ s.columns, s.primaryKey.partition.count c + s.primaryKey.clustering.count c +
          s.nonKeyColumns.count c = 1) ∧
        s.cellsPerRow = ((s.nonKeyColumns.filter fun c => !c.isStatic).length : Int) ∧
        sumSizes s.primaryKey.partition + sumSizes s.primaryKey.clustering +
          sumSizes s.nonKeyColumns = sumSizes s.columns) := by
  have hsound := (Schema.sound_of_parse hp).withSizeEstimates hs
  have hbare : parsed = s.bare := by
    rw [bare_withSizeEstimates hs, (Schema.fresh_of_parse hp).bare_eq]
  rw [hbare, noRepeats_bare] at hk
  rw [hbare, names_bare]
  refine ⟨hsound.keySize_add_static_le hk, fun hn => ⟨hsound.perm_columns hk hn, ?_, ?_, ?_⟩⟩
  · exact fun c hc => hsound.count_add_count_add_count hk hn hc
  · exact hsound.cellsPerRow_eq hk hn
  · exact hsound.sumSizes_add hk hn

/-- One column of each kind, and one that is static: only `w` is counted in every row. -/
theorem Schema.split_of_parse_with_static :
    Schema.parse "CREATE TABLE t(k int, v blob, s text STATIC, w int, PRIMARY KEY ((k), v));" =
        .ok ⟨"t", [⟨"k", ⟨"int"⟩, false, none⟩, ⟨"v", ⟨"blob"⟩, false, none⟩,
            ⟨"s", ⟨"text"⟩, true, none⟩, ⟨"w", ⟨"int"⟩, false, none⟩],
          ⟨[⟨"k", ⟨"int"⟩, false, none⟩], [⟨"v", ⟨"blob"⟩, false, none⟩]⟩⟩ ∧
      ∃ s : Schema, s.columns = [⟨"k", ⟨"int"⟩, false, none⟩, ⟨"v", ⟨"blob"⟩, false, some 7⟩,
          ⟨"s", ⟨"text"⟩, true, none⟩, ⟨"w", ⟨"int"⟩, false, none⟩] ∧
        s.primaryKey.size + s.staticColumns.length ≤ s.columns.length ∧
        s.cellsPerRow = ((s.nonKeyColumns.filter fun c => !c.isStatic).length : Int) ∧
        sumSizes s.primaryKey.partition + sumSizes s.primaryKey.clustering +
          sumSizes s.nonKeyColumns = sumSizes s.columns := by
  have hp : Schema.parse
      "CREATE TABLE t(k int, v blob, s text STATIC, w int, PRIMARY KEY ((k), v));" =
      .ok ⟨"t", [⟨"k", ⟨"int"⟩, false, none⟩, ⟨"v", ⟨"blob"⟩, false, none⟩,
          ⟨"s", ⟨"text"⟩, true, none⟩, ⟨"w", ⟨"int"⟩, false, none⟩],
        ⟨[⟨"k", ⟨"int"⟩, false, none⟩], [⟨"v", ⟨"blob"⟩, false, none⟩]⟩⟩ := by decide +kernel
  have hs : Schema.withSizeEstimates ⟨"t", [⟨"k", ⟨"int"⟩, false, none⟩,
          ⟨"v", ⟨"blob"⟩, false, none⟩, ⟨"s", ⟨"text"⟩, true, none⟩, ⟨"w", ⟨"int"⟩, false, none⟩],
        ⟨[⟨"k", ⟨"int"⟩, false, none⟩], [⟨"v", ⟨"blob"⟩, false, none⟩]⟩⟩ [("v", 7)] =
      .ok ⟨"t", [⟨"k", ⟨"int"⟩, false, none⟩, ⟨"v", ⟨"blob"⟩, false, some 7⟩,
          ⟨"s", ⟨"text"⟩, true, none⟩, ⟨"w", ⟨"int"⟩, false, none⟩],
        ⟨[⟨"k", ⟨"int"⟩, false, none⟩], [⟨"v", ⟨"blob"⟩, false, some 7⟩]⟩⟩ := by decide +kernel
  obtain ⟨hle, hsplit⟩ := Schema.split_of_parse hp hs (by decide)
  obtain ⟨-, -, hcells, hsizes⟩ := hsplit (by decide)
  exact ⟨hp, _, rfl, hle, hcells, hsizes⟩

end PartitionSize
