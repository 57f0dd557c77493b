import PartitionSize.Proofs.Estimation.Exact
import PartitionSize.Proofs.Schema.Sizes
import PartitionSize.Proofs.Schema.Split
import Mathlib.Tactic.Ring

/-!
# What an estimate owes to a size and to the rows

Two estimates that differ in one size, or in the number of rows, differ by an exact amount, and the
smaller one is found if the larger is.

* **Less fits as well** (`Schema.Fits.of_le`): where neither the bytes nor the rows nor the cells
  are more, every number on the way still fits. Cells may be fewer only where they are not below
  zero: a key that repeats a column can make them negative, and then less may be too small.
* **One size** (`calculate_append_size`): the totals differ by the difference of the sizes, once for
  a partition column, once and once a row for a clustering column, once a row for a non-key column
  (`Schema.byteTotal_mapColumns_estimated`).
* **Rows** (`Schema.estimate?_rows`): each row adds its bytes, and the metadata of its cells and of
  itself. It takes none away, for a key without repeats takes no more cells from a row than there
  are.
-/

namespace PartitionSize

namespace Schema.Fits

variable {s s' : Schema} {rows rows' : Int} (h : s'.Fits rows')
  (hstatic : s.staticColumns.length = s'.staticColumns.length)
  (hcells : rows * s.cellsPerRow = rows' * s'.cellsPerRow ∨
    0 ≤ rows * s.cellsPerRow ∧ rows * s.cellsPerRow ≤ rows' * s'.cellsPerRow)
include h hstatic hcells

/-- Cells that are the same, or that are fewer and not below zero, fit as well. -/
theorem cells_of_le :
    InRange64 (rows * s.cellsPerRow) ∧ InRange64 (s.cellCount rows) ∧
      InRange64 (s.cellCount rows * metadataBytes) := by
  have hv := s.cellCount_eq rows
  have hv' := s'.cellCount_eq rows'
  rcases hcells with heq | ⟨hc0, hc⟩
  · have hcount : s.cellCount rows = s'.cellCount rows' := by omega
    rw [heq, hcount]
    exact ⟨h.cells, h.values, h.cellMetadata⟩
  · have fcellMeta := h.cellMetadata
    rw [mul_metadataBytes] at fcellMeta ⊢
    exact ⟨inRange64_of_le hc0 hc h.cells, inRange64_of_le (by omega) (by omega) h.values,
      inRange64_of_le (by omega) (by omega) fcellMeta⟩

/-- **Less fits as well.** -/
theorem of_le (hs : s.Sound) (h0 : 0 ≤ rows) (hle : rows ≤ rows') (hkey : s.keyBytes ≤ s'.keyBytes)
    (hrow : s.rowBytes ≤ s'.rowBytes) : s.Fits rows := by
  obtain ⟨fcells, fvalues, fcellMeta⟩ := h.cells_of_le hstatic hcells
  have hP := sumSizes_nonneg hs.partition_nonneg
  have hC := sumSizes_nonneg hs.clustering_nonneg
  have hN := sumSizes_nonneg hs.nonKey_nonneg
  have hkey0 : 0 ≤ s.keyBytes := by unfold keyBytes; omega
  have hrow0 : 0 ≤ s.rowBytes := by unfold rowBytes; omega
  have hall0 : 0 ≤ s.rowBytes * rows := Int.mul_nonneg hrow0 h0
  have hall : s.rowBytes * rows ≤ s'.rowBytes * rows' :=
    Int.mul_le_mul hrow hle h0 (Int.le_trans hrow0 hrow)
  have hcount : s.cellCount rows ≤ s'.cellCount rows' := by
    rw [cellCount_eq, cellCount_eq]
    omega
  have hm := s.metadataTotal_eq rows
  have hm' := s'.metadataTotal_eq rows'
  have htotal := s.add_rowBytes_eq_byteTotal rows
  have htotal' := s'.add_rowBytes_eq_byteTotal rows'
  -- whatever the cells come to, nothing behind them is less than their metadata
  have fits {n high : Int} (hhigh : InRange64 high) (hlow : s.cellCount rows * 8 ≤ n)
      (hn : n ≤ high) : InRange64 n := inRange64_of_between fcellMeta hhigh hlow hn
  have frowMeta := h.rowMetadata
  rw [mul_metadataBytes] at frowMeta
  exact
    { cells := fcells
      values := fvalues
      row := inRange64_of_le hrow0 hrow h.row
      allRows := inRange64_of_le hall0 hall h.allRows
      cellMetadata := fcellMeta
      rowMetadata := by rw [mul_metadataBytes]; exact inRange64_of_le (by omega) (by omega) frowMeta
      metadata := fits h.metadata (by omega) (by omega)
      key := inRange64_of_le hkey0 hkey h.key
      withMetadata := fits h.withMetadata (by omega) (by omega)
      bytes := fits h.bytes (by omega) (by omega) }

end Schema.Fits

/-! ## One size -/

/-- Whether a size for `name` is the size of the column. -/
def Column.takesSize (name : String) (c : Column) : Bool :=
  c.name == name && !c.dataType.isFixedSize

theorem Column.size_estimated (name : String) (size size' : Int) (c : Column) :
    (c.estimated name size').size =
      (c.estimated name size).size + if c.takesSize name then size' - size else 0 := by
  unfold Column.size estimated takesSize DataType.isFixedSize
  by_cases hn : c.name = name
  · cases hw : c.dataType.fixedWidth? <;> simp [hn, hw]
  · simp [hn]

theorem sumSizes_map_estimated (columns : List Column) (name : String) (size size' : Int) :
    sumSizes (columns.map (Column.estimated name size')) =
      sumSizes (columns.map (Column.estimated name size)) +
        (size' - size) * columns.countP (Column.takesSize name) := by
  induction columns with
  | nil => simp [sumSizes]
  | cons c columns ih =>
    rw [List.map_cons, List.map_cons, sumSizes, sumSizes, ih, c.size_estimated name size size',
      List.countP_cons]
    split
    · push_cast
      ring
    · simp only [Nat.add_zero]
      ring

theorem countP_takesSize_bare (columns : List Column) (name : String) :
    (columns.map Column.bare).countP (Column.takesSize name) =
      columns.countP (Column.takesSize name) := by
  rw [List.countP_map]
  rfl

namespace Schema

theorem contains_mapColumns {f : Column → Column} (hf : ∀ c, (f c).name = c.name) (s : Schema)
    (name : String) : (s.mapColumns f).primaryKey.contains name = s.primaryKey.contains name := by
  unfold PrimaryKey.contains
  rw [columns_primaryKey_mapColumns, List.any_map]
  simp only [Function.comp_def, hf]

theorem contains_bare (s : Schema) (name : String) :
    s.bare.primaryKey.contains name = s.primaryKey.contains name :=
  contains_mapColumns (fun c => show c.bare.name = c.name from rfl) s name

theorem nonKeyColumns_mapColumns {f : Column → Column} (hf : ∀ c, (f c).name = c.name)
    (s : Schema) : (s.mapColumns f).nonKeyColumns = s.nonKeyColumns.map f := by
  unfold nonKeyColumns
  simp only [contains_mapColumns hf]
  unfold mapColumns
  rw [List.filter_map]
  simp only [Function.comp_def, hf]

theorem length_staticColumns_mapColumns {f : Column → Column}
    (hf : ∀ c, (f c).isStatic = c.isStatic) (s : Schema) :
    (s.mapColumns f).staticColumns.length = s.staticColumns.length := by
  unfold staticColumns mapColumns
  rw [List.filter_map, List.length_map]
  simp only [Function.comp_def, hf]

theorem cellsPerRow_mapColumns {f : Column → Column} (hf : ∀ c, (f c).isStatic = c.isStatic)
    (s : Schema) : (s.mapColumns f).cellsPerRow = s.cellsPerRow := by
  unfold cellsPerRow
  rw [length_staticColumns_mapColumns hf]
  simp [mapColumns, PrimaryKey.size]

theorem countP_nonKeyColumns (s : Schema) (name : String) :
    s.nonKeyColumns.countP (Column.takesSize name) =
      if s.primaryKey.contains name then 0 else s.columns.countP (Column.takesSize name) := by
  unfold nonKeyColumns
  rw [List.countP_filter]
  split
  · next hk =>
    rw [List.countP_eq_zero]
    intro c _
    by_cases hn : c.name = name <;> simp [Column.takesSize, hn, hk]
  · next hk =>
    refine List.countP_congr fun c _ => ?_
    by_cases hn : c.name = name <;> simp [Column.takesSize, hn, hk]

end Schema

theorem Column.name_estimated (name : String) (size : Int) (c : Column) :
    (c.estimated name size).name = c.name := by
  unfold estimated
  split <;> rfl

namespace Schema

section
variable (s : Schema) (name : String) (size size' : Int)

theorem keyBytes_mapColumns_estimated :
    (s.mapColumns (Column.estimated name size')).keyBytes =
      (s.mapColumns (Column.estimated name size)).keyBytes +
        (size' - size) * (s.primaryKey.partition.countP (Column.takesSize name) +
          s.primaryKey.clustering.countP (Column.takesSize name)) := by
  unfold keyBytes mapColumns
  rw [sumSizes_map_estimated s.primaryKey.partition name size size',
    sumSizes_map_estimated s.primaryKey.clustering name size size']
  ring

theorem rowBytes_mapColumns_estimated :
    (s.mapColumns (Column.estimated name size')).rowBytes =
      (s.mapColumns (Column.estimated name size)).rowBytes +
        (size' - size) * (s.primaryKey.clustering.countP (Column.takesSize name) +
          s.nonKeyColumns.countP (Column.takesSize name)) := by
  unfold rowBytes
  rw [nonKeyColumns_mapColumns (Column.name_estimated name size'),
    nonKeyColumns_mapColumns (Column.name_estimated name size),
    sumSizes_map_estimated s.nonKeyColumns name size size']
  unfold mapColumns
  rw [sumSizes_map_estimated s.primaryKey.clustering name size size']
  ring

theorem cellCount_mapColumns_estimated (rows : Int) :
    (s.mapColumns (Column.estimated name size)).cellCount rows = s.cellCount rows := by
  unfold cellCount
  rw [cellsPerRow_mapColumns (Column.isStatic_estimated name size),
    length_staticColumns_mapColumns (Column.isStatic_estimated name size)]

theorem byteTotal_mapColumns_estimated (rows : Int) :
    (s.mapColumns (Column.estimated name size')).byteTotal rows -
        (s.mapColumns (Column.estimated name size)).byteTotal rows =
      (size' - size) * (s.primaryKey.partition.countP (Column.takesSize name) +
        s.primaryKey.clustering.countP (Column.takesSize name) * (1 + rows) +
        s.nonKeyColumns.countP (Column.takesSize name) * rows) := by
  rw [← add_rowBytes_eq_byteTotal, ← add_rowBytes_eq_byteTotal,
    keyBytes_mapColumns_estimated s name size size',
    rowBytes_mapColumns_estimated s name size size']
  unfold metadataTotal
  rw [cellCount_mapColumns_estimated, cellCount_mapColumns_estimated]
  ring

end

/-- **The smaller size fits as well.** -/
theorem Fits.of_size_le {s : Schema} {name : String} {size size' rows : Int}
    (h : (s.mapColumns (Column.estimated name size')).Fits rows)
    (hs : (s.mapColumns (Column.estimated name size)).Sound) (hr : 0 ≤ rows)
    (hle : size ≤ size') : (s.mapColumns (Column.estimated name size)).Fits rows := by
  have hd : 0 ≤ size' - size := by omega
  refine h.of_le ?_ (.inl ?_) hs hr (Int.le_refl rows) ?_ ?_
  · rw [length_staticColumns_mapColumns (Column.isStatic_estimated name size),
      length_staticColumns_mapColumns (Column.isStatic_estimated name size')]
  · rw [cellsPerRow_mapColumns (Column.isStatic_estimated name size),
      cellsPerRow_mapColumns (Column.isStatic_estimated name size')]
  · rw [keyBytes_mapColumns_estimated s name size size']
    have := Int.mul_nonneg hd (Int.natCast_nonneg
      (s.primaryKey.partition.countP (Column.takesSize name) +
        s.primaryKey.clustering.countP (Column.takesSize name)))
    push_cast at this
    omega
  · rw [rowBytes_mapColumns_estimated s name size size']
    have := Int.mul_nonneg hd (Int.natCast_nonneg
      (s.primaryKey.clustering.countP (Column.takesSize name) +
        s.nonKeyColumns.countP (Column.takesSize name)))
    push_cast at this
    omega

end Schema

/-- **One size.** Two calculations that differ only in the last size, for one name: where the one
with the larger size succeeds, so does the other. The numbers of cells are equal, and the bytes
differ by the difference of the sizes, as often as columns of the name take them: once for each
partition column, once and once a row for each clustering column, and once a row for each declared
column if the name is not in the key. -/
theorem calculate_append_size {text : String} {rows : Int} {sizes : List (String × Int)}
    {name : String} {size size' : Int} {parsed : Schema} {c' : Calculation}
    (hp : Schema.parse text = .ok parsed) (h0 : 0 ≤ size) (hle : size ≤ size')
    (h : calculate text rows (sizes ++ [(name, size')]) = .ok c') :
    ∃ c, calculate text rows (sizes ++ [(name, size)]) = .ok c ∧
      c.estimation.values = c'.estimation.values ∧
      c'.estimation.bytes - c.estimation.bytes =
        (size' - size) * (parsed.primaryKey.partition.countP (Column.takesSize name) +
          parsed.primaryKey.clustering.countP (Column.takesSize name) * (1 + rows) +
          (if parsed.primaryKey.contains name then 0
            else parsed.columns.countP (Column.takesSize name) : Nat) * rows) := by
  obtain ⟨hr, parsed', hp', hsizes, he⟩ := exists_applySizes_of_calculate h
  cases hp.symm.trans hp'
  obtain ⟨s, hs, hlast⟩ :=
    Schema.withSizeEstimates_append_singleton_iff.1 (Schema.applySizes_eq_ok hsizes)
  have hother := Schema.withSizeEstimate_of_nonneg hlast h0
  have hsound := ((Schema.sound_of_parse hp).withSizeEstimates hs).withSizeEstimate hother
  obtain ⟨-, hschema⟩ := Schema.withSizeEstimate_eq_ok hlast
  obtain ⟨hfits, hestimation⟩ := Schema.fits_of_estimate? he
  rw [hschema] at hfits hestimation
  have hfound := hsound.estimate?_eq_some_iff.2 ⟨hfits.of_size_le hsound hr hle, rfl⟩
  have happly := Schema.applySizes_of_withSizeEstimates
    (Schema.withSizeEstimates_append_singleton_iff.2 ⟨s, hs, hother⟩)
  -- the counts are those of the schema without sizes
  have hbare := (Schema.bare_eq_parsed hp hs).symm
  have hpartition : parsed.primaryKey.partition.countP (Column.takesSize name) =
      s.primaryKey.partition.countP (Column.takesSize name) := by
    rw [hbare]
    exact countP_takesSize_bare _ name
  have hclustering : parsed.primaryKey.clustering.countP (Column.takesSize name) =
      s.primaryKey.clustering.countP (Column.takesSize name) := by
    rw [hbare]
    exact countP_takesSize_bare _ name
  have hnonKey : (if parsed.primaryKey.contains name then 0
      else parsed.columns.countP (Column.takesSize name)) =
      s.nonKeyColumns.countP (Column.takesSize name) := by
    rw [s.countP_nonKeyColumns, hbare, Schema.contains_bare]
    exact congrArg (ite _ 0) (countP_takesSize_bare s.columns name)
  refine ⟨_, by rw [calculate_of_applySizes hp happly hr, hfound], ?_, ?_⟩
  · rw [hestimation]
    dsimp only
    rw [Schema.cellCount_mapColumns_estimated, Schema.cellCount_mapColumns_estimated]
  · rw [hestimation, hpartition, hclustering, hnonKey]
    exact s.byteTotal_mapColumns_estimated name size size' rows

/-- A key of one column thrice, which takes more cells away than there are: a size for it counts
once for the partition column and twice for either clustering column. -/
theorem calculate_append_size_of_repeated_column :
    calculate "CREATE TABLE t(a text, PRIMARY KEY (a, a, a));" 1 [("a", 2), ("a", 10)] =
        .ok ⟨⟨"t", [⟨"a", ⟨"text"⟩, false, some 10⟩], ⟨[⟨"a", ⟨"text"⟩, false, some 10⟩],
          [⟨"a", ⟨"text"⟩, false, some 10⟩, ⟨"a", ⟨"text"⟩, false, some 10⟩]⟩⟩, ⟨-2, 42⟩⟩ ∧
      ∃ c, calculate "CREATE TABLE t(a text, PRIMARY KEY (a, a, a));" 1 [("a", 2), ("a", 4)] =
          .ok c ∧
        c.estimation.values = -2 ∧ 42 - c.estimation.bytes = (10 - 4) * (1 + 2 * (1 + 1)) := by
  have hp : Schema.parse "CREATE TABLE t(a text, PRIMARY KEY (a, a, a));" =
      .ok ⟨"t", [⟨"a", ⟨"text"⟩, false, none⟩], ⟨[⟨"a", ⟨"text"⟩, false, none⟩],
        [⟨"a", ⟨"text"⟩, false, none⟩, ⟨"a", ⟨"text"⟩, false, none⟩]⟩⟩ := by decide +kernel
  have h : calculate "CREATE TABLE t(a text, PRIMARY KEY (a, a, a));" 1 ([("a", 2)] ++ [("a", 10)]) =
      .ok ⟨⟨"t", [⟨"a", ⟨"text"⟩, false, some 10⟩], ⟨[⟨"a", ⟨"text"⟩, false, some 10⟩],
        [⟨"a", ⟨"text"⟩, false, some 10⟩, ⟨"a", ⟨"text"⟩, false, some 10⟩]⟩⟩, ⟨-2, 42⟩⟩ := by
    decide +kernel
  obtain ⟨c, hc, hvalues, hbytes⟩ :=
    calculate_append_size hp (show (0 : Int) ≤ 4 by decide) (show (4 : Int) ≤ 10 by decide) h
  refine ⟨h, c, hc, hvalues, ?_⟩
  rw [hbytes]
  decide +kernel

/-! ## Rows -/

theorem Schema.byteTotal_sub_byteTotal (s : Schema) (rows rows' : Int) :
    s.byteTotal rows' - s.byteTotal rows =
      (rows' - rows) * (sumSizes s.primaryKey.clustering + sumSizes s.nonKeyColumns +
        8 * s.cellsPerRow + 8) := by
  rw [byteTotal_eq, byteTotal_eq]
  ring

/-- **Rows.** Where the key of a statement repeats no column, after any size estimates: an estimate
that is found for some rows is found for fewer. It has no more cells and no more bytes, and each row
adds the bytes of the clustering and non-key columns, and the metadata of its cells and of itself. -/
theorem Schema.estimate?_rows {text : String} {sizes : List (String × Int)} {parsed s : Schema}
    {rows rows' : Int} {e' : Estimation} (hp : Schema.parse text = .ok parsed)
    (hk : parsed.primaryKey.NoRepeats) (hs : parsed.withSizeEstimates sizes = .ok s)
    (h0 : 0 ≤ rows) (hle : rows ≤ rows') (h : s.estimate? rows' = some e') :
    ∃ e, s.estimate? rows = some e ∧ e.values ≤ e'.values ∧
      e'.bytes - e.bytes =
        (rows' - rows) * (sumSizes s.primaryKey.clustering + sumSizes s.nonKeyColumns +
          8 * (s.columns.length - s.primaryKey.size - s.staticColumns.length) + 8) ∧
      8 * (rows' - rows) ≤ e'.bytes - e.bytes := by
  have hsound := (Schema.sound_of_parse hp).withSizeEstimates hs
  have hks : s.primaryKey.NoRepeats := by
    rw [← noRepeats_bare, bare_eq_parsed hp hs]
    exact hk
  have hcells0 := hsound.cellsPerRow_nonneg hks
  have hcells : rows * s.cellsPerRow ≤ rows' * s.cellsPerRow :=
    Int.mul_le_mul_of_nonneg_right hle hcells0
  obtain ⟨hfits, rfl⟩ := Schema.fits_of_estimate? h
  have hfits' : s.Fits rows := hfits.of_le rfl (.inr ⟨Int.mul_nonneg h0 hcells0, hcells⟩) hsound h0
    hle (Int.le_refl _) (Int.le_refl _)
  have hdiff := s.byteTotal_sub_byteTotal rows rows'
  refine ⟨_, hsound.estimate?_eq_some_iff.2 ⟨hfits', rfl⟩, ?_, hdiff, ?_⟩
  · exact Int.add_le_add_right hcells _
  · dsimp only
    rw [hdiff, Int.mul_comm 8]
    refine Int.mul_le_mul_of_nonneg_left ?_ (by omega)
    have := sumSizes_nonneg hsound.clustering_nonneg
    have := sumSizes_nonneg hsound.nonKey_nonneg
    omega

/-- A static column and one in the key: three more rows add a cell each. -/
theorem Schema.estimate?_rows_with_static :
    Schema.parse "CREATE TABLE t(k int, v blob, s text STATIC, w int, PRIMARY KEY ((k), v));" =
        .ok ⟨"t", [⟨"k", ⟨"int"⟩, false, none⟩, ⟨"v", ⟨"blob"⟩, false, none⟩,
            ⟨"s", ⟨"text"⟩, true, none⟩, ⟨"w", ⟨"int"⟩, false, none⟩],
          ⟨[⟨"k", ⟨"int"⟩, false, none⟩], [⟨"v", ⟨"blob"⟩, false, none⟩]⟩⟩ ∧
      ∃ (s : Schema) (e : Estimation), s.estimate? 5 = some ⟨6, 154⟩ ∧ s.estimate? 2 = some e ∧
        e.values ≤ 6 ∧ 154 - e.bytes = (5 - 2) * (7 + 4 + 8 * (4 - 2 - 1) + 8) ∧
        8 * (5 - 2) ≤ 154 - e.bytes := by
  have hp : Schema.parse
      "CREATE TABLE t(k int, v blob, s text STATIC, w int, PRIMARY KEY ((k), v));" =
      .ok ⟨"t", [⟨"k", ⟨"int"⟩, false, none⟩, ⟨"v", ⟨"blob"⟩, false, none⟩,
          ⟨"s", ⟨"text"⟩, true, none⟩, ⟨"w", ⟨"int"⟩, false, none⟩],
        ⟨[⟨"k", ⟨"int"⟩, false, none⟩], [⟨"v", ⟨"blob"⟩, false, none⟩]⟩⟩ := by decide +kernel
  have hs : Schema.withSizeEstimates ⟨"t", [⟨"k", ⟨"int"⟩, false, none⟩,
          ⟨"v", ⟨"blob"⟩, false, none⟩, ⟨"s", ⟨"text"⟩, true, none⟩, ⟨"w", ⟨"int"⟩, false, none⟩],
        ⟨[⟨"k", ⟨"int"⟩, false, none⟩], [⟨"v", ⟨"blob"⟩, false, none⟩]⟩⟩ [("v", 7)] =
      .ok ⟨"t", [⟨"k", ⟨"int"⟩, false, none⟩, ⟨"v", ⟨"blob"⟩, false, some 7⟩,
          ⟨"s", ⟨"text"⟩, true, none⟩, ⟨"w", ⟨"int"⟩, false, none⟩],
        ⟨[⟨"k", ⟨"int"⟩, false, none⟩], [⟨"v", ⟨"blob"⟩, false, some 7⟩]⟩⟩ := by decide +kernel
  have h : Schema.estimate? ⟨"t", [⟨"k", ⟨"int"⟩, false, none⟩,
          ⟨"v", ⟨"blob"⟩, false, some 7⟩, ⟨"s", ⟨"text"⟩, true, none⟩, ⟨"w", ⟨"int"⟩, false, none⟩],
        ⟨[⟨"k", ⟨"int"⟩, false, none⟩], [⟨"v", ⟨"blob"⟩, false, some 7⟩]⟩⟩ 5 = some ⟨6, 154⟩ := by
    decide +kernel
  obtain ⟨e, he, hvalues, hbytes, hleast⟩ := Schema.estimate?_rows hp (by decide) hs
    (show (0 : Int) ≤ 2 by decide) (show (2 : Int) ≤ 5 by decide) h
  refine ⟨hp, _, e, h, he, hvalues, hbytes.trans (by decide +kernel), hleast⟩

end PartitionSize
