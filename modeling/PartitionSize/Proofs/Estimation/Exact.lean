import PartitionSize.Proofs.Schema.Sound

/-!
# Estimates are exact

`Schema.estimate?` works in 64 bits and gives up where a number on the way does not fit.
`Schema.cellCount` and `Schema.byteTotal` are the same formulas over all integers.

* **Exact** (`eq_of_estimate?`): an estimate, where there is one, is these two numbers. It is found
  exactly when each number on the way fits (`Sound.estimate?_eq_some_iff`).
* **Overflow is genuine** (`estimate?_eq_some`): in a sound schema no size is negative, so every
  number on the way is at most the total, and a total that fits is found. Two things stand between:
  the rows may be none, and then the bytes of a row are computed but do not count; and a key that
  repeats a column may have more entries than there are columns.
-/

namespace PartitionSize

/-! ## Sums -/

theorem sumSizes_nonneg {columns : List Column} (h : ∀ c ∈ columns, 0 ≤ c.size) :
    0 ≤ sumSizes columns := by
  induction columns with
  | nil => exact Int.le_refl 0
  | cons c columns ih =>
    rw [List.forall_mem_cons] at h
    have := ih h.2
    rw [sumSizes]
    omega

/-- A sum that is found is the sum. -/
theorem eq_of_foldlM_fit64 {columns : List Column} {start total : Int}
    (h : columns.foldlM (fun total c => fit64 (total + c.size)) start = some total) :
    total = start + sumSizes columns := by
  induction columns generalizing start with
  | nil => cases h; simp [sumSizes]
  | cons c columns ih =>
    rw [List.foldlM_cons] at h
    obtain ⟨next, hn, h⟩ := Option.bind_eq_some_iff.1 h
    obtain ⟨-, rfl⟩ := fit64_eq_some.1 hn
    rw [ih h, sumSizes]
    omega

theorem eq_of_sumSizes? {columns : List Column} {total : Int}
    (h : sumSizes? columns = some total) : total = sumSizes columns := by
  have := eq_of_foldlM_fit64 h
  omega

/-- Sizes that are not negative are summed up if the sum fits: so do all sums on the way. -/
theorem foldlM_fit64 {columns : List Column} {start : Int} (h : ∀ c ∈ columns, 0 ≤ c.size)
    (h0 : 0 ≤ start) (hfit : InRange64 (start + sumSizes columns)) :
    columns.foldlM (fun total c => fit64 (total + c.size)) start =
      some (start + sumSizes columns) := by
  induction columns generalizing start with
  | nil => simp [sumSizes]
  | cons c columns ih =>
    rw [List.forall_mem_cons] at h
    have hs := sumSizes_nonneg h.2
    rw [sumSizes] at hfit ⊢
    have hc : fit64 (start + c.size) = some (start + c.size) := by
      rw [fit64_eq_some]
      refine ⟨?_, rfl⟩
      unfold InRange64 at hfit ⊢
      omega
    rw [List.foldlM_cons, hc]
    change List.foldlM _ (start + c.size) columns = _
    rw [ih h.2 (by omega) (by rwa [Int.add_assoc]), Int.add_assoc]

theorem sumSizes?_eq_some {columns : List Column} (h : ∀ c ∈ columns, 0 ≤ c.size)
    (hfit : InRange64 (sumSizes columns)) : sumSizes? columns = some (sumSizes columns) := by
  have := foldlM_fit64 h (Int.le_refl 0) (by rwa [Int.zero_add])
  rwa [Int.zero_add] at this

/-! ## Estimates -/

/-- The total, its constants spelled out. -/
theorem Schema.byteTotal_eq (s : Schema) (rows : Int) :
    s.byteTotal rows = sumSizes s.primaryKey.partition + sumSizes s.primaryKey.clustering +
      (sumSizes s.primaryKey.clustering + sumSizes s.nonKeyColumns) * rows +
      8 * (rows * s.cellsPerRow + s.staticColumns.length) + 8 * rows := rfl

/-- The bytes of the key columns. -/
def Schema.keyBytes (s : Schema) : Int :=
  sumSizes s.primaryKey.partition + sumSizes s.primaryKey.clustering

/-- The bytes that a row adds, without metadata. -/
def Schema.rowBytes (s : Schema) : Int :=
  sumSizes s.primaryKey.clustering + sumSizes s.nonKeyColumns

/-- The bytes of metadata of all cells and rows. -/
def Schema.metadataTotal (s : Schema) (rows : Int) : Int :=
  s.cellCount rows * metadataBytes + rows * metadataBytes

/-- Every number on the way to an estimate has 64 bits. The sums over single lists are not among
them: where no size is negative, they are at most `keyBytes` or `rowBytes`. -/
structure Schema.Fits (s : Schema) (rows : Int) : Prop where
  cells : InRange64 (rows * s.cellsPerRow)
  values : InRange64 (s.cellCount rows)
  row : InRange64 s.rowBytes
  allRows : InRange64 (s.rowBytes * rows)
  cellMetadata : InRange64 (s.cellCount rows * metadataBytes)
  rowMetadata : InRange64 (rows * metadataBytes)
  metadata : InRange64 (s.metadataTotal rows)
  key : InRange64 s.keyBytes
  withMetadata : InRange64 (s.keyBytes + s.metadataTotal rows)
  bytes : InRange64 (s.byteTotal rows)

theorem mul_metadataBytes (n : Int) : n * metadataBytes = n * 8 := rfl

theorem Schema.metadataTotal_eq (s : Schema) (rows : Int) :
    s.metadataTotal rows = s.cellCount rows * 8 + rows * 8 := rfl

theorem Schema.cellCount_eq (s : Schema) (rows : Int) :
    s.cellCount rows = rows * s.cellsPerRow + s.staticColumns.length := rfl

theorem Schema.add_rowBytes_eq_byteTotal (s : Schema) (rows : Int) :
    s.keyBytes + s.metadataTotal rows + s.rowBytes * rows = s.byteTotal rows := by
  rw [byteTotal_eq, metadataTotal_eq, cellCount_eq]
  unfold keyBytes rowBytes
  omega

/-- An estimate that is found: each number on the way fits, and it is the two totals. -/
theorem Schema.fits_of_estimate? {s : Schema} {rows : Int} {e : Estimation}
    (h : s.estimate? rows = some e) :
    s.Fits rows ∧ e = { values := s.cellCount rows, bytes := s.byteTotal rows } := by
  simp only [estimate?, Option.bind_eq_bind, Option.bind_eq_some_iff, fit64_eq_some] at h
  obtain ⟨_, ⟨hcells, rfl⟩, _, ⟨hvalues, rfl⟩, p, hp, c, hc, n, hn, _, ⟨hrow, rfl⟩,
    _, ⟨hall, rfl⟩, _, ⟨hcellMeta, rfl⟩, _, ⟨hrowMeta, rfl⟩, _, ⟨hmeta, rfl⟩, _, ⟨hkey, rfl⟩,
    _, ⟨hwith, rfl⟩, _, ⟨hbytes, rfl⟩, he⟩ := h
  cases he
  obtain rfl := eq_of_sumSizes? hp
  obtain rfl := eq_of_sumSizes? hc
  obtain rfl := eq_of_sumSizes? hn
  have htotal := s.add_rowBytes_eq_byteTotal rows
  refine ⟨⟨hcells, hvalues, hrow, hall, hcellMeta, hrowMeta, hmeta, hkey, hwith, ?_⟩, ?_⟩
  · exact htotal ▸ hbytes
  · exact congrArg (Estimation.mk (s.cellCount rows)) htotal

theorem Schema.eq_of_estimate? {s : Schema} {rows : Int} {e : Estimation}
    (h : s.estimate? rows = some e) :
    e = { values := s.cellCount rows, bytes := s.byteTotal rows } :=
  (fits_of_estimate? h).2

namespace Schema.Sound

variable {s : Schema} (h : s.Sound)
include h

/-- The clustering and non-key columns of all rows. -/
theorem rowBytes_nonneg {rows : Int} (hr : 0 ≤ rows) :
    0 ≤ (sumSizes s.primaryKey.clustering + sumSizes s.nonKeyColumns) * rows := by
  have := sumSizes_nonneg h.clustering_nonneg
  have := sumSizes_nonneg h.nonKey_nonneg
  exact Int.mul_nonneg (by omega) hr

/-- A key that repeats no column takes no more cells from a row than there are. -/
theorem cellsPerRow_nonneg (hk : s.primaryKey.NoRepeats) : 0 ≤ s.cellsPerRow := by
  have := h.keySize_add_static_le hk
  unfold cellsPerRow
  omega

theorem rowCells_nonneg (hk : s.primaryKey.NoRepeats) {rows : Int} (hr : 0 ≤ rows) :
    0 ≤ rows * s.cellsPerRow :=
  Int.mul_nonneg hr (h.cellsPerRow_nonneg hk)

end Schema.Sound

theorem inRange64_of_between {low n high : Int} (hlow : InRange64 low) (hhigh : InRange64 high)
    (h1 : low ≤ n) (h2 : n ≤ high) : InRange64 n := by
  unfold InRange64 at hlow hhigh ⊢
  omega

/-- What is not negative and at most a number of 64 bits has 64 bits. -/
theorem inRange64_of_le {n total : Int} (h0 : 0 ≤ n) (hle : n ≤ total) (h : InRange64 total) :
    InRange64 n :=
  inRange64_of_between (by decide) h h0 hle

/-- **When an estimate is found**, where no size is negative. -/
theorem Schema.Sound.estimate?_eq_some_iff {s : Schema} (h : s.Sound) {rows : Int}
    {e : Estimation} :
    s.estimate? rows = some e ↔
      s.Fits rows ∧ e = { values := s.cellCount rows, bytes := s.byteTotal rows } := by
  refine ⟨Schema.fits_of_estimate?, ?_⟩
  rintro ⟨hf, rfl⟩
  have hP := sumSizes_nonneg h.partition_nonneg
  have hC := sumSizes_nonneg h.clustering_nonneg
  have hN := sumSizes_nonneg h.nonKey_nonneg
  have hkey : s.keyBytes =
    sumSizes s.primaryKey.partition + sumSizes s.primaryKey.clustering := rfl
  have hrow : s.rowBytes =
    sumSizes s.primaryKey.clustering + sumSizes s.nonKeyColumns := rfl
  have fP := sumSizes?_eq_some h.partition_nonneg (inRange64_of_le hP (by omega) hf.key)
  have fC := sumSizes?_eq_some h.clustering_nonneg (inRange64_of_le hC (by omega) hf.key)
  have fN := sumSizes?_eq_some h.nonKey_nonneg (inRange64_of_le hN (by omega) hf.row)
  have fit {n : Int} (hn : InRange64 n) : fit64 n = some n := fit64_eq_some.2 ⟨hn, rfl⟩
  simp only [estimate?, Option.bind_eq_bind, Option.bind_eq_some_iff]
  refine ⟨_, fit hf.cells, _, fit hf.values, _, fP, _, fC, _, fN, _, fit hf.row,
    _, fit hf.allRows, _, fit hf.cellMetadata, _, fit hf.rowMetadata, _, fit hf.metadata,
    _, fit hf.key, _, fit hf.withMetadata, _, fit ?_, ?_⟩
  · exact (s.add_rowBytes_eq_byteTotal rows).symm ▸ hf.bytes
  · exact congrArg (fun bytes => some (Estimation.mk (s.cellCount rows) bytes))
      (s.add_rowBytes_eq_byteTotal rows)

/-- **Totals that fit are found.** -/
theorem Schema.estimate?_eq_some {s : Schema} (h : s.Sound) (hk : s.primaryKey.NoRepeats)
    {rows : Int} (hr : 0 ≤ rows) (hfit : InRange64 (s.byteTotal rows))
    (hrow : rows = 0 → InRange64 (sumSizes s.primaryKey.clustering + sumSizes s.nonKeyColumns)) :
    s.estimate? rows = some { values := s.cellCount rows, bytes := s.byteTotal rows } := by
  have hP := sumSizes_nonneg h.partition_nonneg
  have hC := sumSizes_nonneg h.clustering_nonneg
  have hN := sumSizes_nonneg h.nonKey_nonneg
  have hcells := h.rowCells_nonneg hk hr
  have hrows := h.rowBytes_nonneg hr
  have htotal := s.byteTotal_eq rows
  -- with no rows the bytes of a row are no part of the total
  have hone : InRange64 (sumSizes s.primaryKey.clustering + sumSizes s.nonKeyColumns) := by
    by_cases h0 : rows = 0
    · exact hrow h0
    · have hle := Int.mul_le_mul_of_nonneg_left (show 1 ≤ rows by omega)
        (show 0 ≤ sumSizes s.primaryKey.clustering + sumSizes s.nonKeyColumns by omega)
      exact inRange64_of_le (by omega) (by omega) hfit
  -- every number on the way lies between zero and the total
  have fits {n : Int} (h0 : 0 ≤ n) (hle : n ≤ s.byteTotal rows) : InRange64 n :=
    inRange64_of_le h0 hle hfit
  have hvalues := s.cellCount_eq rows
  have hmeta := s.metadataTotal_eq rows
  have hkey : s.keyBytes =
    sumSizes s.primaryKey.partition + sumSizes s.primaryKey.clustering := rfl
  refine h.estimate?_eq_some_iff.2 ⟨?_, rfl⟩
  exact
    { cells := fits hcells (by omega)
      values := fits (by omega) (by omega)
      row := hone
      allRows := fits hrows (by unfold rowBytes; omega)
      cellMetadata := by rw [mul_metadataBytes]; exact fits (by omega) (by omega)
      rowMetadata := by rw [mul_metadataBytes]; exact fits (by omega) (by omega)
      metadata := fits (by omega) (by omega)
      key := fits (by omega) (by omega)
      withMetadata := fits (by omega) (by omega)
      bytes := hfit }

/-! ## Calculations -/

theorem Schema.applySizes_eq_ok {s s' : Schema} {sizes : List (String × Int)}
    (h : s.applySizes sizes = .ok s') : s.withSizeEstimates sizes = .ok s' := by
  unfold applySizes at h
  split at h
  · cases h
  · next hs => cases h; exact hs

theorem Schema.applySizes_of_withSizeEstimates {s s' : Schema} {sizes : List (String × Int)}
    (h : s.withSizeEstimates sizes = .ok s') : s.applySizes sizes = .ok s' := by
  unfold applySizes
  rw [h]

theorem calculate_of_parse {text : String} {rows : Int} {parsed : Schema}
    (hp : Schema.parse text = .ok parsed) (hr : 0 ≤ rows) (sizes : List (String × Int)) :
    calculate text rows sizes = match parsed.applySizes sizes with
      | .error e => .error e
      | .ok schema => match schema.estimate? rows with
        | none => .error (.overflow schema.tableName rows)
        | some estimation => .ok { schema, estimation } := by
  have hrows : ¬ rows < 0 := Int.not_lt.2 hr
  cases hs : parsed.applySizes sizes with
  | error e => simp only [calculate, if_neg hrows, hp, hs]
  | ok schema =>
    cases he : schema.estimate? rows with
    | none => simp only [calculate, if_neg hrows, hp, hs, he]
    | some estimation => simp only [calculate, if_neg hrows, hp, hs, he]

/-- After a statement and its sizes only the estimate can fail. -/
theorem calculate_of_applySizes {text : String} {rows : Int} {sizes : List (String × Int)}
    {parsed schema : Schema} (hp : Schema.parse text = .ok parsed)
    (hs : parsed.applySizes sizes = .ok schema) (hr : 0 ≤ rows) :
    calculate text rows sizes = match schema.estimate? rows with
      | none => .error (.overflow schema.tableName rows)
      | some estimation => .ok { schema, estimation } := by
  rw [calculate_of_parse hp hr, hs]

/-- The stages of a calculation that succeeds. -/
theorem exists_applySizes_of_calculate {text : String} {rows : Int} {sizes : List (String × Int)}
    {c : Calculation} (h : calculate text rows sizes = .ok c) :
    0 ≤ rows ∧ ∃ parsed, Schema.parse text = .ok parsed ∧
      parsed.applySizes sizes = .ok c.schema ∧ c.schema.estimate? rows = some c.estimation := by
  unfold calculate at h
  split at h
  · cases h
  · next hr =>
    split at h
    · cases h
    · next parsed hp =>
      split at h
      · cases h
      · next schema hs =>
        split at h
        · cases h
        · next he => cases h; exact ⟨by omega, parsed, hp, hs, he⟩

theorem stages_of_calculate {text : String} {rows : Int} {sizes : List (String × Int)}
    {c : Calculation} (h : calculate text rows sizes = .ok c) :
    0 ≤ rows ∧ c.schema.Sound ∧ c.schema.estimate? rows = some c.estimation := by
  obtain ⟨hr, parsed, hp, hs, he⟩ := exists_applySizes_of_calculate h
  exact ⟨hr, (Schema.sound_of_parse hp).withSizeEstimates (Schema.applySizes_eq_ok hs), he⟩

/-- **Estimates are exact, and overflow is genuine.** A statement with sizes that apply is
estimated by the formulas over all integers, or the estimate overflows; and it does so only if the
total leaves 64 bits, or the bytes of a row do and there are no rows, or the key repeats a
column. -/
theorem calculate_exact {text : String} {rows : Int} {sizes : List (String × Int)}
    {parsed schema : Schema} (hp : Schema.parse text = .ok parsed)
    (hs : parsed.applySizes sizes = .ok schema) (hr : 0 ≤ rows) :
    calculate text rows sizes = .ok { schema, estimation :=
        { values := schema.cellCount rows, bytes := schema.byteTotal rows } } ∨
      calculate text rows sizes = .error (.overflow schema.tableName rows) ∧
        (0x7fffffffffffffff < schema.byteTotal rows ∨
          rows = 0 ∧ 0x7fffffffffffffff <
            sumSizes schema.primaryKey.clustering + sumSizes schema.nonKeyColumns ∨
          ¬ schema.primaryKey.NoRepeats) := by
  have hsound : schema.Sound :=
    (Schema.sound_of_parse hp).withSizeEstimates (Schema.applySizes_eq_ok hs)
  rw [calculate_of_applySizes hp hs hr]
  cases he : schema.estimate? rows with
  | some e => rw [Schema.eq_of_estimate? he]; exact .inl rfl
  | none =>
    refine .inr ⟨rfl, ?_⟩
    apply Classical.byContradiction
    intro hc
    simp only [not_or, not_and, Classical.not_not] at hc
    obtain ⟨htotal, hrow, hk⟩ := hc
    have hP := sumSizes_nonneg hsound.partition_nonneg
    have hC := sumSizes_nonneg hsound.clustering_nonneg
    have hN := sumSizes_nonneg hsound.nonKey_nonneg
    have hrows := hsound.rowBytes_nonneg hr
    have hcells := hsound.rowCells_nonneg hk hr
    have hB := schema.byteTotal_eq rows
    have hfound := Schema.estimate?_eq_some hsound hk hr
      (show InRange64 (schema.byteTotal rows) by unfold InRange64; omega)
      (fun h0 => by have := hrow h0; unfold InRange64; omega)
    rw [he] at hfound
    cases hfound

/-- A static column, and a clustering column whose size is given twice: the last one counts. -/
theorem calculate_exact_of_repeated_size :
    Schema.parse "CREATE TABLE t(k int, s text STATIC, v blob, PRIMARY KEY ((k), v));" =
        .ok ⟨"t", [⟨"k", ⟨"int"⟩, false, none⟩, ⟨"s", ⟨"text"⟩, true, none⟩,
            ⟨"v", ⟨"blob"⟩, false, none⟩],
          ⟨[⟨"k", ⟨"int"⟩, false, none⟩], [⟨"v", ⟨"blob"⟩, false, none⟩]⟩⟩ ∧
      calculate "CREATE TABLE t(k int, s text STATIC, v blob, PRIMARY KEY ((k), v));" 3
          [("v", 100), ("v", 7)] =
        .ok ⟨⟨"t", [⟨"k", ⟨"int"⟩, false, none⟩, ⟨"s", ⟨"text"⟩, true, none⟩,
            ⟨"v", ⟨"blob"⟩, false, some 7⟩],
          ⟨[⟨"k", ⟨"int"⟩, false, none⟩], [⟨"v", ⟨"blob"⟩, false, some 7⟩]⟩⟩, ⟨1, 64⟩⟩ := by
  have hp : Schema.parse "CREATE TABLE t(k int, s text STATIC, v blob, PRIMARY KEY ((k), v));" =
      .ok ⟨"t", [⟨"k", ⟨"int"⟩, false, none⟩, ⟨"s", ⟨"text"⟩, true, none⟩,
          ⟨"v", ⟨"blob"⟩, false, none⟩],
        ⟨[⟨"k", ⟨"int"⟩, false, none⟩], [⟨"v", ⟨"blob"⟩, false, none⟩]⟩⟩ := by decide +kernel
  have hs : Schema.applySizes ⟨"t", [⟨"k", ⟨"int"⟩, false, none⟩, ⟨"s", ⟨"text"⟩, true, none⟩,
          ⟨"v", ⟨"blob"⟩, false, none⟩],
        ⟨[⟨"k", ⟨"int"⟩, false, none⟩], [⟨"v", ⟨"blob"⟩, false, none⟩]⟩⟩ [("v", 100), ("v", 7)] =
      .ok ⟨"t", [⟨"k", ⟨"int"⟩, false, none⟩, ⟨"s", ⟨"text"⟩, true, none⟩,
          ⟨"v", ⟨"blob"⟩, false, some 7⟩],
        ⟨[⟨"k", ⟨"int"⟩, false, none⟩], [⟨"v", ⟨"blob"⟩, false, some 7⟩]⟩⟩ := by decide +kernel
  refine ⟨hp, ?_⟩
  rcases calculate_exact hp hs (show (0 : Int) ≤ 3 by decide) with he | ⟨-, hover⟩
  · rw [he]
    decide +kernel
  · exact absurd hover (by decide +kernel)

/-- **Estimates that are not negative.** Where the key repeats no column, neither number is below
zero. In general both are so exactly when the cells that the rows lack are no more than the static
ones. -/
theorem nonneg_of_calculate {text : String} {rows : Int} {sizes : List (String × Int)}
    {c : Calculation} (h : calculate text rows sizes = .ok c) :
    (c.schema.primaryKey.NoRepeats → 0 ≤ c.estimation.values ∧ 0 ≤ c.estimation.bytes) ∧
      (0 ≤ c.estimation.values ∧ 0 ≤ c.estimation.bytes ↔
        rows * (c.schema.primaryKey.size + c.schema.staticColumns.length -
          c.schema.columns.length) ≤ c.schema.staticColumns.length) := by
  obtain ⟨hr, hs, he⟩ := stages_of_calculate h
  rw [Schema.eq_of_estimate? he]
  have hP := sumSizes_nonneg hs.partition_nonneg
  have hC := sumSizes_nonneg hs.clustering_nonneg
  have hrows := hs.rowBytes_nonneg hr
  have hB := c.schema.byteTotal_eq rows
  have hV : c.schema.cellCount rows =
      rows * c.schema.cellsPerRow + c.schema.staticColumns.length := rfl
  have hlack : rows * (c.schema.primaryKey.size + c.schema.staticColumns.length -
      c.schema.columns.length : Int) = -(rows * c.schema.cellsPerRow) := by
    rw [← Int.mul_neg]
    congr 1
    unfold Schema.cellsPerRow
    omega
  dsimp only
  constructor
  · intro hk
    have hcells := hs.rowCells_nonneg hk hr
    omega
  · rw [hlack]
    omega

/-- A key of two columns beside a static one. -/
theorem nonneg_of_calculate_with_static :
    (calculate "CREATE TABLE t(k int, s text STATIC, v blob, PRIMARY KEY (k, v));" 3 [("v", 7)] =
        .ok ⟨⟨"t", [⟨"k", ⟨"int"⟩, false, none⟩, ⟨"s", ⟨"text"⟩, true, none⟩,
            ⟨"v", ⟨"blob"⟩, false, some 7⟩],
          ⟨[⟨"k", ⟨"int"⟩, false, none⟩], [⟨"v", ⟨"blob"⟩, false, some 7⟩]⟩⟩, ⟨1, 64⟩⟩) ∧
      (0 : Int) ≤ 1 ∧ (0 : Int) ≤ 64 := by
  have h : calculate "CREATE TABLE t(k int, s text STATIC, v blob, PRIMARY KEY (k, v));" 3
      [("v", 7)] = .ok ⟨⟨"t", [⟨"k", ⟨"int"⟩, false, none⟩, ⟨"s", ⟨"text"⟩, true, none⟩,
          ⟨"v", ⟨"blob"⟩, false, some 7⟩],
        ⟨[⟨"k", ⟨"int"⟩, false, none⟩], [⟨"v", ⟨"blob"⟩, false, some 7⟩]⟩⟩, ⟨1, 64⟩⟩ := by
    decide +kernel
  exact ⟨h, (nonneg_of_calculate h).1 (by decide)⟩

/-- A key may repeat a column, and then more cells may be taken away than there are. -/
theorem not_forall_nonneg_of_calculate :
    ¬ ∀ (text : String) (rows : Int) (sizes : List (String × Int)) (c : Calculation), 0 ≤ rows →
      calculate text rows sizes = .ok c → 0 ≤ c.estimation.values ∧ 0 ≤ c.estimation.bytes := by
  intro hall
  have h : calculate "CREATE TABLE t(a text, PRIMARY KEY (a, a, a));" 1 [] =
      .ok ⟨⟨"t", [⟨"a", ⟨"text"⟩, false, none⟩], ⟨[⟨"a", ⟨"text"⟩, false, none⟩],
        [⟨"a", ⟨"text"⟩, false, none⟩, ⟨"a", ⟨"text"⟩, false, none⟩]⟩⟩, ⟨-2, -8⟩⟩ := by
    decide +kernel
  have hneg := (hall _ _ _ _ (by decide) h).1
  revert hneg
  decide

end PartitionSize
