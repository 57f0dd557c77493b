import PartitionSize.Proofs.Command.Evaluate

/-!
# What the command `evaluate` warns of

A column that counts as zero bytes for want of a size is warned about, and no other one is.

* **Columns without a size** (`lacksEstimate_sized_iff`): a column of the calculation lacks an
  estimate exactly if it is of variable size and neither the settings nor the command line names it.
* **Events** (`filter_events_run`): among the events of a run, the warnings are those about the
  calculated schema.
* **No silence** (`warnings_of_run`): a warning gives the name and the type of its column. The
  warnings look at the declared columns only, but the key holds copies of these, so no column of the
  three lists counts as zero bytes without a warning.
-/

namespace PartitionSize.EvaluateCommand

/-! ## Columns without a size -/

theorem size?_eq_none_iff (inputs : Inputs) (settings : Settings) (name : String) :
    size? inputs settings name = none ↔
      name ∉ settings.estimate.sizes.map (·.1) ∧ name ∉ inputs.sizes.map (·.column) := by
  unfold size?
  rw [Option.or_eq_none_iff, Settings.lookup_sizeEstimates, Option.map_eq_none_iff]
  have hinputs : (inputs.sizes.map SizeOverride.toPair).reverse.lookup name = none ↔
      name ∉ (inputs.sizes.map SizeOverride.toPair).map (·.1) := lastSize?_eq_none_iff _ name
  have hsettings : settings.estimate.sizes.reverse.lookup name = none ↔
      name ∉ settings.estimate.sizes.map (·.1) := by
    rw [List.lookup_eq_none_iff]
    simp only [List.mem_reverse, List.mem_map, not_exists, not_and, bne_iff_ne]
    exact ⟨fun h p hp heq => h p hp heq.symm, fun h p hp heq => h p hp heq.symm⟩
  rw [hinputs, hsettings, List.map_map, and_comm]
  rfl

theorem lacksEstimate_sized_iff (inputs : Inputs) (settings : Settings) (c : Column) :
    (c.sized (size? inputs settings)).lacksEstimate = true ↔
      c.dataType.isFixedSize = false ∧ c.name ∉ settings.estimate.sizes.map (·.1) ∧
        c.name ∉ inputs.sizes.map (·.column) := by
  unfold Column.lacksEstimate Column.sized
  rw [Bool.and_eq_true, Option.isNone_iff_eq_none, size?_eq_none_iff, Bool.not_eq_true']

/-- The warnings about a schema with the given sizes. -/
theorem warnings_sized (inputs : Inputs) (settings : Settings) (parsed : Schema) :
    warnings (sized inputs settings parsed) =
      (parsed.columns.filter fun c => c.dataType.isFixedSize = false ∧
        c.name ∉ settings.estimate.sizes.map (·.1) ∧
          c.name ∉ inputs.sizes.map (·.column)).map warning := by
  have hsame : warning ∘ Column.sized (size? inputs settings) = warning := rfl
  unfold warnings sized Schema.mapColumns
  rw [List.filter_map, List.map_map, hsame]
  congr 1
  refine List.filter_congr fun c _ => ?_
  rw [Bool.eq_iff_iff, decide_eq_true_iff]
  exact lacksEstimate_sized_iff inputs settings c

/-! ## Events -/

theorem filter_events_run {inputs : Inputs} {settings : Settings} {input : String}
    {c : Calculation} (h : calculation inputs settings input = .ok c) :
    (run inputs settings (.ok input)).events.filter (·.level = .warn) = warnings c.schema := by
  have hevents : (run inputs settings (.ok input)).events =
      [merging inputs settings, evaluating inputs settings] ++
        (warnings c.schema ++ [complete c]) := by
    unfold run
    dsimp only
    rw [h]
    rfl
  have hall : ∀ e ∈ warnings c.schema, decide (e.level = .warn) = true := by
    intro e he
    obtain ⟨c, -, rfl⟩ := List.mem_map.1 he
    rfl
  have hothers : [merging inputs settings, evaluating inputs settings].filter
      (fun e => decide (e.level = .warn)) = [] := rfl
  have hlast : [complete c].filter (fun e => decide (e.level = .warn)) = [] := rfl
  rw [hevents, List.filter_append, List.filter_append, hothers, hlast, List.filter_eq_self.2 hall,
    List.append_nil, List.nil_append]

theorem sized_of_no_warnings {s : Schema} (hs : s.Sound) (h : warnings s = []) :
    ∀ c ∈ s.columns ++ (s.primaryKey.partition ++ s.primaryKey.clustering),
      c.dataType.isFixedSize = true ∨ c.sizeEstimate ≠ none := by
  have hcolumns : ∀ c ∈ s.columns, c.dataType.isFixedSize = true ∨ c.sizeEstimate ≠ none := by
    intro c hc
    have hlacks := List.filter_eq_nil_iff.1 (List.map_eq_nil_iff.1 h) c hc
    unfold Column.lacksEstimate at hlacks
    rw [Bool.and_eq_true, not_and_or, Bool.not_eq_true', Bool.not_eq_false,
      Option.isNone_iff_eq_none] at hlacks
    exact hlacks
  intro c hc
  rcases List.mem_append.1 hc with hc | hc
  · exact hcolumns c hc
  · exact hcolumns c (hs.key_mem c hc)

/-- **No column is silently counted as zero.** The warnings of a run that gets past its calculation
are one for each declared column, in declaration order, that is of variable size and has no size in
the settings or on the command line; each gives the name and the type of its column. If there is
none, every column of the three lists of the calculated schema has a fixed width or a size. -/
theorem warnings_of_run {inputs : Inputs} {settings : Settings} {input : String}
    {c : Calculation} (h : calculation inputs settings input = .ok c) :
    ∃ parsed unsized, Schema.parse input = .ok parsed ∧
      unsized = (parsed.columns.filter fun column => column.dataType.isFixedSize = false ∧
        column.name ∉ settings.estimate.sizes.map (·.1) ∧
          column.name ∉ inputs.sizes.map (·.column)) ∧
      (run inputs settings (.ok input)).events.filter (·.level = .warn) = unsized.map warning ∧
      ((run inputs settings (.ok input)).events.filter (·.level = .warn)).map (·.fields) =
        unsized.map (fun column =>
          [("column", .text column.name), ("data_type", .text column.dataType.name)]) ∧
      ((run inputs settings (.ok input)).events.filter (·.level = .warn) = [] →
        ∀ column ∈ c.schema.columns ++
            (c.schema.primaryKey.partition ++ c.schema.primaryKey.clustering),
          column.dataType.isFixedSize = true ∨ column.sizeEstimate ≠ none) := by
  obtain ⟨-, hsound, -⟩ := stages_of_calculate h
  rw [filter_events_run h]
  obtain ⟨parsed, estimation, hp, -, -, rfl⟩ := (calculation_eq_ok_iff ..).1 h
  have hwarnings := warnings_sized inputs settings parsed
  refine ⟨parsed, _, hp, rfl, hwarnings, ?_, sized_of_no_warnings hsound⟩
  rw [hwarnings, List.map_map]
  rfl

/-- The size on the command line is for both columns named `v`, so only `w` is warned about. -/
theorem warnings_of_run_repeated_name :
    let inputs : Inputs := { file := "t.cql", sizes := [⟨"v", ⟨7, by decide⟩⟩] }
    let input := "CREATE TABLE t(k int, v blob, v text, w text, PRIMARY KEY (k, v));"
    let v : Column := ⟨"v", ⟨"blob"⟩, false, some 7⟩
    calculation inputs {} input =
      .ok ⟨⟨"t", [⟨"k", ⟨"int"⟩, false, none⟩, v, ⟨"v", ⟨"text"⟩, false, some 7⟩,
        ⟨"w", ⟨"text"⟩, false, none⟩], ⟨[⟨"k", ⟨"int"⟩, false, none⟩], [v]⟩⟩, ⟨2, 42⟩⟩ ∧
    (run inputs {} (.ok input)).events.filter (·.level = .warn) =
      [warning ⟨"w", ⟨"text"⟩, false, none⟩] ∧
    ((run inputs {} (.ok input)).events.filter (·.level = .warn)).map (·.fields) =
      [[("column", .text "w"), ("data_type", .text "text")]] := by
  intro inputs input v
  have hc : calculation inputs {} input =
      .ok ⟨⟨"t", [⟨"k", ⟨"int"⟩, false, none⟩, v, ⟨"v", ⟨"text"⟩, false, some 7⟩,
        ⟨"w", ⟨"text"⟩, false, none⟩], ⟨[⟨"k", ⟨"int"⟩, false, none⟩], [v]⟩⟩, ⟨2, 42⟩⟩ := by
    decide +kernel
  have hparse : Schema.parse input =
      .ok ⟨"t", [⟨"k", ⟨"int"⟩, false, none⟩, ⟨"v", ⟨"blob"⟩, false, none⟩,
        ⟨"v", ⟨"text"⟩, false, none⟩, ⟨"w", ⟨"text"⟩, false, none⟩],
        ⟨[⟨"k", ⟨"int"⟩, false, none⟩], [⟨"v", ⟨"blob"⟩, false, none⟩]⟩⟩ := by
    decide +kernel
  obtain ⟨parsed, unsized, hp, hunsized, hwarnings, hfields, -⟩ := warnings_of_run hc
  rw [hparse] at hp
  cases hp
  have hw : unsized = [⟨"w", ⟨"text"⟩, false, none⟩] := by
    rw [hunsized]
    decide +kernel
  rw [hw] at hwarnings hfields
  exact ⟨hc, hwarnings, hfields⟩

end PartitionSize.EvaluateCommand
