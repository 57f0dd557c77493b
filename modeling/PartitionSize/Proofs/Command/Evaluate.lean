import PartitionSize.Command.Evaluate
import PartitionSize.Proofs.Estimation.Exact
import PartitionSize.Proofs.Schema.Sizes

/-!
# Sizes from the settings and from the command line

The command `evaluate` lists the sizes of the settings, in order of the columns, and behind them
those of the command line, as given. Since the last size for a name counts, the command line wins,
and since the settings name each column once, their order does not matter for what counts
(`lastSize?_sizes`).

* **Stages** (`calculation_of_parse`): on a statement, the calculation fails for the first entry of
  the two lists that is refused; else it estimates the schema in which each column carries its
  size (`EvaluateCommand.sized`).
* **Precedence** (`result_run_sizes`): the same of a whole run, and what it writes.
-/

namespace PartitionSize.EvaluateCommand

/-- The size for the columns of a name: the last one on the command line, else the one in the
settings. -/
def size? (inputs : Inputs) (settings : Settings) (name : String) : Option Int :=
  ((inputs.sizes.map SizeOverride.toPair).reverse.lookup name).or
    (settings.sizeEstimates.lookup name)

/-- The schema in which each column carries the size for its name, and no estimate without one. -/
def sized (inputs : Inputs) (settings : Settings) (parsed : Schema) : Schema :=
  parsed.mapColumns (Column.sized (size? inputs settings))

theorem lastSize?_sizes (inputs : Inputs) (settings : Settings) :
    lastSize? (sizes inputs settings) = size? inputs settings := by
  funext name
  unfold lastSize? sizes size?
  rw [List.reverse_append, List.lookup_append,
    lookup_reverse_of_pairwise settings.pairwise_sizeEstimates]

theorem sizes_nonneg (inputs : Inputs) (settings : Settings) :
    ∀ entry ∈ sizes inputs settings, 0 ≤ entry.2 := by
  intro entry hm
  unfold sizes Settings.sizeEstimates at hm
  rcases List.mem_append.1 hm with hm | hm
  · obtain ⟨p, -, rfl⟩ := List.mem_map.1 hm
    exact Int.natCast_nonneg _
  · obtain ⟨o, -, rfl⟩ := List.mem_map.1 hm
    exact Int.natCast_nonneg _

theorem rows_nonneg (inputs : Inputs) (settings : Settings) : 0 ≤ rows inputs settings :=
  Int.natCast_nonneg _

theorem applySizes_sizes {text : String} {parsed : Schema} (hp : Schema.parse text = .ok parsed)
    (inputs : Inputs) (settings : Settings) :
    parsed.applySizes (sizes inputs settings) =
      match parsed.firstRefusal? (sizes inputs settings) with
      | some (column, cause) => .error (.sizeEstimate column cause)
      | none => .ok (sized inputs settings parsed) := by
  have h := Schema.withSizeEstimates_of_bare (Schema.fresh_of_parse hp).bare_eq
    (sizes_nonneg inputs settings)
  unfold Schema.applySizes
  rw [h, lastSize?_sizes]
  cases parsed.firstRefusal? (sizes inputs settings) <;> rfl

/-- The settings give `v` a size, and the command line two more. -/
example : (Schema.parse "CREATE TABLE t(k int PRIMARY KEY, v blob);").toOption.bind
    (fun parsed => (parsed.applySizes (sizes
      { file := "t.cql", sizes := [⟨"v", ⟨7, by decide⟩⟩, ⟨"v", ⟨9, by decide⟩⟩] }
      { estimate := { sizes := [("v", ⟨3, by decide⟩)] } })).toOption) =
    some ⟨"t", [⟨"k", ⟨"int"⟩, false, none⟩, ⟨"v", ⟨"blob"⟩, false, some 9⟩],
      ⟨[⟨"k", ⟨"int"⟩, false, none⟩], []⟩⟩ := by decide +kernel

/-! ## The calculation -/

/-- **Stages**: on a statement, the first size that is refused, or the estimate. -/
theorem calculation_of_parse {input : String} {parsed : Schema}
    (hp : Schema.parse input = .ok parsed) (inputs : Inputs) (settings : Settings) :
    calculation inputs settings input =
      match parsed.firstRefusal? (sizes inputs settings) with
      | some (column, cause) => .error (.sizeEstimate column cause)
      | none =>
        match (sized inputs settings parsed).estimate? (rows inputs settings) with
        | none => .error (.overflow parsed.tableName (rows inputs settings))
        | some estimation => .ok { schema := sized inputs settings parsed, estimation } := by
  unfold calculation
  rw [calculate_of_parse hp (rows_nonneg inputs settings), applySizes_sizes hp]
  cases parsed.firstRefusal? (sizes inputs settings) <;> rfl

theorem calculation_eq_ok_iff (inputs : Inputs) (settings : Settings) (input : String)
    (c : Calculation) :
    calculation inputs settings input = .ok c ↔
      ∃ parsed estimation, Schema.parse input = .ok parsed ∧
        parsed.firstRefusal? (sizes inputs settings) = none ∧
        (sized inputs settings parsed).estimate? (rows inputs settings) = some estimation ∧
        c = { schema := sized inputs settings parsed, estimation } := by
  constructor
  · intro h
    obtain ⟨-, parsed, hp, hs, he⟩ := exists_applySizes_of_calculate h
    rw [applySizes_sizes hp] at hs
    split at hs
    · cases hs
    · next hf =>
      obtain ⟨schema, estimation⟩ := c
      cases hs
      exact ⟨parsed, estimation, hp, hf, he, rfl⟩
  · rintro ⟨parsed, estimation, hp, hf, he, rfl⟩
    rw [calculation_of_parse hp, hf]
    dsimp only
    rw [he]

theorem calculation_eq_sizeEstimate_iff {input : String} {parsed : Schema}
    (hp : Schema.parse input = .ok parsed) (inputs : Inputs) (settings : Settings)
    (column : String) (cause : SizeEstimateError) :
    calculation inputs settings input = .error (.sizeEstimate column cause) ↔
      parsed.firstRefusal? (sizes inputs settings) = some (column, cause) := by
  rw [calculation_of_parse hp]
  constructor
  · intro h
    split at h
    · next hf => cases h; exact hf
    · split at h <;> cases h
  · intro hf
    rw [hf]

/-! ## The command -/

theorem result_run (inputs : Inputs) (settings : Settings) (input : String) :
    (run inputs settings (.ok input)).result = match calculation inputs settings input with
      | .error e => .error (.calculation inputs.file e)
      | .ok c => .ok (text inputs.format (rows inputs settings) c) := by
  unfold run
  dsimp only
  cases calculation inputs settings input <;> rfl

theorem result_run_eq_ok_iff (inputs : Inputs) (settings : Settings) (input : String)
    (output : Option String) :
    (run inputs settings (.ok input)).result = .ok output ↔
      ∃ c, calculation inputs settings input = .ok c ∧
        output = text inputs.format (rows inputs settings) c := by
  rw [result_run]
  cases calculation inputs settings input with
  | error e => simp
  | ok c => simp [eq_comm]

theorem result_run_eq_calculation_iff (inputs : Inputs) (settings : Settings) (input : String)
    (e : CalculationError) :
    (run inputs settings (.ok input)).result = .error (.calculation inputs.file e) ↔
      calculation inputs settings input = .error e := by
  rw [result_run]
  cases calculation inputs settings input with
  | error e' => simp
  | ok c => simp

/-- **Precedence of sizes.** The settings list their sizes in strictly increasing order of the
columns, each the one that was given for it. A run ends without an error exactly when the file holds
a statement, no entry is refused and the estimate fits. What it calculates, and writes as a table or
as JSON, is the schema in which each column carries the last size of the command line for its name,
or else that of the settings, or else none; there is no text if the table is too wide to be printed.
On a statement, a run fails for a size exactly when some entry of the settings or of the command
line names no declared column, or one whose first declaration has a fixed size; the error is that of
the first such entry, those of the settings before those of the command line. -/
theorem result_run_sizes (inputs : Inputs) (settings : Settings) (input : String) :
    (settings.sizeEstimates.Pairwise (·.1 < ·.1) ∧
      ∀ name, settings.sizeEstimates.lookup name =
        (settings.estimate.sizes.reverse.lookup name).map fun size => (size.bytes : Int)) ∧
    (∀ output, (run inputs settings (.ok input)).result = .ok output ↔
      ∃ parsed estimation, Schema.parse input = .ok parsed ∧
        parsed.firstRefusal? (sizes inputs settings) = none ∧
        (sized inputs settings parsed).estimate? (rows inputs settings) = some estimation ∧
        let c : Calculation := { schema := sized inputs settings parsed, estimation }
        calculation inputs settings input = .ok c ∧
        output = match inputs.format with
          | .plain => c.schema.render?.map fun table =>
            table ++ "\n" ++ c.estimation.render (rows inputs settings)
          | .json => some (c.toJson (rows inputs settings)).sorted.pretty) ∧
    (∀ parsed, Schema.parse input = .ok parsed →
      ((∃ column cause, (run inputs settings (.ok input)).result =
          .error (.calculation inputs.file (.sizeEstimate column cause))) ↔
        ∃ entry ∈ settings.sizeEstimates ++ inputs.sizes.map SizeOverride.toPair,
          ∀ c, parsed.column? entry.1 = some c → c.dataType.isFixedSize = true) ∧
      (∀ column cause, (run inputs settings (.ok input)).result =
          .error (.calculation inputs.file (.sizeEstimate column cause)) ↔
        parsed.firstRefusal? (settings.sizeEstimates ++ inputs.sizes.map SizeOverride.toPair) =
          some (column, cause))) := by
  refine ⟨⟨settings.pairwise_sizeEstimates, settings.lookup_sizeEstimates⟩, fun output => ?_,
    fun parsed hp => ?_⟩
  · rw [result_run_eq_ok_iff]
    constructor
    · rintro ⟨c, hc, rfl⟩
      obtain ⟨parsed, estimation, hp, hf, he, rfl⟩ := (calculation_eq_ok_iff ..).1 hc
      exact ⟨parsed, estimation, hp, hf, he, hc, rfl⟩
    · rintro ⟨parsed, estimation, -, -, -, hc, rfl⟩
      exact ⟨_, hc, rfl⟩
  · have hsize : ∀ column cause, (run inputs settings (.ok input)).result =
          .error (.calculation inputs.file (.sizeEstimate column cause)) ↔
        parsed.firstRefusal? (sizes inputs settings) = some (column, cause) := by
      intro column cause
      rw [result_run_eq_calculation_iff, calculation_eq_sizeEstimate_iff hp]
    refine ⟨?_, hsize⟩
    rw [← Schema.isSome_firstRefusal?_iff]
    constructor
    · rintro ⟨column, cause, h⟩
      exact Option.isSome_iff_exists.2 ⟨_, (hsize column cause).1 h⟩
    · intro h
      obtain ⟨⟨column, cause⟩, hf⟩ := Option.isSome_iff_exists.1 h
      exact ⟨column, cause, (hsize column cause).2 hf⟩

/-- The sizes for `w` and `v` are fine, and `z` behind `k` is not reached. -/
theorem result_run_sizes_of_fixed_width :
    Schema.parse "CREATE TABLE t(k int PRIMARY KEY, v blob, w text);" =
        .ok ⟨"t", [⟨"k", ⟨"int"⟩, false, none⟩, ⟨"v", ⟨"blob"⟩, false, none⟩,
          ⟨"w", ⟨"text"⟩, false, none⟩], ⟨[⟨"k", ⟨"int"⟩, false, none⟩], []⟩⟩ ∧
      (run { file := "t.cql", sizes := [⟨"v", ⟨7, by decide⟩⟩, ⟨"k", ⟨4, by decide⟩⟩,
            ⟨"z", ⟨1, by decide⟩⟩] }
          { estimate := { sizes := [("w", ⟨3, by decide⟩)] } }
          (.ok "CREATE TABLE t(k int PRIMARY KEY, v blob, w text);")).result =
        .error (.calculation "t.cql" (.sizeEstimate "k" (.fixedSizeColumn "k" "int"))) := by
  have hp : Schema.parse "CREATE TABLE t(k int PRIMARY KEY, v blob, w text);" =
      .ok ⟨"t", [⟨"k", ⟨"int"⟩, false, none⟩, ⟨"v", ⟨"blob"⟩, false, none⟩,
        ⟨"w", ⟨"text"⟩, false, none⟩], ⟨[⟨"k", ⟨"int"⟩, false, none⟩], []⟩⟩ := by decide +kernel
  obtain ⟨-, -, h⟩ := result_run_sizes
    { file := "t.cql", sizes := [⟨"v", ⟨7, by decide⟩⟩, ⟨"k", ⟨4, by decide⟩⟩,
      ⟨"z", ⟨1, by decide⟩⟩] }
    { estimate := { sizes := [("w", ⟨3, by decide⟩)] } }
    "CREATE TABLE t(k int PRIMARY KEY, v blob, w text);"
  exact ⟨hp, ((h _ hp).2 _ _).2 (by decide +kernel)⟩

end PartitionSize.EvaluateCommand
