import PartitionSize.Proofs.Command.Evaluate
import PartitionSize.Proofs.Report.Table

/-!
# How the command `evaluate` ends

Row counts and byte sizes carry their range with them, however they were read, so the numbers that
the command hands on are between zero and the largest of 63 bits (`rows_between`, `sizes_between`).
The checks of a calculation for numbers below zero are then never the ones that fail.

* **Errors** (`EvaluateCommand.Fails`): one constructor for each failure, with its cause in the file,
  the sizes or the estimate. A run ends with an error exactly if the list says so
  (`result_run_eq_error_iff`).
* **Texts and none** (`EvaluateCommand.Ends`): a run that gets to an estimate prints it as JSON, or
  as a table if no column is too wide for one. With a column that is too wide, it ends without a
  text and without an error. There is no other end (`result_run_eq_iff`).

So it is not true that every run ends with a text or an error (`not_forall_text_or_error`).
-/

namespace PartitionSize

open Text

namespace EvaluateCommand

/-! ## The range of the inputs -/

theorem rows_between (inputs : Inputs) (settings : Settings) :
    0 ≤ rows inputs settings ∧ rows inputs settings < Number.signedBound :=
  ⟨rows_nonneg inputs settings, Int.ofNat_lt.2 (inputs.rows.getD settings.estimate.rows).count_lt⟩

theorem sizes_between (inputs : Inputs) (settings : Settings) :
    ∀ entry ∈ sizes inputs settings, 0 ≤ entry.2 ∧ entry.2 < Number.signedBound := by
  have hbetween : ∀ b : ByteSize, 0 ≤ (b.bytes : Int) ∧ (b.bytes : Int) < Number.signedBound :=
    fun b => ⟨Int.natCast_nonneg _, Int.ofNat_lt.2 b.bytes_lt⟩
  intro entry hm
  rcases List.mem_append.1 hm with hm | hm
  · obtain ⟨p, -, rfl⟩ := List.mem_map.1 hm
    exact hbetween p.2
  · obtain ⟨o, -, rfl⟩ := List.mem_map.1 hm
    exact hbetween o.size

end EvaluateCommand

/-! ## The size that is refused -/

namespace Schema

/-- The first declared column of that name is of variable size. -/
def TakesSize (s : Schema) (name : String) : Prop :=
  ∃ c, s.column? name = some c ∧ c.dataType.isFixedSize = false

/-- The list gives a size to this name, and before it only to names that can take one. -/
def Reaches (s : Schema) (sizes : List (String × Int)) (name : String) : Prop :=
  ∃ before size behind, sizes = before ++ (name, size) :: behind ∧
    ∀ entry ∈ before, s.TakesSize entry.1

theorem refusal?_eq_some_iff (s : Schema) (name : String) (cause : SizeEstimateError) :
    s.refusal? name = some cause ↔
      s.column? name = none ∧ cause = .unknownColumn name ∨
      ∃ c, s.column? name = some c ∧ c.dataType.isFixedSize = true ∧
        cause = .fixedSizeColumn name c.dataType.name := by
  unfold refusal?
  constructor
  · intro h
    split at h
    · next hc =>
      cases h
      exact .inl ⟨hc, rfl⟩
    · next c hc =>
      split at h
      · next hfixed =>
        cases h
        exact .inr ⟨c, hc, hfixed, rfl⟩
      · cases h
  · rintro (⟨hc, rfl⟩ | ⟨c, hc, hfixed, rfl⟩)
    · rw [hc]
    · rw [hc]
      exact if_pos hfixed

theorem firstRefusal?_eq_none_iff (s : Schema) (sizes : List (String × Int)) :
    s.firstRefusal? sizes = none ↔ ∀ entry ∈ sizes, s.TakesSize entry.1 := by
  unfold firstRefusal?
  rw [List.findSome?_eq_none_iff]
  simp only [Option.map_eq_none_iff, refusal?_eq_none_iff, TakesSize]

theorem firstRefusal?_eq_some_iff (s : Schema) (sizes : List (String × Int)) (name : String)
    (cause : SizeEstimateError) :
    s.firstRefusal? sizes = some (name, cause) ↔
      s.Reaches sizes name ∧ s.refusal? name = some cause := by
  unfold firstRefusal?
  rw [List.findSome?_eq_some_iff]
  simp only [Option.map_eq_none_iff, Option.map_eq_some_iff, refusal?_eq_none_iff]
  constructor
  · rintro ⟨before, ⟨name', size⟩, behind, rfl, ⟨cause', hcause, heq⟩, hbefore⟩
    cases heq
    exact ⟨⟨before, size, behind, rfl, hbefore⟩, hcause⟩
  · rintro ⟨⟨before, size, behind, rfl, hbefore⟩, hcause⟩
    exact ⟨before, (name, size), behind, rfl, ⟨cause, hcause, rfl⟩, hbefore⟩

end Schema

/-! ## The failures -/

namespace EvaluateCommand

/-- How a run on a file with the given contents fails. -/
inductive Fails (inputs : Inputs) (settings : Settings) :
    Except FileError String → Error → Prop where
  | unreadable {e} : Fails inputs settings (.error e) (.unreadable inputs.file e)
  | statement {input cause} : Schema.parse input = .error cause →
      Fails inputs settings (.ok input) (.calculation inputs.file (.statement cause))
  | unknownColumn {input parsed name} : Schema.parse input = .ok parsed →
      parsed.Reaches (sizes inputs settings) name → parsed.column? name = none →
      Fails inputs settings (.ok input)
        (.calculation inputs.file (.sizeEstimate name (.unknownColumn name)))
  | fixedSizeColumn {input parsed name c} : Schema.parse input = .ok parsed →
      parsed.Reaches (sizes inputs settings) name → parsed.column? name = some c →
      c.dataType.isFixedSize = true →
      Fails inputs settings (.ok input)
        (.calculation inputs.file (.sizeEstimate name (.fixedSizeColumn name c.dataType.name)))
  | overflow {input parsed} : Schema.parse input = .ok parsed →
      (∀ entry ∈ sizes inputs settings, parsed.TakesSize entry.1) →
      (sized inputs settings parsed).estimate? (rows inputs settings) = none →
      Fails inputs settings (.ok input)
        (.calculation inputs.file (.overflow parsed.tableName (rows inputs settings)))

theorem calculation_of_refused {inputs : Inputs} {settings : Settings} {input name : String}
    {parsed : Schema} {cause : SizeEstimateError} (hp : Schema.parse input = .ok parsed)
    (hreach : parsed.Reaches (sizes inputs settings) name)
    (hcause : parsed.refusal? name = some cause) :
    calculation inputs settings input = .error (.sizeEstimate name cause) :=
  (calculation_eq_sizeEstimate_iff hp inputs settings name cause).2
    ((parsed.firstRefusal?_eq_some_iff _ _ _).2 ⟨hreach, hcause⟩)

/-- Every failure of a calculation is on the list. -/
theorem fails_of_calculation {inputs : Inputs} {settings : Settings} {input : String}
    {e : CalculationError} (h : calculation inputs settings input = .error e) :
    Fails inputs settings (.ok input) (.calculation inputs.file e) := by
  cases hp : Schema.parse input with
  | error cause =>
    unfold calculation calculate at h
    rw [if_neg (Int.not_lt.2 (rows_between inputs settings).1), hp] at h
    cases h
    exact .statement hp
  | ok parsed =>
    rw [calculation_of_parse hp] at h
    split at h
    · next name cause hf =>
      cases h
      obtain ⟨hreach, hcause⟩ := (parsed.firstRefusal?_eq_some_iff _ _ _).1 hf
      obtain ⟨hnone, rfl⟩ | ⟨c, hc, hfixed, rfl⟩ := (parsed.refusal?_eq_some_iff _ _).1 hcause
      · exact .unknownColumn hp hreach hnone
      · exact .fixedSizeColumn hp hreach hc hfixed
    · next hf =>
      split at h
      · next hnone =>
        cases h
        exact .overflow hp ((parsed.firstRefusal?_eq_none_iff _).1 hf) hnone
      · cases h

theorem calculation_of_fails {inputs : Inputs} {settings : Settings} {input path : String}
    {e : CalculationError} (h : Fails inputs settings (.ok input) (.calculation path e)) :
    calculation inputs settings input = .error e := by
  cases h with
  | statement hp =>
    unfold calculation calculate
    rw [if_neg (Int.not_lt.2 (rows_between inputs settings).1), hp]
  | unknownColumn hp hreach hnone =>
    exact calculation_of_refused hp hreach ((Schema.refusal?_eq_some_iff ..).2 (.inl ⟨hnone, rfl⟩))
  | fixedSizeColumn hp hreach hc hfixed =>
    exact calculation_of_refused hp hreach
      ((Schema.refusal?_eq_some_iff ..).2 (.inr ⟨_, hc, hfixed, rfl⟩))
  | @overflow _ parsed hp htakes hnone =>
    rw [calculation_of_parse hp, (parsed.firstRefusal?_eq_none_iff _).2 htakes]
    dsimp only
    rw [hnone]

theorem result_run_eq_error_iff (inputs : Inputs) (settings : Settings)
    (contents : Except FileError String) (e : Error) :
    (run inputs settings contents).result = .error e ↔ Fails inputs settings contents e := by
  cases contents with
  | error e' =>
    constructor
    · rintro ⟨⟩
      exact .unreadable
    · rintro ⟨⟩
      rfl
  | ok input =>
    rw [result_run]
    constructor
    · intro h
      split at h
      · next hc =>
        cases h
        exact fails_of_calculation hc
      · cases h
    · intro h
      obtain ⟨cause, rfl⟩ : ∃ cause, e = .calculation inputs.file cause := by
        cases h <;> exact ⟨_, rfl⟩
      rw [calculation_of_fails h]

end EvaluateCommand

/-- The names of the types of a fixed width are short. -/
theorem DataType.fixedWidth?_of_long {t : DataType} (h : 9 < t.name.toList.length) :
    t.fixedWidth? = none := by
  have hshort : ∀ p ∈ fixedWidths, p.1.toList.length ≤ 9 := by decide
  unfold fixedWidth?
  rw [List.lookup_eq_none_iff]
  intro p hp
  rw [bne_iff_ne]
  intro heq
  have hlength : t.name.toLower.toList.length = t.name.toList.length := by
    change (t.name.map Char.toLower).toList.length = _
    rw [String.toList_map, List.length_map]
  have hle := hshort p hp
  rw [← heq, hlength] at hle
  exact absurd h (Nat.not_lt.2 hle)

namespace EvaluateCommand

/-! ## Every end -/

/-- A run on a text gets to an estimate: the text is a statement, every name with a size can take
one, and the numbers fit. -/
inductive Estimates (inputs : Inputs) (settings : Settings) : String → Calculation → Prop where
  | intro {input parsed estimation} : Schema.parse input = .ok parsed →
      (∀ entry ∈ sizes inputs settings, parsed.TakesSize entry.1) →
      (sized inputs settings parsed).estimate? (rows inputs settings) = some estimation →
      Estimates inputs settings input { schema := sized inputs settings parsed, estimation }

/-- How a run on a file with the given contents ends: with an error, with a text, or with neither,
for a table that is too wide cannot be printed and the program stops at that. -/
inductive Ends (inputs : Inputs) (settings : Settings) :
    Except FileError String → Except Error (Option String) → Prop where
  | fails {contents e} : Fails inputs settings contents e →
      Ends inputs settings contents (.error e)
  | json {input c} : Estimates inputs settings input c → inputs.format = .json →
      Ends inputs settings (.ok input)
        (.ok (some (c.toJson (rows inputs settings)).sorted.pretty))
  | table {input c} : Estimates inputs settings input c → inputs.format = .plain →
      c.schema.FitsTable →
      Ends inputs settings (.ok input)
        (.ok (some (c.schema.render ++ "\n" ++ c.estimation.render (rows inputs settings))))
  | tooWide {input c} : Estimates inputs settings input c → inputs.format = .plain →
      ¬c.schema.FitsTable → Ends inputs settings (.ok input) (.ok none)

theorem calculation_eq_ok_iff_estimates (inputs : Inputs) (settings : Settings) (input : String)
    (c : Calculation) :
    calculation inputs settings input = .ok c ↔ Estimates inputs settings input c := by
  rw [calculation_eq_ok_iff]
  constructor
  · rintro ⟨parsed, estimation, hp, hf, he, rfl⟩
    exact .intro hp ((parsed.firstRefusal?_eq_none_iff _).1 hf) he
  · rintro ⟨hp, htakes, he⟩
    exact ⟨_, _, hp, (Schema.firstRefusal?_eq_none_iff _ _).2 htakes, he, rfl⟩

theorem result_run_of_estimates {inputs : Inputs} {settings : Settings} {input : String}
    {c : Calculation} (h : Estimates inputs settings input c) :
    (run inputs settings (.ok input)).result =
      .ok (text inputs.format (rows inputs settings) c) := by
  rw [result_run, (calculation_eq_ok_iff_estimates ..).2 h]

/-- A table that does not fit is no text. -/
theorem text_plain (rows : Int) (c : Calculation) :
    text .plain rows c =
      if c.schema.FitsTable then some (c.schema.render ++ "\n" ++ c.estimation.render rows)
      else none := by
  change c.schema.render?.map (fun table => table ++ "\n" ++ c.estimation.render rows) = _
  rw [Schema.render?_eq]
  split
  · rfl
  · rfl

/-- Every run ends in a way that is listed. -/
theorem ends_run (inputs : Inputs) (settings : Settings) (contents : Except FileError String) :
    Ends inputs settings contents (run inputs settings contents).result := by
  cases hr : (run inputs settings contents).result with
  | error e => exact .fails ((result_run_eq_error_iff ..).1 hr)
  | ok output =>
    cases contents with
    | error e => cases hr
    | ok input =>
      obtain ⟨c, hc, rfl⟩ := (result_run_eq_ok_iff ..).1 hr
      have hestimates := (calculation_eq_ok_iff_estimates ..).1 hc
      cases hformat : inputs.format with
      | json => exact .json hestimates hformat
      | plain =>
        rw [text_plain]
        by_cases hfits : c.schema.FitsTable
        · rw [if_pos hfits]
          exact .table hestimates hformat hfits
        · rw [if_neg hfits]
          exact .tooWide hestimates hformat hfits

theorem result_run_of_ends {inputs : Inputs} {settings : Settings}
    {contents : Except FileError String} {r : Except Error (Option String)}
    (h : Ends inputs settings contents r) : (run inputs settings contents).result = r := by
  cases h with
  | fails h => exact (result_run_eq_error_iff ..).2 h
  | json h hformat => rw [result_run_of_estimates h, hformat, text]
  | table h hformat hfits => rw [result_run_of_estimates h, hformat, text_plain, if_pos hfits]
  | tooWide h hformat hwide => rw [result_run_of_estimates h, hformat, text_plain, if_neg hwide]

theorem result_run_eq_iff (inputs : Inputs) (settings : Settings)
    (contents : Except FileError String) (r : Except Error (Option String)) :
    (run inputs settings contents).result = r ↔ Ends inputs settings contents r :=
  ⟨fun h => h ▸ ends_run inputs settings contents, result_run_of_ends⟩

/-- A statement with a type of that many letters can be estimated: it has no key, and one cell in
each row. -/
theorem estimates_replicate {n : Nat} (h : maxWidth < n) (format : OutputFormat) :
    let name := String.ofList (List.replicate n 'a')
    Estimates { file := "a.cql", format } {} ("CREATE TABLE t(x " ++ name ++ ");")
      ⟨⟨"t", [⟨"x", ⟨name⟩, false, none⟩], {}⟩, ⟨1, 16⟩⟩ := by
  intro name
  let s : Schema := ⟨"t", [⟨"x", ⟨name⟩, false, none⟩], {}⟩
  have hparse : Schema.parse ("CREATE TABLE t(x " ++ name ++ ");") = .ok s :=
    (Schema.render?_replicate h).1
  have hsize : Column.size ⟨"x", ⟨name⟩, false, none⟩ = 0 := by
    have hlong : 9 < (DataType.mk name).name.toList.length := by
      rw [String.toList_ofList, List.length_replicate]
      exact Nat.lt_trans (by decide) h
    unfold Column.size
    rw [DataType.fixedWidth?_of_long hlong]
    rfl
  have hnonKey : sumSizes s.nonKeyColumns = 0 := by
    change Column.size ⟨"x", ⟨name⟩, false, none⟩ + 0 = 0
    rw [hsize]
    rfl
  have hbytes : s.byteTotal 1 = 16 := by
    rw [Schema.byteTotal_eq, hnonKey]
    rfl
  have hestimate : s.estimate? 1 = some ⟨s.cellCount 1, s.byteTotal 1⟩ := by
    refine Schema.estimate?_eq_some (Schema.sound_of_parse hparse) .nil (by decide) ?_ nofun
    rw [hbytes]
    decide
  rw [hbytes] at hestimate
  exact .intro hparse (fun _ hm => absurd hm List.not_mem_nil) hestimate

/-- **Every end of a run.** The numbers of rows and of bytes are in range, whatever text or setting
they come from. A run ends as is listed and in no other way: with a text, with one of the errors, or
with neither. The last is so exactly if there is an estimate, a table is asked for, and a column has
a name or a type of more than 65535 bytes. No run ends for a number of rows below zero, or for a
size below zero. -/
theorem every_end_of_run (inputs : Inputs) (settings : Settings)
    (contents : Except FileError String) :
    (0 ≤ rows inputs settings ∧ rows inputs settings < Number.signedBound) ∧
    (∀ entry ∈ sizes inputs settings, 0 ≤ entry.2 ∧ entry.2 < Number.signedBound) ∧
    (∀ r, (run inputs settings contents).result = r ↔ Ends inputs settings contents r) ∧
    (∀ e, (run inputs settings contents).result = .error e ↔ Fails inputs settings contents e) ∧
    (∀ path n, (run inputs settings contents).result ≠
      .error (.calculation path (.negativeRows n))) ∧
    ∀ path name column size, (run inputs settings contents).result ≠
      .error (.calculation path (.sizeEstimate name (.negativeSize column size))) := by
  have hiff := result_run_eq_error_iff inputs settings contents
  refine ⟨rows_between inputs settings, sizes_between inputs settings,
    result_run_eq_iff inputs settings contents, hiff, ?_, ?_⟩
  · intro path n h
    cases (hiff _).1 h
  · intro path name column size h
    cases (hiff _).1 h

/-- A run on a statement that can be estimated ends without a text and without an error: the type of
its column has 65536 letters. As JSON the same estimate is printed. -/
theorem not_forall_text_or_error :
    let name := String.ofList (List.replicate 65536 'a')
    let statement := "CREATE TABLE t(x " ++ name ++ ");"
    let c : Calculation := ⟨⟨"t", [⟨"x", ⟨name⟩, false, none⟩], {}⟩, ⟨1, 16⟩⟩
    (run { file := "a.cql" } {} (.ok statement)).result = .ok none ∧
      (run { file := "a.cql", format := .json } {} (.ok statement)).result =
        .ok (some (c.toJson 1).sorted.pretty) ∧
      ¬∀ (inputs : Inputs) (settings : Settings) (contents : Except FileError String),
        (∃ text, (run inputs settings contents).result = .ok (some text)) ∨
          ∃ e, (run inputs settings contents).result = .error e := by
  intro name statement c
  have hlong : maxWidth < 65536 := by decide
  have hwide : ¬c.schema.FitsTable := by
    intro hfits
    have hnone := (Schema.render?_replicate hlong).2
    rw [Schema.render?_eq, if_pos hfits] at hnone
    cases hnone
  have hplain : (run { file := "a.cql" } {} (.ok statement)).result = .ok none :=
    result_run_of_ends (.tooWide (estimates_replicate hlong .plain) rfl hwide)
  have hjson := result_run_of_ends (.json (estimates_replicate hlong .json) rfl)
  refine ⟨hplain, hjson, fun hall => ?_⟩
  obtain ⟨text, h⟩ | ⟨e, h⟩ := hall { file := "a.cql" } {} (.ok statement)
  · rw [hplain] at h
    cases h
  · rw [hplain] at h
    cases h

/-- The largest number of rows is accepted, and then the estimate does not fit. -/
example : (run { file := "t.cql", rows := some ⟨9223372036854775807, by decide⟩ } {}
    (.ok "CREATE TABLE t(k int, c int, v int, PRIMARY KEY(k, c));")).result =
      .error (.calculation "t.cql" (.overflow "t" 9223372036854775807)) := by
  decide +kernel

end EvaluateCommand

end PartitionSize
