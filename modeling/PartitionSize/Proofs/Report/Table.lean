import PartitionSize.Command.Parse
import PartitionSize.Proofs.Schema.TypeNames
import PartitionSize.Report.SchemaText
import Mathlib.Order.Bounds.Basic

/-!
# The columns of a table line up

Names are padded by characters, to a width that is counted in bytes. A text has no more characters
than bytes, so every name fits in the width (`length_le_of_mem`), whatever its letters, and nothing
is cut: a line is made of the whole name, the whole type and the notes, of which the last two begin
at the same character in every line (`Column.Aligned`).

That is so in every table that is printed, and the ones that are not printed are the ones with a
name or a type of more than 65535 bytes (`Schema.render?_aligned`; `Schema.render?_eq` says the same
by columns). A statement can have such a type (`ParseCommand.not_forall_printed`).
-/

namespace PartitionSize

open Text

/-! ## Widths -/

theorem foldl_max_le_iff {ns : List Nat} {n m : Nat} :
    ns.foldl max n ≤ m ↔ n ≤ m ∧ ∀ k ∈ ns, k ≤ m := by
  induction ns generalizing n with
  | nil => simp
  | cons k ns ih => rw [List.foldl_cons, ih, Nat.max_le, List.forall_mem_cons, and_assoc]

theorem maxByteLength_le_iff {texts : List String} {n : Nat} :
    maxByteLength texts ≤ n ↔ ∀ s ∈ texts, byteLength s.toList ≤ n := by
  unfold maxByteLength
  rw [foldl_max_le_iff, List.forall_mem_map]
  exact and_iff_right (Nat.zero_le n)

theorem isLUB_maxByteLength (f : Column → String) (columns : List Column) :
    IsLUB {n | ∃ c ∈ columns, byteLength (f c).toList = n} (maxByteLength (columns.map f)) := by
  refine isLUB_iff_le_iff.2 fun n => ?_
  rw [maxByteLength_le_iff, List.forall_mem_map]
  constructor
  · rintro h _ ⟨c, hc, rfl⟩
    exact h c hc
  · exact fun h c hc => h ⟨c, hc, rfl⟩

/-- A text fits in a width that is at least its number of bytes. -/
theorem length_le_of_mem {texts : List String} {s : String} (h : s ∈ texts) :
    s.toList.length ≤ maxByteLength texts :=
  Nat.le_trans (length_le_byteLength _) (maxByteLength_le_iff.1 (Nat.le_refl _) s h)

/-! ## Lines -/

@[simp] theorem toList_spaces (n : Nat) : (spaces n).toList = List.replicate n ' ' :=
  String.toList_ofList

/-- In the line of a column the whole name takes up `nameWidth` characters and the whole type
`typeWidth`, with spaces behind them, and there are two spaces in front of the name, of the type and
of the notes. -/
structure Column.Aligned (k : PrimaryKey) (nameWidth typeWidth : Nat) (c : Column)
    (line : String) : Prop where
  parts : ∃ m n, c.name.toList.length + m = nameWidth ∧
    c.dataType.name.toList.length + n = typeWidth ∧
    line = "  " ++ (c.name ++ spaces m) ++ "  " ++ (c.dataType.name ++ spaces n) ++ "  " ++
      ", ".intercalate (c.notes k)
  type_start : c.dataType.name.toList <+: line.toList.drop (nameWidth + 4)
  notes_start : line.toList.drop (nameWidth + typeWidth + 6) =
    (", ".intercalate (c.notes k)).toList

theorem Column.aligned_line {k : PrimaryKey} {nameWidth typeWidth : Nat} {c : Column}
    (hname : c.name.toList.length ≤ nameWidth)
    (htype : c.dataType.name.toList.length ≤ typeWidth) :
    c.Aligned k nameWidth typeWidth (c.line k nameWidth typeWidth) := by
  obtain ⟨m, rfl⟩ := Nat.exists_eq_add_of_le hname
  obtain ⟨n, rfl⟩ := Nat.exists_eq_add_of_le htype
  have hline : c.line k (c.name.toList.length + m) (c.dataType.name.toList.length + n) =
      "  " ++ (c.name ++ spaces m) ++ "  " ++ (c.dataType.name ++ spaces n) ++ "  " ++
        ", ".intercalate (c.notes k) := by
    unfold line padRight
    rw [Nat.add_sub_cancel_left, Nat.add_sub_cancel_left]
  have hgap : "  ".toList.length = 2 := rfl
  have hfront : ("  " ++ (c.name ++ spaces m) ++ "  ").toList.length =
      c.name.toList.length + m + 4 := by
    simp only [String.toList_append, toList_spaces, List.length_append, List.length_replicate, hgap]
    omega
  have hboth : ("  " ++ (c.name ++ spaces m) ++ "  " ++ (c.dataType.name ++ spaces n) ++
      "  ").toList.length = c.name.toList.length + m + (c.dataType.name.toList.length + n) + 6 := by
    rw [String.toList_append, String.toList_append, List.length_append, List.length_append, hfront]
    simp only [String.toList_append, toList_spaces, List.length_append, List.length_replicate, hgap]
    omega
  refine ⟨⟨m, n, rfl, rfl, hline⟩, ?_, ?_⟩
  · rw [hline, String.append_assoc, String.append_assoc, String.toList_append,
      List.drop_left' hfront, String.append_assoc, String.toList_append]
    exact List.prefix_append _ _
  · rw [hline, String.toList_append]
    exact List.drop_left' hboth

/-! ## The table -/

namespace Schema

theorem aligned_line (s : Schema) {c : Column} (hc : c ∈ s.columns) :
    c.Aligned s.primaryKey s.nameWidth s.typeWidth
      (c.line s.primaryKey s.nameWidth s.typeWidth) :=
  Column.aligned_line (length_le_of_mem (List.mem_map_of_mem hc))
    (length_le_of_mem (List.mem_map_of_mem hc))

theorem aligned_columnLines (s : Schema) :
    List.Forall₂ (Column.Aligned s.primaryKey s.nameWidth s.typeWidth) s.columns s.columnLines := by
  unfold columnLines
  rw [List.forall₂_map_right_iff, List.forall₂_same]
  exact fun c hc => s.aligned_line hc

theorem render_eq (s : Schema) :
    s.render = "table " ++ s.tableName ++ "\ncolumns:\n" ++
      String.join (s.columnLines.map (· ++ "\n")) ++
      "partition key: " ++ nameList s.primaryKey.partition ++
      "\nclustering key: " ++ nameList s.primaryKey.clustering ++ "\n" := by
  unfold render lines
  apply String.toList_injective
  simp

theorem render?_eq_some_iff {s : Schema} {table : String} :
    s.render? = some table ↔
      (s.nameWidth ≤ maxWidth ∧ s.typeWidth ≤ maxWidth) ∧ s.render = table := by
  unfold render?
  rw [Option.ite_none_right_eq_some, Option.some_inj]

/-- No column has a name or a type of more bytes than a table can be padded to. -/
def FitsTable (s : Schema) : Prop :=
  ∀ c ∈ s.columns, byteLength c.name.toList ≤ 65535 ∧ byteLength c.dataType.name.toList ≤ 65535

theorem fitsTable_iff (s : Schema) :
    s.FitsTable ↔ s.nameWidth ≤ maxWidth ∧ s.typeWidth ≤ maxWidth := by
  unfold FitsTable nameWidth typeWidth
  rw [maxByteLength_le_iff, maxByteLength_le_iff, List.forall_mem_map, List.forall_mem_map]
  exact ⟨fun h => ⟨fun c hc => (h c hc).1, fun c hc => (h c hc).2⟩,
    fun h c hc => ⟨h.1 c hc, h.2 c hc⟩⟩

instance (s : Schema) : Decidable s.FitsTable := decidable_of_iff _ s.fitsTable_iff.symm

theorem render?_eq (s : Schema) : s.render? = if s.FitsTable then some s.render else none := by
  unfold render?
  exact if_congr s.fitsTable_iff.symm rfl rfl

/-- **The columns of a table line up and nothing is cut.** The widths are the largest numbers of
bytes in a name and in a type. A table of which neither is above 65535 is printed: each column, in
declaration order, has a line in which the name and the type take up as many characters as the
widths say. No other table is printed. -/
theorem render?_aligned (s : Schema) :
    ∃ nameWidth typeWidth lines,
      IsLUB {n | ∃ c ∈ s.columns, byteLength c.name.toList = n} nameWidth ∧
      IsLUB {n | ∃ c ∈ s.columns, byteLength c.dataType.name.toList = n} typeWidth ∧
      List.Forall₂ (Column.Aligned s.primaryKey nameWidth typeWidth) s.columns lines ∧
      s.render? =
        if nameWidth ≤ 65535 ∧ typeWidth ≤ 65535 then
          some ("table " ++ s.tableName ++ "\ncolumns:\n" ++ String.join (lines.map (· ++ "\n")) ++
            "partition key: " ++ nameList s.primaryKey.partition ++
            "\nclustering key: " ++ nameList s.primaryKey.clustering ++ "\n")
        else none := by
  refine ⟨s.nameWidth, s.typeWidth, s.columnLines, isLUB_maxByteLength _ _,
    isLUB_maxByteLength _ _, s.aligned_columnLines, ?_⟩
  rw [← render_eq]
  rfl

end Schema

/-! ## A type that is too long -/

theorem byteLength_replicate (n : Nat) : byteLength (List.replicate n 'a') = n := by
  induction n with
  | zero => rfl
  | succ n ih =>
    have hsize : Char.utf8Size 'a' = 1 := rfl
    rw [List.replicate_succ, byteLength_cons, ih, hsize, Nat.add_comm]

theorem typeName_replicate {n : Nat} (h : n ≠ 0) : TypeName (List.replicate n 'a') := by
  refine .plain ⟨fun h0 => h ((List.replicate_eq_nil_iff _).1 h0), ?_, ?_⟩
  · intro c hc
    rw [List.eq_of_mem_replicate (List.mem_of_mem_head? hc)]
    rfl
  · intro c hc
    rw [List.eq_of_mem_replicate hc]
    rfl

theorem ParseCommand.result_run {input : String} {s : Schema} (h : Schema.parse input = .ok s)
    (path : String) (format : OutputFormat) :
    (run path (.ok input) format).result = .ok (text format s) := by
  unfold run
  dsimp only
  rw [h]

/-- A type with that many letters is read, but no table with it is printed. -/
theorem Schema.render?_replicate {n : Nat} (h : maxWidth < n) :
    let name := String.ofList (List.replicate n 'a')
    let schema : Schema := ⟨"t", [⟨"x", ⟨name⟩, false, none⟩], {}⟩
    Schema.parse ("CREATE TABLE t(x " ++ name ++ ");") = .ok schema ∧ schema.render? = none := by
  intro name schema
  have hname : TypeName name.toList := by
    rw [String.toList_ofList]
    exact typeName_replicate (Nat.ne_of_gt (Nat.lt_of_le_of_lt (Nat.zero_le _) h))
  have hwidth : schema.typeWidth = n := by
    change max 0 (byteLength name.toList) = n
    rw [String.toList_ofList, byteLength_replicate, Nat.zero_max]
  refine ⟨hname.parse_eq, if_neg fun hle => ?_⟩
  rw [hwidth] at hle
  exact absurd hle.2 (Nat.not_le.2 h)

/-- A statement whose schema cannot be printed as a table: its only type has 65536 letters. As JSON
it is printed. -/
theorem ParseCommand.not_forall_printed :
    let name := String.ofList (List.replicate 65536 'a')
    let statement := "CREATE TABLE t(x " ++ name ++ ");"
    let schema : Schema := ⟨"t", [⟨"x", ⟨name⟩, false, none⟩], {}⟩
    Schema.parse statement = .ok schema ∧
      (ParseCommand.run "a.cql" (.ok statement) .plain).result = .ok none ∧
      (ParseCommand.run "a.cql" (.ok statement) .json).result = .ok (some schema.toJson.pretty) ∧
      ¬ ∀ s : Schema, ∃ table, s.render? = some table := by
  intro name statement schema
  obtain ⟨hparse, hnone⟩ := Schema.render?_replicate (n := 65536) (by decide)
  refine ⟨hparse, ?_, result_run hparse "a.cql" .json, fun hall => ?_⟩
  · rw [result_run hparse "a.cql" .plain, text, hnone]
  · obtain ⟨table, htable⟩ := hall schema
    rw [hnone] at htable
    cases htable

end PartitionSize
