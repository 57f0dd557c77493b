import PartitionSize.Proofs.Report.Table
import PartitionSize.Proofs.Report.Units
import PartitionSize.Proofs.Schema.Bare

/-!
# A table says what is in the schema

What separates the parts of a table is never inside one of them: names and types have no blanks, for
blanks separate tokens; names have no commas, for these are tokens of their own; and no note has a
comma. So the parts can be told apart again.

* **Separators**: a part without the separator is cancelled together with the separator behind it
  (`append_cons_cancel`), hence lines (`eq_of_join_lines_eq`), parts with commas between them
  (`eq_of_intercalate_eq`) and a word with spaces behind it (`word_cancel`).
* **Lines of columns**: equal lines have equal names, types and notes (`Column.Aligned.eq_of_line`),
  and these the same size and the same static flag (`Column.sameShown_of_notes`).
* **Tables**: `Schema.WellNamed` is what reading ensures of the names. It makes equal tables those
  of schemas that agree in all that is shown (`Schema.WellNamed.of_render_eq`).
-/

namespace PartitionSize

open Text

/-! ## Separators -/

theorem append_cons_cancel {sep : Char} {a b u v : List Char} (ha : sep ∉ a) (hb : sep ∉ b)
    (h : a ++ sep :: u = b ++ sep :: v) : a = b ∧ u = v := by
  induction a generalizing b with
  | nil =>
    cases b with
    | nil => exact ⟨rfl, (List.cons.inj h).2⟩
    | cons d b =>
      obtain ⟨rfl, -⟩ := List.cons.inj h
      exact absurd List.mem_cons_self hb
  | cons c a ih =>
    cases b with
    | nil =>
      obtain ⟨rfl, -⟩ := List.cons.inj h
      exact absurd List.mem_cons_self ha
    | cons d b =>
      rw [List.mem_cons, not_or] at ha hb
      obtain ⟨rfl, hrest⟩ := List.cons.inj h
      obtain ⟨rfl, huv⟩ := ih ha.2 hb.2 hrest
      exact ⟨rfl, huv⟩

/-- Parts with a separator behind each of them, which may go on after its first character. -/
theorem eq_of_flatMap_eq {sep : Char} {more : List Char} {ps qs : List (List Char)}
    (hp : ∀ p ∈ ps, sep ∉ p) (hq : ∀ q ∈ qs, sep ∉ q)
    (h : ps.flatMap (· ++ sep :: more) = qs.flatMap (· ++ sep :: more)) : ps = qs := by
  induction ps generalizing qs with
  | nil =>
    cases qs with
    | nil => rfl
    | cons q qs => simp at h
  | cons p ps ih =>
    cases qs with
    | nil => simp at h
    | cons q qs =>
      rw [List.forall_mem_cons] at hp hq
      simp only [List.flatMap_cons, List.append_assoc, List.cons_append] at h
      obtain ⟨rfl, hrest⟩ := append_cons_cancel hp.1 hq.1 h
      rw [ih hp.2 hq.2 (List.append_cancel_left hrest)]

theorem map_toList_injective : Function.Injective (List.map String.toList) :=
  List.map_injective_iff.2 fun _ _ h => String.toList_injective h

theorem eq_of_join_lines_eq {ls ms : List String} (hl : ∀ l ∈ ls, '\n' ∉ l.toList)
    (hm : ∀ m ∈ ms, '\n' ∉ m.toList)
    (h : String.join (ls.map (· ++ "\n")) = String.join (ms.map (· ++ "\n"))) : ls = ms := by
  have htext : ∀ ls : List String, (String.join (ls.map (· ++ "\n"))).toList =
      (ls.map String.toList).flatMap (· ++ ['\n']) := by
    intro ls
    rw [String.toList_join, List.flatMap_map, List.flatMap_map]
    simp only [String.toList_append]
    rfl
  have hflat := congrArg String.toList h
  rw [htext, htext] at hflat
  refine map_toList_injective (eq_of_flatMap_eq ?_ ?_ hflat)
  · exact List.forall_mem_map.2 hl
  · exact List.forall_mem_map.2 hm

theorem intercalate_append {sep : List Char} {ps : List (List Char)} (h : ps ≠ []) :
    sep.intercalate ps ++ sep = ps.flatMap (· ++ sep) := by
  induction ps with
  | nil => exact absurd rfl h
  | cons p ps ih =>
    cases ps with
    | nil => simp
    | cons q ps =>
      rw [List.intercalate_cons_cons, List.flatMap_cons, ← ih (by simp)]
      simp only [List.append_assoc]

/-- A part in a list with commas between its parts. -/
structure IsItem (s : String) : Prop where
  ne_nil : s.toList ≠ []
  comma : ',' ∉ s.toList

theorem intercalate_ne_nil {ps : List String} (hp : ∀ p ∈ ps, IsItem p) (h : ps ≠ []) :
    (", ".intercalate ps).toList ≠ [] := by
  cases ps with
  | nil => exact absurd rfl h
  | cons p ps =>
    have hne := (hp p List.mem_cons_self).ne_nil
    cases ps with
    | nil => simpa using hne
    | cons q ps => simp

/-- No list but the empty one is written as nothing, since no part is empty. -/
theorem eq_of_intercalate_eq {ps qs : List String} (hp : ∀ p ∈ ps, IsItem p)
    (hq : ∀ q ∈ qs, IsItem q) (h : ", ".intercalate ps = ", ".intercalate qs) : ps = qs := by
  by_cases hps : ps = []
  · subst hps
    by_contra hqs
    exact intercalate_ne_nil hq (Ne.symm hqs) (by rw [← h]; rfl)
  · by_cases hqs : qs = []
    · subst hqs
      exact absurd (by rw [h]; rfl) (intercalate_ne_nil hp hps)
    · have htext := congrArg (fun s : String => s.toList ++ ", ".toList) h
      simp only [String.toList_intercalate] at htext
      rw [intercalate_append (by simpa using hps), intercalate_append (by simpa using hqs)] at htext
      refine map_toList_injective (eq_of_flatMap_eq ?_ ?_ htext)
      · exact List.forall_mem_map.2 fun p hm => (hp p hm).comma
      · exact List.forall_mem_map.2 fun q hm => (hq q hm).comma

/-- A word and the spaces up to the next one, however many. -/
theorem word_cancel {a b u v : List Char} {m n : Nat} (ha : ' ' ∉ a) (hb : ' ' ∉ b)
    (hu : u.head? ≠ some ' ') (hv : v.head? ≠ some ' ')
    (h : a ++ (List.replicate (m + 1) ' ' ++ u) = b ++ (List.replicate (n + 1) ' ' ++ v)) :
    a = b ∧ u = v := by
  have hdrop : ∀ (k : Nat) (w : List Char), w.head? ≠ some ' ' →
      (List.replicate k ' ' ++ w).dropWhile (· == ' ') = w := by
    intro k w hw
    rw [List.dropWhile_append_of_pos fun c hc => by rw [List.eq_of_mem_replicate hc]; rfl]
    cases w with
    | nil => rfl
    | cons c w => exact List.dropWhile_cons_of_neg (by simpa using hw)
  rw [List.replicate_succ, List.replicate_succ, List.cons_append, List.cons_append] at h
  obtain ⟨rfl, hrest⟩ := append_cons_cancel ha hb h
  refine ⟨rfl, ?_⟩
  rw [← hdrop m u hu, hrest, hdrop n v hv]

/-! ## Sizes -/

theorem toString_int_ne_nil (n : Int) : (toString n).toList ≠ [] := by
  cases n with
  | ofNat n => exact Number.toString_ne_nil n
  | negSucc n =>
    rw [BinaryUnit.toList_negSucc]
    exact List.cons_ne_nil _ _

/-! ## Notes -/

/-- A note is an item of one line that does not begin with a space. -/
structure IsNote (s : String) : Prop extends IsItem s where
  head : s.toList.head? ≠ some ' '
  lineEnd : '\n' ∉ s.toList

theorem isNote_bytes (n : Int) : IsNote (toString n ++ " B") := by
  have hnot : ∀ c : Char, c.isDigit = false → c ≠ '-' → c ∉ " B".toList →
      c ∉ (toString n ++ " B").toList := by
    intro c hdigit hminus hunit
    rw [String.toList_append, List.mem_append, not_or]
    exact ⟨BinaryUnit.not_mem_toString hdigit hminus, hunit⟩
  refine ⟨⟨?_, hnot ',' rfl (by decide) (by decide)⟩, ?_, hnot '\n' rfl (by decide) (by decide)⟩
  · rw [String.toList_append]
    exact List.append_ne_nil_of_left_ne_nil (toString_int_ne_nil n) _
  · rw [String.toList_append, List.head?_append_of_ne_nil _ (toString_int_ne_nil n)]
    intro hhead
    exact BinaryUnit.not_mem_toString rfl (by decide) (List.mem_of_mem_head? hhead)

theorem isNote_sizeLabel (c : Column) : IsNote c.sizeLabel := by
  unfold Column.sizeLabel
  split
  · exact isNote_bytes _
  · next estimate _ _ =>
    obtain ⟨⟨-, hcomma⟩, -, hlineEnd⟩ := isNote_bytes estimate
    rw [String.append_assoc]
    have htext : ("~" ++ (toString estimate ++ " B")).toList =
        '~' :: (toString estimate ++ " B").toList := String.toList_append
    constructor
    · constructor
      · rw [htext]
        exact List.cons_ne_nil _ _
      · rw [htext, List.mem_cons, not_or]
        exact ⟨by decide, hcomma⟩
    · rw [htext, List.head?_cons]
      decide
    · rw [htext, List.mem_cons, not_or]
      exact ⟨by decide, hlineEnd⟩
  · exact ⟨⟨by decide, by decide⟩, by decide, by decide⟩

theorem Column.isNote_of_mem_notes {k : PrimaryKey} {c : Column} :
    ∀ note ∈ c.notes k, IsNote note := by
  intro note h
  rcases List.mem_append.1 h with h | h
  · rcases List.mem_append.1 h with h | h
    · rw [List.mem_singleton.1 h]
      exact isNote_sizeLabel c
    · split at h
      · rw [List.mem_singleton.1 h]
        exact ⟨⟨by decide, by decide⟩, by decide, by decide⟩
      · cases h
  · obtain ⟨role, -, rfl⟩ := Option.map_eq_some_iff.1 (Option.mem_toList.1 h)
    cases role <;> exact ⟨⟨by decide, by decide⟩, by decide, by decide⟩

/-- A table shows the same of two columns. It does not show the estimate of a fixed-size one. -/
structure Column.SameShown (c d : Column) : Prop where
  name : c.name = d.name
  dataType : c.dataType = d.dataType
  isStatic : c.isStatic = d.isStatic
  size : c.size = d.size
  estimate : c.dataType.isFixedSize = false → c.sizeEstimate = d.sizeEstimate

theorem Column.sizeLabel_of_estimate {c : Column} (h : c.dataType.fixedWidth? = none) :
    c.sizeLabel = match c.sizeEstimate with
      | some estimate => "~" ++ toString estimate ++ " B"
      | none => "variable" := by
  unfold sizeLabel
  rw [h]
  cases c.sizeEstimate <;> rfl

theorem Column.sizeEstimate_of_sizeLabel {c d : Column} (hc : c.dataType.fixedWidth? = none)
    (hd : d.dataType.fixedWidth? = none) (h : c.sizeLabel = d.sizeLabel) :
    c.sizeEstimate = d.sizeEstimate := by
  rw [sizeLabel_of_estimate hc, sizeLabel_of_estimate hd] at h
  generalize c.sizeEstimate = a at h ⊢
  generalize d.sizeEstimate = b at h ⊢
  have htext := congrArg String.toList h
  cases a with
  | none =>
    cases b with
    | none => rfl
    | some b => simp at htext
  | some a =>
    cases b with
    | none => simp at htext
    | some b =>
      have hdigits := (String.append_right_inj _).1 ((String.append_left_inj _).1 h)
      rw [toString_int_injective hdigits]

theorem Column.isStatic_iff_mem_notes {k : PrimaryKey} {c : Column} :
    c.isStatic = true ↔ "static" ∈ (c.notes k).tail := by
  have hrole : "static" ∉ ((k.role? c.name).map KeyRole.label).toList := by
    cases k.role? c.name with
    | none => exact List.not_mem_nil
    | some role => cases role <;> decide
  unfold notes
  rw [List.append_assoc, List.singleton_append, List.tail_cons, List.mem_append,
    or_iff_left hrole]
  cases c.isStatic <;> decide

/-- The type and the notes say the size and whether the column is static. -/
theorem Column.sameShown_of_notes {k k' : PrimaryKey} {c d : Column} (hname : c.name = d.name)
    (htype : c.dataType = d.dataType) (h : c.notes k = d.notes k') : c.SameShown d := by
  have hlabel : c.sizeLabel = d.sizeLabel := (List.cons.inj h).1
  have hestimate : c.dataType.fixedWidth? = none → c.sizeEstimate = d.sizeEstimate :=
    fun hw => sizeEstimate_of_sizeLabel hw (htype ▸ hw) hlabel
  refine ⟨hname, htype, ?_, ?_, fun hfixed => ?_⟩
  · rw [Bool.eq_iff_iff, isStatic_iff_mem_notes (k := k), isStatic_iff_mem_notes (k := k'), h]
  · unfold size
    rw [← htype]
    split
    · rfl
    · next hw => rw [hestimate hw]
  · exact hestimate (by simpa [DataType.isFixedSize] using hfixed)

/-! ## Lines -/

theorem not_mem_intercalate {sep : List Char} {ps : List (List Char)} {c : Char} (hs : c ∉ sep)
    (hp : ∀ p ∈ ps, c ∉ p) : c ∉ sep.intercalate ps := by
  induction ps with
  | nil => exact List.not_mem_nil
  | cons p ps ih =>
    rw [List.forall_mem_cons] at hp
    cases ps with
    | nil => simpa using hp.1
    | cons q ps =>
      rw [List.intercalate_cons_cons, List.mem_append, List.mem_append, not_or, not_or]
      exact ⟨⟨hp.1, hs⟩, ih hp.2⟩

theorem not_mem_of_isBlank {cs : List Char} {c : Char} (h : ∀ d ∈ cs, isBlank d = false)
    (hc : isBlank c = true) : c ∉ cs :=
  fun hm => absurd ((h c hm).symm.trans hc) Bool.false_ne_true

/-- The notes as they stand behind the type. -/
theorem Column.notes_text (k : PrimaryKey) (c : Column) :
    (", ".intercalate (c.notes k)).toList.head? ≠ some ' ' ∧
      '\n' ∉ (", ".intercalate (c.notes k)).toList := by
  have hnotes := isNote_of_mem_notes (k := k) (c := c)
  rw [String.toList_intercalate]
  constructor
  · obtain ⟨note, more, hcons⟩ : ∃ note more, c.notes k = note :: more := ⟨_, _, rfl⟩
    rw [hcons] at hnotes ⊢
    have hnote := hnotes note List.mem_cons_self
    cases more with
    | nil => simpa using hnote.head
    | cons note' more =>
      rw [List.map_cons, List.map_cons, List.intercalate_cons_cons, List.append_assoc,
        List.head?_append_of_ne_nil _ hnote.ne_nil]
      exact hnote.head
  · refine not_mem_intercalate (by decide) (List.forall_mem_map.2 fun note hm => ?_)
    exact (hnotes note hm).lineEnd

theorem Column.Aligned.toList_eq {k : PrimaryKey} {nameWidth typeWidth : Nat} {c : Column}
    {line : String} (h : c.Aligned k nameWidth typeWidth line) :
    ∃ m n, line.toList = ' ' :: ' ' :: (c.name.toList ++ (List.replicate (m + 1) ' ' ++
      (c.dataType.name.toList ++ (List.replicate (n + 1) ' ' ++
        (", ".intercalate (c.notes k)).toList)))) := by
  obtain ⟨m, n, -, -, hline⟩ := h.parts
  have hgap : "  ".toList = List.replicate 2 ' ' := rfl
  refine ⟨m + 1, n + 1, ?_⟩
  rw [hline]
  simp only [String.toList_append, toList_spaces, hgap, List.append_assoc]
  rw [← List.append_assoc (List.replicate m ' '), List.replicate_append_replicate,
    ← List.append_assoc (List.replicate n ' '), List.replicate_append_replicate]
  rfl

/-- Equal lines are those of columns with the same name, type and notes. -/
theorem Column.Aligned.eq_of_line {k k' : PrimaryKey} {w t w' t' : Nat} {c d : Column}
    {line : String} (h : c.Aligned k w t line) (h' : d.Aligned k' w' t' line)
    (hc : Token.IsRun c.name.toList ∧ TypeName c.dataType.name.toList)
    (hd : Token.IsRun d.name.toList ∧ TypeName d.dataType.name.toList) :
    c.name = d.name ∧ c.dataType = d.dataType ∧ c.notes k = d.notes k' := by
  -- a type does not begin with a space, for it has none and is not empty
  have hhead : ∀ {name more : List Char}, TypeName name → (name ++ more).head? ≠ some ' ' := by
    intro name more hname hhead
    rw [List.head?_append_of_ne_nil _ hname.ne_nil] at hhead
    exact not_mem_of_isBlank hname.isBlank_eq_false rfl (List.mem_of_mem_head? hhead)
  obtain ⟨m, n, hline⟩ := h.toList_eq
  obtain ⟨m', n', hline'⟩ := h'.toList_eq
  rw [hline] at hline'
  obtain ⟨hname, hrest⟩ := word_cancel (not_mem_of_isBlank hc.1.isBlank_eq_false rfl)
    (not_mem_of_isBlank hd.1.isBlank_eq_false rfl) (hhead hc.2) (hhead hd.2)
    (List.cons.inj (List.cons.inj hline').2).2
  obtain ⟨htype, hnotes⟩ := word_cancel (not_mem_of_isBlank hc.2.isBlank_eq_false rfl)
    (not_mem_of_isBlank hd.2.isBlank_eq_false rfl) (c.notes_text k).1 (d.notes_text k').1 hrest
  refine ⟨String.toList_injective hname, ?_, ?_⟩
  · exact congrArg DataType.mk (String.toList_injective htype)
  · exact eq_of_intercalate_eq (fun note hm => (isNote_of_mem_notes note hm).toIsItem)
      (fun note hm => (isNote_of_mem_notes note hm).toIsItem) (String.toList_injective hnotes)

/-! ## Tables -/

theorem forall₂_of_map_eq {α β γ : Type} {f : α → γ} {g : β → γ} {R : α → β → Prop} {as : List α}
    {bs : List β} (hR : ∀ a ∈ as, ∀ b ∈ bs, f a = g b → R a b) (h : as.map f = bs.map g) :
    List.Forall₂ R as bs := by
  induction as generalizing bs with
  | nil =>
    cases bs with
    | nil => exact .nil
    | cons b bs => cases h
  | cons a as ih =>
    cases bs with
    | nil => cases h
    | cons b bs =>
      obtain ⟨hab, hrest⟩ := List.cons.inj h
      refine .cons (hR a List.mem_cons_self b List.mem_cons_self hab) (ih ?_ hrest)
      exact fun a ha b hb => hR a (List.mem_cons_of_mem _ ha) b (List.mem_cons_of_mem _ hb)

theorem Token.IsRun.isItem {name : String} (h : IsRun name.toList) : IsItem name := by
  refine ⟨h.ne_nil, fun hm => ?_⟩
  cases h.all ',' hm

theorem nameList_injective {cs ds : List Column} (hc : ∀ c ∈ cs, Token.IsRun c.name.toList)
    (hd : ∀ d ∈ ds, Token.IsRun d.name.toList) (h : nameList cs = nameList ds) :
    cs.map Column.name = ds.map Column.name := by
  have hinner := (String.append_right_inj _).1 ((String.append_left_inj _).1 h)
  exact eq_of_intercalate_eq (List.forall_mem_map.2 fun c hm => (hc c hm).isItem)
    (List.forall_mem_map.2 fun d hm => (hd d hm).isItem) hinner

namespace Schema

/-- The names and types of a schema are such as can be read, and the key names declared columns. -/
structure WellNamed (s : Schema) : Prop where
  tableName : Token.IsRun s.tableName.toList
  columns : ∀ c ∈ s.columns, Token.IsRun c.name.toList ∧ TypeName c.dataType.name.toList
  key_mem : ∀ c ∈ s.primaryKey.columns, c ∈ s.columns

theorem wellNamed_of_withSizeEstimates {text : String} {sizes : List (String × Int)}
    {parsed s : Schema} (hp : Schema.parse text = .ok parsed)
    (hs : parsed.withSizeEstimates sizes = .ok s) : s.WellNamed := by
  obtain ⟨htable, hcolumns⟩ := Schema.names_of_parse hp
  have hsound := (Schema.sound_of_parse hp).withSizeEstimates hs
  have hbare := bare_eq_parsed hp hs
  subst hbare
  exact ⟨htable, fun c hc => hcolumns c.bare (List.mem_map_of_mem hc), hsound.key_mem⟩

namespace WellNamed

variable {s : Schema} (h : s.WellNamed)
include h

theorem partition_names : ∀ c ∈ s.primaryKey.partition, Token.IsRun c.name.toList :=
  fun c hc => (h.columns c (h.key_mem c (List.mem_append_left _ hc))).1

theorem clustering_names : ∀ c ∈ s.primaryKey.clustering, Token.IsRun c.name.toList :=
  fun c hc => (h.columns c (h.key_mem c (List.mem_append_right _ hc))).1

theorem lineEnd_not_mem_columnLines : ∀ line ∈ s.columnLines, '\n' ∉ line.toList := by
  refine List.forall_mem_map.2 fun c hc => ?_
  obtain ⟨hname, htype⟩ := h.columns c hc
  obtain ⟨m, n, hline⟩ := (s.aligned_line hc).toList_eq
  have hname' : '\n' ∉ c.name.toList := not_mem_of_isBlank hname.isBlank_eq_false rfl
  have htype' : '\n' ∉ c.dataType.name.toList := not_mem_of_isBlank htype.isBlank_eq_false rfl
  have hspaces : ∀ n, '\n' ∉ List.replicate n ' ' :=
    fun n hm => absurd (List.eq_of_mem_replicate hm) (by decide)
  rw [hline]
  simp only [List.mem_cons, List.mem_append, not_or]
  exact ⟨by decide, by decide, hname', hspaces _, htype', hspaces _, (c.notes_text _).2⟩

/-- No part of a line has a line end in it. -/
theorem lineEnd_not_mem : ∀ line ∈ s.lines, '\n' ∉ line.toList := by
  have hkey : ∀ columns : List Column, (∀ c ∈ columns, Token.IsRun c.name.toList) →
      '\n' ∉ (nameList columns).toList := by
    intro columns hc
    have hnames : '\n' ∉ (", ".intercalate (columns.map Column.name)).toList := by
      rw [String.toList_intercalate]
      refine not_mem_intercalate (by decide) (List.forall_mem_map.2 (List.forall_mem_map.2 ?_))
      exact fun c hm => not_mem_of_isBlank (hc c hm).isBlank_eq_false rfl
    unfold nameList
    rw [String.toList_append, String.toList_append, List.mem_append, List.mem_append, not_or,
      not_or]
    exact ⟨⟨by decide, hnames⟩, by decide⟩
  have htable : '\n' ∉ s.tableName.toList := not_mem_of_isBlank h.tableName.isBlank_eq_false rfl
  unfold lines
  rw [List.forall_mem_append, List.forall_mem_append]
  refine ⟨⟨?_, h.lineEnd_not_mem_columnLines⟩, ?_⟩
  · simp [htable]
  · simp [hkey _ h.partition_names, hkey _ h.clustering_names]

end WellNamed

theorem WellNamed.of_render_eq {s s' : Schema} (h : s.WellNamed) (h' : s'.WellNamed)
    (heq : s.render = s'.render) :
    s.tableName = s'.tableName ∧ List.Forall₂ Column.SameShown s.columns s'.columns ∧
      s.primaryKey.partition.map Column.name = s'.primaryKey.partition.map Column.name ∧
      s.primaryKey.clustering.map Column.name = s'.primaryKey.clustering.map Column.name := by
  have hlines : s.lines = s'.lines := eq_of_join_lines_eq h.lineEnd_not_mem h'.lineEnd_not_mem heq
  obtain ⟨hfront, hkey⟩ := List.append_inj' hlines rfl
  obtain ⟨hhead, hcolumns⟩ := List.append_inj hfront rfl
  obtain ⟨hpartition, hclustering⟩ := List.cons.inj hkey
  refine ⟨(String.append_right_inj _).1 (List.cons.inj hhead).1, ?_, ?_, ?_⟩
  · refine forall₂_of_map_eq (fun c hc d hd hline => ?_) hcolumns
    have haligned := s'.aligned_line hd
    rw [← hline] at haligned
    obtain ⟨hname, htype, hnotes⟩ :=
      (s.aligned_line hc).eq_of_line haligned (h.columns c hc) (h'.columns d hd)
    exact Column.sameShown_of_notes hname htype hnotes
  · exact nameList_injective h.partition_names h'.partition_names
      ((String.append_right_inj _).1 hpartition)
  · exact nameList_injective h.clustering_names h'.clustering_names
      ((String.append_right_inj _).1 (List.cons.inj hclustering).1)

/-- **A table is unambiguous**: whatever two statements and sizes it comes from, their schemas have
the table's name, the names, types, static flags and sizes of the columns in common, and the names
of the key columns. -/
theorem render?_unambiguous {text text' : String} {sizes sizes' : List (String × Int)}
    {parsed parsed' s s' : Schema} {table : String} (hp : Schema.parse text = .ok parsed)
    (hp' : Schema.parse text' = .ok parsed') (hs : parsed.withSizeEstimates sizes = .ok s)
    (hs' : parsed'.withSizeEstimates sizes' = .ok s') (h : s.render? = some table)
    (h' : s'.render? = some table) :
    s.tableName = s'.tableName ∧ List.Forall₂ Column.SameShown s.columns s'.columns ∧
      s.primaryKey.partition.map Column.name = s'.primaryKey.partition.map Column.name ∧
      s.primaryKey.clustering.map Column.name = s'.primaryKey.clustering.map Column.name := by
  have hrender : s.render = s'.render :=
    (render?_eq_some_iff.1 h).2.trans (render?_eq_some_iff.1 h').2.symm
  exact (wellNamed_of_withSizeEstimates hp hs).of_render_eq (wellNamed_of_withSizeEstimates hp' hs')
    hrender

/-- The same table for two schemas that are not equal: the key holds a copy of the second column in
one of them, and of the first column, of the same name, in the other. -/
theorem render?_unambiguous_of_repeated_name :
    ∃ parsed parsed' s s' : Schema, ∃ table,
      Schema.parse "CREATE TABLE t(a text, a int PRIMARY KEY);" = .ok parsed ∧
      Schema.parse "create table t ( a text , a int , primary key ( ( a ) ) ) ;" = .ok parsed' ∧
      parsed.withSizeEstimates [("a", 5)] = .ok s ∧
      parsed'.withSizeEstimates [("a", 9), ("a", 5)] = .ok s' ∧
      s.render? = some table ∧ s'.render? = some table ∧ s ≠ s' ∧
      s.tableName = s'.tableName ∧ List.Forall₂ Column.SameShown s.columns s'.columns ∧
      s.primaryKey.partition.map Column.name = s'.primaryKey.partition.map Column.name ∧
      s.primaryKey.clustering.map Column.name = s'.primaryKey.clustering.map Column.name := by
  let text (size? : Option Int) : Column := ⟨"a", ⟨"text"⟩, false, size?⟩
  let int (size? : Option Int) : Column := ⟨"a", ⟨"int"⟩, false, size?⟩
  let schema (size? : Option Int) (key : Column) : Schema :=
    ⟨"t", [text size?, int size?], ⟨[key], []⟩⟩
  let table := "table t\ncolumns:\n  a  text  ~5 B, partition key\n" ++
    "  a  int   4 B, partition key\npartition key: (a)\nclustering key: ()\n"
  have hp : Schema.parse "CREATE TABLE t(a text, a int PRIMARY KEY);" =
      .ok (schema none (int none)) := by decide +kernel
  have hp' : Schema.parse "create table t ( a text , a int , primary key ( ( a ) ) ) ;" =
      .ok (schema none (text none)) := by decide +kernel
  have hs : (schema none (int none)).withSizeEstimates [("a", 5)] =
      .ok (schema (some 5) (int (some 5))) := by decide +kernel
  have hs' : (schema none (text none)).withSizeEstimates [("a", 9), ("a", 5)] =
      .ok (schema (some 5) (text (some 5))) := by decide +kernel
  have h : (schema (some 5) (int (some 5))).render? = some table := by decide +kernel
  have h' : (schema (some 5) (text (some 5))).render? = some table := by decide +kernel
  exact ⟨_, _, _, _, _, hp, hp', hs, hs', h, h', by decide,
    render?_unambiguous hp hp' hs hs' h h'⟩

end Schema

end PartitionSize
