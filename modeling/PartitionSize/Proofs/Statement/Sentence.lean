import PartitionSize.Proofs.Statement.Declared
import PartitionSize.Proofs.Statement.Phrase
import PartitionSize.Proofs.Statement.Refinement

/-!
# The reader accepts the sentences of the grammar

A reader that takes as much of a phrase as is there does not go back over it, so its language is
that of a grammar in which `opt` is greedy (`PartitionSize.Grammar`).

* **Completeness** (`statement_of_sentence`): on the tokens of a sentence the one-pass reader
  finds nothing wrong with the order of the tokens, and declares the entries of the sentence's
  outline. One lemma per rule: `dataType_of_grammar`, `keyClause_of_grammar`, `entry_of_grammar`.
* **Soundness** (`exists_sentence`): the tokens of an accepted text are a sentence. A trial that
  meets the end of the tokens gives one back, and that is no rule of the grammar; but it leaves at
  most one token, and a statement still needs its last two (`optional_grammar`). So each lemma asks
  that two tokens are left at the end.
* **The schema** (`parse_eq_ok_iff`): what is accepted is a sentence whose outline is coherent,
  and the schema is the one that the outline denotes.
-/

namespace PartitionSize.OnePass

open Grammar

/-! ## Types -/

theorem typeArguments_of_closing {depth : Nat} {ts : List Token} (h : Closing depth ts)
    (text : String) (rest : List Token) :
    typeArguments depth text (ts ++ rest) = .ok (text ++ String.join ts, rest) := by
  induction h generalizing text with
  | nil => simp [typeArguments]
  | less _ ih => simp [typeArguments, ih, String.append_assoc]
  | greater _ ih => simp [typeArguments, ih, String.append_assoc]
  | other h1 h2 _ ih => simp [typeArguments, h1, h2, ih, String.append_assoc]

theorem exists_closing {depth : Nat} {text s : String} {ts rest : List Token}
    (h : typeArguments depth text ts = .ok (s, rest)) :
    ∃ taken, ts = taken ++ rest ∧ Closing depth taken ∧ s = text ++ String.join taken := by
  fun_induction typeArguments depth text ts with
  | case1 text ts => cases h; exact ⟨[], rfl, .nil, by simp⟩
  | case2 => cases h
  | case3 text depth t ts ih =>
    obtain ⟨taken, rfl, hc, rfl⟩ := ih h
    refine ⟨t :: taken, rfl, ?_, by simp [String.append_assoc]⟩
    by_cases h1 : t = "<"
    · subst h1; exact .less (by simpa using hc)
    · by_cases h2 : t = ">"
      · subst h2; exact .greater (by simpa using hc)
      · exact .other h1 h2 (by simpa [h1, h2] using hc)

theorem dataType_of_grammar {ts rest : List Token} {text : String} (h : TypeText ts text rest) :
    dataType ts = .ok ({ name := text }, rest) := by
  cases h with
  | plain hn ht =>
    simp only [dataType, name_of_name hn, bind, Except.bind]
    rw [optional_not_mark "<" rfl ht]
  | bracketed hn hc =>
    rw [List.cons_append, List.cons_append]
    simp only [dataType, name_of_name hn, bind, Except.bind]
    rw [optional_mark "<" rfl]
    simp only [typeArguments_of_closing hc, String.join_cons, String.append_assoc]

theorem exists_typeText {ts rest : List Token} {t : DataType} (h : dataType ts = .ok (t, rest))
    (hr : 2 ≤ rest.length) : ∃ text, TypeText ts text rest := by
  unfold dataType at h
  obtain ⟨⟨n, ts1⟩, hn, ht⟩ := Except.exists_of_bind_eq_ok h
  obtain ⟨hname, rfl⟩ := eq_of_name hn
  dsimp only at ht
  split at ht
  · next ts2 ho =>
    cases ht
    obtain ⟨rfl, hne⟩ := eq_of_mark_missing "<" rfl ho
    match ts1, hr, hne with
    | t :: ts1, _, hne => exact ⟨n, .plain hname (hne t ts1 rfl)⟩
  · next ts2 ho =>
    obtain ⟨⟨text, ts3⟩, ha, ht⟩ := Except.exists_of_bind_eq_ok ht
    cases ht
    obtain rfl := eq_of_mark_found "<" rfl ho
    obtain ⟨taken, rfl, hc, -⟩ := exists_closing ha
    exact ⟨_, .bracketed hname hc⟩

/-! ## Key clauses -/

theorem keyColumn_of_name {t : Token} (ht : Name t) (declared : List Column) (rest : List Token) :
    keyColumn declared (t :: rest) =
      (PrimaryKey.resolve declared t).map fun column => (column, rest) := by
  simp only [keyColumn, name_of_name ht, bind, Except.bind]
  cases PrimaryKey.resolve declared t <;> rfl

theorem eq_of_keyColumn {declared : List Column} {column : Column} {ts rest : List Token}
    (h : keyColumn declared ts = .ok (column, rest)) : ∃ n, Name n ∧ ts = n :: rest := by
  unfold keyColumn at h
  obtain ⟨⟨n, ts1⟩, hn, h⟩ := Except.exists_of_bind_eq_ok h
  obtain ⟨c, -, h⟩ := Except.exists_of_bind_eq_ok h
  cases h
  exact ⟨n, eq_of_name hn⟩

theorem moreKeyColumns_of_grammar {ts rest : List Token} {names : List String}
    (h : MoreNames ts names rest) (declared : List Column) :
    moreKeyColumns declared ts =
      (names.mapM (PrimaryKey.resolve declared)).map fun columns => (columns, rest) := by
  induction h with
  | nil ht => rw [moreKeyColumns_eq, optional_not_mark "," rfl ht]; rfl
  | @cons name ts names rest hn _ ih =>
    rw [moreKeyColumns_eq, optional_mark "," rfl, List.mapM_cons]
    dsimp only
    rw [keyColumn_of_name hn]
    cases PrimaryKey.resolve declared name with
    | error e => rfl
    | ok column =>
      change (moreKeyColumns declared ts >>= _) = _
      rw [ih]
      cases names.mapM (PrimaryKey.resolve declared) <;> rfl

theorem exists_moreNames {declared columns : List Column} {ts rest : List Token}
    (h : moreKeyColumns declared ts = .ok (columns, rest)) (hr : 2 ≤ rest.length) :
    ∃ names, MoreNames ts names rest := by
  rw [moreKeyColumns_eq] at h
  split at h
  · next ts1 ho =>
    cases h
    obtain ⟨rfl, hne⟩ := eq_of_mark_missing "," rfl ho
    match ts, hr, hne with
    | t :: ts, _, hne => exact ⟨[], .nil (hne t ts rfl)⟩
  · next ts1 ho =>
    obtain ⟨⟨column, ts2⟩, hk, h⟩ := Except.exists_of_bind_eq_ok h
    obtain ⟨⟨columns', ts3⟩, hm, h⟩ := Except.exists_of_bind_eq_ok h
    cases h
    have hlt : ts2.length < ts.length :=
      Nat.lt_of_lt_of_le (length_keyColumn_lt hk) (length_optional_le' ho)
    obtain ⟨names, hnames⟩ := exists_moreNames hm hr
    obtain ⟨n, hn, rfl⟩ := eq_of_keyColumn hk
    obtain rfl := eq_of_mark_found "," rfl ho
    exact ⟨n :: names, .cons hn hnames⟩
termination_by ts.length

theorem partitionColumns_of_grammar {ts rest : List Token} {names : List String}
    (h : Partition ts names rest) (declared : List Column) :
    partitionColumns declared ts =
      (names.mapM (PrimaryKey.resolve declared)).map fun columns => (columns, rest) := by
  cases h with
  | @one name rest hn =>
    rw [partitionColumns, optional_not_mark "(" rfl (ne_of_name hn rfl), List.mapM_cons]
    dsimp only
    rw [keyColumn_of_name hn]
    cases PrimaryKey.resolve declared name <;> rfl
  | @several name ts names rest hn hm =>
    rw [partitionColumns, optional_mark "(" rfl, List.mapM_cons]
    dsimp only
    rw [keyColumn_of_name hn]
    cases PrimaryKey.resolve declared name with
    | error e => rfl
    | ok column =>
      change (moreKeyColumns declared ts >>= _) = _
      rw [moreKeyColumns_of_grammar hm]
      cases names.mapM (PrimaryKey.resolve declared) with
      | error e => rfl
      | ok columns =>
        simp only [bind, Except.bind, Except.map, expect_mark ")" rfl]
        rfl

theorem exists_partition {declared columns : List Column} {ts rest : List Token}
    (h : partitionColumns declared ts = .ok (columns, rest)) (hr : 2 ≤ rest.length) :
    ∃ names, Partition ts names rest := by
  unfold partitionColumns at h
  split at h
  · next ts1 ho =>
    obtain ⟨⟨column, ts2⟩, hk, h⟩ := Except.exists_of_bind_eq_ok h
    cases h
    obtain ⟨n, hn, rfl⟩ := eq_of_keyColumn hk
    obtain ⟨rfl, -⟩ := eq_of_mark_missing "(" rfl ho
    exact ⟨[n], .one hn⟩
  · next ts1 ho =>
    obtain ⟨⟨column, ts2⟩, hk, h⟩ := Except.exists_of_bind_eq_ok h
    obtain ⟨⟨columns', ts3⟩, hm, h⟩ := Except.exists_of_bind_eq_ok h
    obtain ⟨ts4, he, h⟩ := Except.exists_of_bind_eq_ok h
    cases h
    obtain ⟨n, hn, rfl⟩ := eq_of_keyColumn hk
    obtain rfl := eq_of_expect_mark ")" rfl he
    obtain ⟨names, hnames⟩ := exists_moreNames hm (by simp; omega)
    obtain rfl := eq_of_mark_found "(" rfl ho
    exact ⟨n :: names, .several hn hnames⟩

theorem keyClause_of_grammar {ts rest : List Token} {partition clustering : List String}
    (h : Clause ts (.key partition clustering) rest) (declared : List Column) :
    keyClause declared ts = (do
      let partition ← partition.mapM (PrimaryKey.resolve declared)
      let clustering ← clustering.mapM (PrimaryKey.resolve declared)
      .ok ({ partition, clustering }, rest)) := by
  cases h with
  | mk hp hc =>
    rw [keyClause, expect_mark "(" rfl]
    change (partitionColumns declared _ >>= _) = _
    rw [partitionColumns_of_grammar hp]
    cases partition.mapM (PrimaryKey.resolve declared) with
    | error e => rfl
    | ok columns =>
      change (moreKeyColumns declared _ >>= _) = _
      rw [moreKeyColumns_of_grammar hc]
      change _ = (clustering.mapM (PrimaryKey.resolve declared) >>= _)
      cases clustering.mapM (PrimaryKey.resolve declared) with
      | error e => rfl
      | ok columns' =>
        simp only [bind, Except.bind, Except.map, expect_mark ")" rfl]

theorem exists_clause {declared : List Column} {key : PrimaryKey} {ts rest : List Token}
    (h : keyClause declared ts = .ok (key, rest)) (hr : 2 ≤ rest.length) :
    ∃ partition clustering, Clause ts (.key partition clustering) rest := by
  unfold keyClause at h
  obtain ⟨ts1, h1, h⟩ := Except.exists_of_bind_eq_ok h
  obtain ⟨⟨columns, ts2⟩, hp, h⟩ := Except.exists_of_bind_eq_ok h
  obtain ⟨⟨columns', ts3⟩, hc, h⟩ := Except.exists_of_bind_eq_ok h
  obtain ⟨ts4, h4, h⟩ := Except.exists_of_bind_eq_ok h
  cases h
  obtain rfl := eq_of_expect_mark "(" rfl h1
  obtain rfl := eq_of_expect_mark ")" rfl h4
  have h2 : 2 ≤ ts2.length :=
    Nat.le_trans (by simp; omega) (length_moreKeyColumns_le hc)
  obtain ⟨partition, hpart⟩ := exists_partition hp h2
  obtain ⟨clustering, hclus⟩ := exists_moreNames hc (by simp; omega)
  exact ⟨partition, clustering, .mk hpart hclus⟩

/-! ## Entries -/

theorem entry_of_grammar {ts rest : List Token} {e : Entry} (h : EntryText ts e rest)
    (d : Declarations) : entry d ts = (e.declare d).map fun d => (d, rest) := by
  cases h with
  | @key ts' e rest ho hc =>
    rw [entry, optional_of_grammar ho]
    cases hc with
    | @mk _ partition _ clustering _ hp hm =>
      dsimp only
      rw [keyClause_of_grammar (.mk hp hm), Entry.declare]
      cases partition.mapM (PrimaryKey.resolve d.columns) with
      | error e => rfl
      | ok columns =>
        cases clustering.mapM (PrimaryKey.resolve d.columns) with
        | error e => rfl
        | ok columns' =>
          simp only [bind, Except.bind]
          cases d.setPrimaryKey { partition := columns, clustering := columns' } <;> rfl
  | @column name ts1 dataType ts2 inlineKey ts3 isStatic rest ho hn ht hk hs =>
    rw [entry, optional_of_grammar ho]
    simp only [columnDefinition, name_of_name hn, dataType_of_grammar ht, optional_of_grammar hk,
      optional_of_grammar hs, bind, Except.bind, Entry.declare]
    cases d.define { name, dataType := { name := dataType }, isStatic } inlineKey <;> rfl

theorem exists_entryText {d d' : Declarations} {ts rest : List Token}
    (h : entry d ts = .ok (d', rest)) (hr : 2 ≤ rest.length) : ∃ e, EntryText ts e rest := by
  unfold entry at h
  split at h
  · next ts1 ho =>
    obtain ⟨⟨key, ts2⟩, hk, h⟩ := Except.exists_of_bind_eq_ok h
    obtain ⟨d1, -, h⟩ := Except.exists_of_bind_eq_ok h
    cases h
    obtain ⟨partition, clustering, hc⟩ := exists_clause hk hr
    have h1 := length_keyClause_lt hk
    exact ⟨_, .key (optional_grammar ho (by omega)) hc⟩
  · next ts1 ho =>
    obtain ⟨⟨⟨column, inlineKey⟩, ts2⟩, hk, h⟩ := Except.exists_of_bind_eq_ok h
    obtain ⟨d1, -, h⟩ := Except.exists_of_bind_eq_ok h
    cases h
    unfold columnDefinition at hk
    obtain ⟨⟨n, ts3⟩, hn, hk⟩ := Except.exists_of_bind_eq_ok hk
    obtain ⟨⟨t, ts4⟩, ht, hk⟩ := Except.exists_of_bind_eq_ok hk
    simp only [Except.ok.injEq, Prod.mk.injEq] at hk
    obtain ⟨-, hs⟩ := hk
    -- no trial has met the end of the tokens: from the last one backwards, each leaves two
    cases hko : optional ["PRIMARY", "KEY"] ts4 with
    | mk whole ts5 =>
      rw [hko] at hs
      have h5 := length_optional_le ["STATIC"] ts5
      have h4 := length_optional_le' hko
      have h3 := length_dataType_lt ht
      have h2 := length_name_lt hn
      rw [hs] at h5
      obtain ⟨text, htext⟩ := exists_typeText ht (by omega)
      obtain ⟨hname, rfl⟩ := eq_of_name hn
      exact ⟨_, .column (optional_grammar ho (by omega)) hname htext
        (optional_grammar hko (by omega)) (optional_grammar (Prod.ext rfl hs) hr)⟩

theorem entries_of_grammar {ts rest : List Token} {es : List Entry} (h : Entries ts es rest)
    (d : Declarations) : entries d ts = (Entry.declareAll d es).map fun d => (d, rest) := by
  induction h generalizing d with
  | @last ts e t rest he ht =>
    rw [entries_eq, entry_of_grammar he, Entry.declareAll]
    cases e.declare d with
    | error err => rfl
    | ok d' =>
      simp only [bind, Except.bind, Except.map, optional_not_mark "," rfl ht]
      rfl
  | @cons ts e ts' es rest he _ ih =>
    rw [entries_eq, entry_of_grammar he, Entry.declareAll]
    cases e.declare d with
    | error err => rfl
    | ok d' =>
      simp only [bind, Except.bind, Except.map, optional_mark "," rfl]
      exact ih d'

theorem length_entries_lt {d d' : Declarations} {ts rest : List Token}
    (h : entries d ts = .ok (d', rest)) : rest.length < ts.length := by
  rw [entries_eq] at h
  obtain ⟨⟨d1, ts1⟩, he, h⟩ := Except.exists_of_bind_eq_ok h
  have h1 := length_entry_lt he
  dsimp only at h
  split at h
  · next ts2 ho =>
    cases h
    exact Nat.lt_of_le_of_lt (length_optional_le' ho) h1
  · next ts2 ho =>
    have h2 := length_optional_le' ho
    exact Nat.lt_trans (length_entries_lt h) (Nat.lt_of_le_of_lt h2 h1)
termination_by ts.length

theorem exists_entries {d d' : Declarations} {ts rest : List Token}
    (h : entries d ts = .ok (d', rest)) (hr : 2 ≤ rest.length) : ∃ es, Entries ts es rest := by
  rw [entries_eq] at h
  obtain ⟨⟨d1, ts1⟩, he, h⟩ := Except.exists_of_bind_eq_ok h
  have h1 := length_entry_lt he
  dsimp only at h
  split at h
  · next ts2 ho =>
    cases h
    obtain ⟨rfl, hne⟩ := eq_of_mark_missing "," rfl ho
    obtain ⟨e, hent⟩ := exists_entryText he hr
    match ts1, hr, hne with
    | t :: ts1, _, hne => exact ⟨[e], .last hent (hne t ts1 rfl)⟩
  · next ts2 ho =>
    have h2 := length_optional_le' ho
    have h3 := length_entries_lt h
    obtain ⟨es, hes⟩ := exists_entries h hr
    obtain ⟨e, hent⟩ := exists_entryText he (by omega)
    obtain rfl := eq_of_mark_found "," rfl ho
    exact ⟨e :: es, .cons hent hes⟩
termination_by ts.length

/-! ## Statements -/

/-- On a sentence the reader declares the entries of the outline in order. -/
theorem statement_eq_declareAll {ts rest : List Token} {o : Outline} (h : Sentence ts o rest) :
    statement ts = (Entry.declareAll {} o.entries).map fun d => d.toSchema o.tableName := by
  cases h with
  | @mk create table ts whole tableName ts' es rest hp ho hn hes =>
    have hopen : expect ["CREATE", "TABLE"] (create :: table :: ts) = .ok ts :=
      expect_of_phrase hp ts
    have hclose : expect [")", ";"] (")" :: ";" :: rest) = .ok rest :=
      expect_marks [")", ";"] (by decide) rest
    rw [statement, hopen]
    simp only [bind, Except.bind, optional_of_grammar ho, name_of_name hn, expect_mark "(" rfl,
      entries_of_grammar hes]
    cases Entry.declareAll {} es with
    | error err => rfl
    | ok d =>
      simp only [Except.map, hclose]

/-- **Completeness**: on a sentence the reader finds what is wrong with the outline, or the schema
that the outline denotes. -/
theorem statement_of_sentence {ts rest : List Token} {o : Outline} (h : Sentence ts o rest) :
    statement ts = match o.violation? with
      | some err => .error err
      | none => .ok o.schema := by
  have hd : Entry.declareAll {} o.entries = _ := Entry.declareAll_ofEntries [] o.entries
  rw [statement_eq_declareAll h, hd, Outline.violation?]
  cases Entry.firstViolation? [] o.entries with
  | some err => rfl
  | none => rfl

/-- **Soundness**: the tokens that the reader accepts are a sentence. -/
theorem exists_sentence {ts : List Token} {s : Schema} (h : statement ts = .ok s) :
    ∃ o rest, Sentence ts o rest := by
  unfold statement at h
  obtain ⟨ts1, h1, h⟩ := Except.exists_of_bind_eq_ok h
  obtain ⟨⟨n, ts2⟩, hn, h⟩ := Except.exists_of_bind_eq_ok h
  obtain ⟨ts3, h3, h⟩ := Except.exists_of_bind_eq_ok h
  obtain ⟨⟨d, ts4⟩, he, h⟩ := Except.exists_of_bind_eq_ok h
  obtain ⟨ts5, h5, h⟩ := Except.exists_of_bind_eq_ok h
  obtain ⟨taken, rfl, hp⟩ := exists_phrase_of_expect h1
  obtain ⟨hname, ho⟩ := eq_of_name hn
  obtain rfl := eq_of_expect_mark "(" rfl h3
  obtain rfl := eq_of_expect_marks [")", ";"] (by decide) h5
  obtain ⟨es, hes⟩ := exists_entries he (by simp)
  cases hopt : optional ["IF", "NOT", "EXISTS"] ts1 with
  | mk whole ts2 =>
    rw [hopt] at ho
    cases ho
    match taken, hp with
    | [create, table], hp =>
      exact ⟨{ tableName := n, entries := es }, ts5,
        .mk hp (optional_grammar hopt (by simp)) hname hes⟩

end PartitionSize.OnePass

namespace PartitionSize

/-- What is accepted is a sentence, and has been declared entry by entry. -/
theorem Schema.exists_declareAll {text : String} {s : Schema} (h : Schema.parse text = .ok s) :
    ∃ o rest d, Grammar.Sentence (Token.scan text.toList) o rest ∧
      Entry.declareAll {} o.entries = .ok d ∧ s = d.toSchema o.tableName := by
  rw [parse_eq_onePass] at h
  obtain ⟨o, rest, ho⟩ := OnePass.exists_sentence h
  rw [OnePass.statement_eq_declareAll ho] at h
  cases hd : Entry.declareAll {} o.entries with
  | error err => rw [hd] at h; cases h
  | ok d => rw [hd] at h; cases h; exact ⟨o, rest, d, ho, hd, rfl⟩

/-- **The accepted texts and their schemas.** A text is accepted with schema `s` exactly when its
tokens begin with a sentence of the grammar, whose outline is coherent and denotes `s`; whatever
tokens follow the sentence. -/
theorem Schema.parse_eq_ok_iff (text : String) (s : Schema) :
    Schema.parse text = .ok s ↔ ∃ o rest, Grammar.Sentence (Token.scan text.toList) o rest ∧
      o.Coherent ∧ s = o.schema := by
  rw [parse_eq_onePass]
  constructor
  · intro h
    obtain ⟨o, rest, ho⟩ := OnePass.exists_sentence h
    rw [OnePass.statement_of_sentence ho] at h
    split at h
    · cases h
    · next hv => cases h; exact ⟨o, rest, ho, o.violation?_eq_none_iff.1 hv, rfl⟩
  · rintro ⟨o, rest, ho, hc, rfl⟩
    rw [OnePass.statement_of_sentence ho, o.violation?_eq_none_iff.2 hc]

end PartitionSize
