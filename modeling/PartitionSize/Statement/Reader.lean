import PartitionSize.Statement
import PartitionSize.Token.Cursor

/-!
# Reading a statement

`Schema.parse` reads one statement

    CREATE TABLE [IF NOT EXISTS] name ( entry, … ) ;

with a cursor, left to right, and looks at nothing behind the semicolon. An entry is a
`PRIMARY KEY` clause or a column definition; names in a key have to be declared by an earlier entry.

`Cursor.optional` tries a phrase. When it does not match to its end, the cursor steps back over one
token only: over the one that differs, or, at the end of the text, over the last one that matched.
The words matched before it stay read. So `IF` alone before a table name is passed over, and so is
`PRIMARY` alone before a column name.

Every loop reads at least one token a turn (`left_keyColumn_lt`, `left_entry_lt`), and no reader
ends before the place where it began (`left_optional_le`).
-/

namespace PartitionSize

namespace Cursor

/-! ## Words -/

/-- The next token. -/
def token (c : Cursor) : Except StatementError (Token × Cursor) :=
  match c.next with
  | (none, _) => .error .endOfInput
  | (some t, c') => .ok (t, c')

/-- Reads the given words; the first token that differs is the error. -/
def expect (c : Cursor) : List String → Except StatementError Cursor
  | [] => .ok c
  | word :: words =>
    match c.next with
    | (none, _) => .error .endOfInput
    | (some t, c') => if Token.is t word then c'.expect words else .error (.unexpectedToken word t)

/-- Reads the given words as far as they match, then undoes one token if not all do. -/
def tryWords (c : Cursor) : List String → Bool × Cursor
  | [] => (true, c)
  | word :: words =>
    match c.next with
    | (none, c') => (false, c'.undo)
    | (some t, c') => if Token.is t word then c'.tryWords words else (false, c'.undo)

/-- Reads a phrase that may be absent, and says whether all of it was there. -/
def optional (c : Cursor) (phrase : List String) : Bool × Cursor := c.resetHistory.tryWords phrase

/-- Reads a name: any token but a mark. -/
def name (c : Cursor) (role : NameRole) : Except StatementError (String × Cursor) := do
  let (t, c) ← c.token
  if Token.isMark t then .error (.unexpectedToken role.description t) else .ok (t, c)

/-! ## What no reader leaves more of -/

theorem left_token_lt {c c' : Cursor} {t : Token} (h : c.token = .ok (t, c')) :
    c'.left < c.left := by
  unfold token at h
  split at h
  · simp at h
  · next h' => cases h; exact left_next_lt h'

theorem left_name_lt {c c' : Cursor} {role : NameRole} {n : String}
    (h : c.name role = .ok (n, c')) : c'.left < c.left := by
  unfold name at h
  cases ht : c.token with
  | error e => simp [ht, bind, Except.bind] at h
  | ok r =>
    simp only [ht, bind, Except.bind] at h
    split at h
    · simp at h
    · cases h; exact left_token_lt ht

theorem left_expect_le {c c' : Cursor} {words : List String} (h : c.expect words = .ok c') :
    c'.left ≤ c.left := by
  induction words generalizing c with
  | nil => cases h; exact Nat.le_refl _
  | cons word words ih =>
    unfold expect at h
    split at h
    · simp at h
    · next hn =>
      split at h
      · exact Nat.le_trans (ih h) (Nat.le_of_lt (left_next_lt hn))
      · simp at h

theorem left_tryWords_le {n : Nat} {c : Cursor} (words : List String) (h : c.Within n) :
    (c.tryWords words).2.left ≤ n := by
  induction words generalizing c with
  | nil => exact h.1
  | cons word words ih =>
    have hn := h.next
    unfold tryWords
    split
    · next hc => rw [hc] at hn; exact left_undo_le hn
    · next hc =>
      rw [hc] at hn
      split
      · exact ih hn
      · exact left_undo_le hn

theorem left_optional_le (c : Cursor) (phrase : List String) :
    (c.optional phrase).2.left ≤ c.left :=
  left_tryWords_le phrase c.within_resetHistory

theorem left_optional_le' {c c' : Cursor} {phrase : List String} {found : Bool}
    (h : c.optional phrase = (found, c')) : c'.left ≤ c.left := by
  have := c.left_optional_le phrase
  rwa [h] at this

/-! ## Columns -/

/-- The rest of a type inside `depth` open brackets, glued to the text before it. -/
def typeArguments (depth : Nat) (text : String) (c : Cursor) :
    Except StatementError (String × Cursor) :=
  match depth with
  | 0 => .ok (text, c)
  | depth + 1 =>
    match _h : c.next with
    | (none, _) => .error .endOfInput
    | (some t, c') =>
      typeArguments (if t = "<" then depth + 2 else if t = ">" then depth else depth + 1)
        (text ++ t) c'
termination_by c.left
decreasing_by exact left_next_lt ‹_›

/-- A type: a name, or a name and its bracketed arguments without the blanks. -/
def dataType (c : Cursor) : Except StatementError (DataType × Cursor) := do
  let (name, c) ← c.name .dataType
  match c.optional ["<"] with
  | (false, c) => .ok ({ name }, c)
  | (true, c) =>
    let (name, c) ← c.typeArguments 1 (name ++ "<")
    .ok ({ name }, c)

/-- A column definition `name type [PRIMARY KEY] [STATIC]`, and whether it has an inline key. -/
def columnDefinition (c : Cursor) : Except StatementError ((Column × Bool) × Cursor) := do
  let (name, c) ← c.name .column
  let (dataType, c) ← c.dataType
  let key := c.optional ["PRIMARY", "KEY"]
  let static := key.2.optional ["STATIC"]
  .ok (({ name, dataType, isStatic := static.1 }, key.1), static.2)

/-! ## Primary keys -/

/-- A column of a primary key clause. -/
def keyColumn (declared : List Column) (c : Cursor) : Except StatementError (Column × Cursor) := do
  let (name, c) ← c.name .column
  let column ← PrimaryKey.resolve declared name
  .ok (column, c)

theorem left_keyColumn_lt {declared : List Column} {c c' : Cursor} {column : Column}
    (h : c.keyColumn declared = .ok (column, c')) : c'.left < c.left := by
  unfold keyColumn at h
  cases hn : c.name .column with
  | error e => simp [hn, bind, Except.bind] at h
  | ok r =>
    simp only [hn, bind, Except.bind] at h
    split at h
    · simp at h
    · cases h; exact left_name_lt hn

/-- Further key columns, each after a comma. -/
def moreKeyColumns (declared : List Column) (c : Cursor) :
    Except StatementError (List Column × Cursor) :=
  match _h : c.optional [","] with
  | (false, c') => .ok ([], c')
  | (true, c') =>
    match _h' : c'.keyColumn declared with
    | .error e => .error e
    | .ok (column, c'') =>
      match moreKeyColumns declared c'' with
      | .error e => .error e
      | .ok (columns, d) => .ok (column :: columns, d)
termination_by c.left
decreasing_by exact Nat.lt_of_lt_of_le (left_keyColumn_lt ‹_›) (left_optional_le' ‹_›)

/-- The partition part of a clause: one column, or several in parentheses. -/
def partitionColumns (declared : List Column) (c : Cursor) :
    Except StatementError (List Column × Cursor) := do
  match c.optional ["("] with
  | (false, c) =>
    let (column, c) ← c.keyColumn declared
    .ok ([column], c)
  | (true, c) =>
    let (column, c) ← c.keyColumn declared
    let (columns, c) ← c.moreKeyColumns declared
    let c ← c.expect [")"]
    .ok (column :: columns, c)

/-- A primary key clause after its two keywords. -/
def keyClause (declared : List Column) (c : Cursor) :
    Except StatementError (PrimaryKey × Cursor) := do
  let c ← c.expect ["("]
  let (partition, c) ← c.partitionColumns declared
  let (clustering, c) ← c.moreKeyColumns declared
  let c ← c.expect [")"]
  .ok ({ partition, clustering }, c)

/-! ## Entries -/

/-- One entry of the column list: a primary key clause or a column definition. -/
def entry (d : Declarations) (c : Cursor) : Except StatementError (Declarations × Cursor) := do
  match c.optional ["PRIMARY", "KEY"] with
  | (true, c) =>
    let (key, c) ← c.keyClause d.columns
    let d ← d.setPrimaryKey key
    .ok (d, c)
  | (false, c) =>
    let ((column, inlineKey), c) ← c.columnDefinition
    let d ← d.define column inlineKey
    .ok (d, c)

/-! ## Every entry reads on -/

theorem left_typeArguments_le {depth : Nat} {text : String} {c c' : Cursor} {s : String}
    (h : c.typeArguments depth text = .ok (s, c')) : c'.left ≤ c.left := by
  fun_induction typeArguments depth text c with
  | case1 text c => cases h; exact Nat.le_refl _
  | case2 => cases h
  | case3 text c depth t c'' hn ih => exact Nat.le_trans (ih h) (Nat.le_of_lt (left_next_lt hn))

theorem left_dataType_lt {c c' : Cursor} {t : DataType} (h : c.dataType = .ok (t, c')) :
    c'.left < c.left := by
  unfold dataType at h
  obtain ⟨⟨name, c1⟩, hn, h⟩ := Except.exists_of_bind_eq_ok h
  refine Nat.lt_of_le_of_lt ?_ (left_name_lt hn)
  dsimp only at h
  split at h
  · next ho => cases h; exact left_optional_le' ho
  · next ho =>
    obtain ⟨⟨name', c2⟩, ha, h⟩ := Except.exists_of_bind_eq_ok h
    cases h
    exact Nat.le_trans (left_typeArguments_le ha) (left_optional_le' ho)

theorem left_columnDefinition_lt {c c' : Cursor} {r : Column × Bool}
    (h : c.columnDefinition = .ok (r, c')) : c'.left < c.left := by
  unfold columnDefinition at h
  obtain ⟨⟨name, c1⟩, hn, h⟩ := Except.exists_of_bind_eq_ok h
  obtain ⟨⟨t, c2⟩, ht, h⟩ := Except.exists_of_bind_eq_ok h
  simp only [Except.ok.injEq, Prod.mk.injEq] at h
  obtain ⟨-, rfl⟩ := h
  refine Nat.lt_of_le_of_lt (left_optional_le _ _) (Nat.lt_of_le_of_lt (left_optional_le _ _) ?_)
  exact Nat.lt_trans (left_dataType_lt ht) (left_name_lt hn)

theorem left_moreKeyColumns_le {declared : List Column} {c c' : Cursor} {columns : List Column}
    (h : c.moreKeyColumns declared = .ok (columns, c')) : c'.left ≤ c.left := by
  fun_induction moreKeyColumns declared c generalizing columns c' with
  | case1 c c1 ho => cases h; exact left_optional_le' ho
  | case2 => cases h
  | case3 => cases h
  | case4 c c1 ho column c2 hk columns' d hd ih =>
    cases h
    exact Nat.le_trans (ih hd)
      (Nat.le_of_lt (Nat.lt_of_lt_of_le (left_keyColumn_lt hk) (left_optional_le' ho)))

theorem left_partitionColumns_lt {declared : List Column} {c c' : Cursor} {columns : List Column}
    (h : c.partitionColumns declared = .ok (columns, c')) : c'.left < c.left := by
  unfold partitionColumns at h
  split at h
  · next ho =>
    obtain ⟨⟨column, c1⟩, hk, h⟩ := Except.exists_of_bind_eq_ok h
    cases h
    exact Nat.lt_of_lt_of_le (left_keyColumn_lt hk) (left_optional_le' ho)
  · next ho =>
    obtain ⟨⟨column, c1⟩, hk, h⟩ := Except.exists_of_bind_eq_ok h
    obtain ⟨⟨more, c2⟩, hm, h⟩ := Except.exists_of_bind_eq_ok h
    obtain ⟨c3, he, h⟩ := Except.exists_of_bind_eq_ok h
    cases h
    exact Nat.lt_of_le_of_lt (left_expect_le he) (Nat.lt_of_le_of_lt (left_moreKeyColumns_le hm)
      (Nat.lt_of_lt_of_le (left_keyColumn_lt hk) (left_optional_le' ho)))

theorem left_keyClause_lt {declared : List Column} {c c' : Cursor} {key : PrimaryKey}
    (h : c.keyClause declared = .ok (key, c')) : c'.left < c.left := by
  unfold keyClause at h
  obtain ⟨c1, h1, h⟩ := Except.exists_of_bind_eq_ok h
  obtain ⟨⟨partition, c2⟩, h2, h⟩ := Except.exists_of_bind_eq_ok h
  obtain ⟨⟨clustering, c3⟩, h3, h⟩ := Except.exists_of_bind_eq_ok h
  obtain ⟨c4, h4, h⟩ := Except.exists_of_bind_eq_ok h
  cases h
  exact Nat.lt_of_le_of_lt (left_expect_le h4) (Nat.lt_of_le_of_lt (left_moreKeyColumns_le h3)
    (Nat.lt_of_lt_of_le (left_partitionColumns_lt h2) (left_expect_le h1)))

theorem left_entry_lt {d d' : Declarations} {c c' : Cursor} (h : c.entry d = .ok (d', c')) :
    c'.left < c.left := by
  unfold entry at h
  split at h
  · next ho =>
    obtain ⟨⟨key, c1⟩, hk, h⟩ := Except.exists_of_bind_eq_ok h
    obtain ⟨d1, hd, h⟩ := Except.exists_of_bind_eq_ok h
    cases h
    exact Nat.lt_of_lt_of_le (left_keyClause_lt hk) (left_optional_le' ho)
  · next ho =>
    obtain ⟨⟨⟨column, inlineKey⟩, c1⟩, hk, h⟩ := Except.exists_of_bind_eq_ok h
    obtain ⟨d1, hd, h⟩ := Except.exists_of_bind_eq_ok h
    cases h
    exact Nat.lt_of_lt_of_le (left_columnDefinition_lt hk) (left_optional_le' ho)

/-- The entries of a column list, separated by commas, on top of what is declared already. -/
def entries (d : Declarations) (c : Cursor) : Except StatementError (Declarations × Cursor) :=
  match _h : c.entry d with
  | .error e => .error e
  | .ok (d', c') =>
    match _h' : c'.optional [","] with
    | (false, c'') => .ok (d', c'')
    | (true, c'') => entries d' c''
termination_by c.left
decreasing_by exact Nat.lt_of_le_of_lt (left_optional_le' ‹_›) (left_entry_lt ‹_›)

/-- A whole statement. -/
def statement (c : Cursor) : Except StatementError Schema := do
  let c ← c.expect ["CREATE", "TABLE"]
  let (tableName, c) ← (c.optional ["IF", "NOT", "EXISTS"]).2.name .table
  let c ← c.expect ["("]
  let (d, c) ← c.entries {}
  let _ ← c.expect [")", ";"]
  .ok (d.toSchema tableName)

end Cursor

/-- The schema that a text declares. -/
def Schema.parse (text : String) : Except StatementError Schema :=
  (Cursor.ofText text).statement

end PartitionSize
