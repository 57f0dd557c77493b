import PartitionSize.Statement
import PartitionSize.Token

/-!
# Reading a statement off a list of tokens

The same statements as in `PartitionSize.Statement.Reader`, read by recursive descent from the plain
list of tokens: there are no offsets, no blanks and no history, and nothing is ever put back but by
counting. `OnePass.optional` says in one line what a trial does: it drops as many tokens as match,
one fewer if the list ends there before the phrase does.
-/

namespace PartitionSize.OnePass

/-- Whether all of a phrase stands at the front, and what is left after a trial. -/
def optional (phrase : List String) (ts : List Token) : Bool × List Token :=
  let n := Token.matchLength phrase ts
  if n = phrase.length then (true, ts.drop n)
  else if n < ts.length then (false, ts.drop n)
  else (false, ts.drop (n - 1))

/-- The tokens after the given words. -/
def expect : List String → List Token → Except StatementError (List Token)
  | [], ts => .ok ts
  | _ :: _, [] => .error .endOfInput
  | word :: words, t :: ts =>
    if Token.is t word then expect words ts else .error (.unexpectedToken word t)

/-- A name: any token but a mark. -/
def name (role : NameRole) : List Token → Except StatementError (String × List Token)
  | [] => .error .endOfInput
  | t :: ts =>
    if Token.isMark t then .error (.unexpectedToken role.description t) else .ok (t, ts)

/-- The rest of a type inside `depth` open brackets, glued to the text before it. -/
def typeArguments : Nat → String → List Token → Except StatementError (String × List Token)
  | 0, text, ts => .ok (text, ts)
  | _ + 1, _, [] => .error .endOfInput
  | depth + 1, text, t :: ts =>
    typeArguments (if t = "<" then depth + 2 else if t = ">" then depth else depth + 1)
      (text ++ t) ts

/-- A type: a name, or a name and its bracketed arguments. -/
def dataType (ts : List Token) : Except StatementError (DataType × List Token) := do
  let (name, ts) ← name .dataType ts
  match optional ["<"] ts with
  | (false, ts) => .ok ({ name }, ts)
  | (true, ts) =>
    let (name, ts) ← typeArguments 1 (name ++ "<") ts
    .ok ({ name }, ts)

/-- A column definition, and whether it has an inline key. -/
def columnDefinition (ts : List Token) :
    Except StatementError ((Column × Bool) × List Token) := do
  let (name, ts) ← name .column ts
  let (dataType, ts) ← dataType ts
  let key := optional ["PRIMARY", "KEY"] ts
  let static := optional ["STATIC"] key.2
  .ok (({ name, dataType, isStatic := static.1 }, key.1), static.2)

/-- A column of a primary key clause. -/
def keyColumn (declared : List Column) (ts : List Token) :
    Except StatementError (Column × List Token) := do
  let (name, ts) ← name .column ts
  let column ← PrimaryKey.resolve declared name
  .ok (column, ts)

/-! ## Loops -/

theorem length_optional_le (phrase : List String) (ts : List Token) :
    (optional phrase ts).2.length ≤ ts.length := by
  unfold optional
  dsimp only
  split
  · simp
  · split <;> simp

theorem length_name_lt {role : NameRole} {ts ts' : List Token} {n : String}
    (h : name role ts = .ok (n, ts')) : ts'.length < ts.length := by
  cases ts with
  | nil => simp [name] at h
  | cons t ts =>
    simp only [name] at h
    split at h
    · simp at h
    · cases h; simp

theorem length_keyColumn_lt {declared : List Column} {ts ts' : List Token} {column : Column}
    (h : keyColumn declared ts = .ok (column, ts')) : ts'.length < ts.length := by
  unfold keyColumn at h
  cases hn : name .column ts with
  | error e => simp [hn, bind, Except.bind] at h
  | ok r =>
    simp only [hn, bind, Except.bind] at h
    split at h
    · simp at h
    · cases h; exact length_name_lt hn

/-- Further key columns, each after a comma. -/
def moreKeyColumns (declared : List Column) (ts : List Token) :
    Except StatementError (List Column × List Token) :=
  match (optional [","] ts).1 with
  | false => .ok ([], (optional [","] ts).2)
  | true =>
    match _h : keyColumn declared (optional [","] ts).2 with
    | .error e => .error e
    | .ok (column, ts') =>
      match moreKeyColumns declared ts' with
      | .error e => .error e
      | .ok (columns, rest) => .ok (column :: columns, rest)
termination_by ts.length
decreasing_by exact Nat.lt_of_lt_of_le (length_keyColumn_lt ‹_›) (length_optional_le ..)

/-- The partition part of a clause: one column, or several in parentheses. -/
def partitionColumns (declared : List Column) (ts : List Token) :
    Except StatementError (List Column × List Token) := do
  match optional ["("] ts with
  | (false, ts) =>
    let (column, ts) ← keyColumn declared ts
    .ok ([column], ts)
  | (true, ts) =>
    let (column, ts) ← keyColumn declared ts
    let (columns, ts) ← moreKeyColumns declared ts
    let ts ← expect [")"] ts
    .ok (column :: columns, ts)

/-- A primary key clause after its two keywords. -/
def keyClause (declared : List Column) (ts : List Token) :
    Except StatementError (PrimaryKey × List Token) := do
  let ts ← expect ["("] ts
  let (partition, ts) ← partitionColumns declared ts
  let (clustering, ts) ← moreKeyColumns declared ts
  let ts ← expect [")"] ts
  .ok ({ partition, clustering }, ts)

/-- One entry of the column list. -/
def entry (d : Declarations) (ts : List Token) :
    Except StatementError (Declarations × List Token) := do
  match optional ["PRIMARY", "KEY"] ts with
  | (true, ts) =>
    let (key, ts) ← keyClause d.columns ts
    let d ← d.setPrimaryKey key
    .ok (d, ts)
  | (false, ts) =>
    let ((column, inlineKey), ts) ← columnDefinition ts
    let d ← d.define column inlineKey
    .ok (d, ts)

/-! ## Every entry takes tokens -/

theorem length_optional_le' {phrase : List String} {ts ts' : List Token} {found : Bool}
    (h : optional phrase ts = (found, ts')) : ts'.length ≤ ts.length := by
  have := length_optional_le phrase ts
  rwa [h] at this

theorem length_expect_le {words : List String} {ts ts' : List Token}
    (h : expect words ts = .ok ts') : ts'.length ≤ ts.length := by
  fun_induction expect words ts with
  | case1 => cases h; exact Nat.le_refl _
  | case2 => cases h
  | case3 word words t ts _ ih => exact Nat.le_succ_of_le (ih h)
  | case4 => cases h

theorem length_typeArguments_le {depth : Nat} {text s : String} {ts ts' : List Token}
    (h : typeArguments depth text ts = .ok (s, ts')) : ts'.length ≤ ts.length := by
  fun_induction typeArguments depth text ts with
  | case1 => cases h; exact Nat.le_refl _
  | case2 => cases h
  | case3 text depth t ts ih => exact Nat.le_succ_of_le (ih h)

theorem length_dataType_lt {ts ts' : List Token} {t : DataType} (h : dataType ts = .ok (t, ts')) :
    ts'.length < ts.length := by
  unfold dataType at h
  obtain ⟨⟨n, ts1⟩, hn, h⟩ := Except.exists_of_bind_eq_ok h
  refine Nat.lt_of_le_of_lt ?_ (length_name_lt hn)
  dsimp only at h
  split at h
  · next ho => cases h; exact length_optional_le' ho
  · next ho =>
    obtain ⟨⟨n', ts2⟩, ha, h⟩ := Except.exists_of_bind_eq_ok h
    cases h
    exact Nat.le_trans (length_typeArguments_le ha) (length_optional_le' ho)

theorem length_columnDefinition_lt {ts ts' : List Token} {r : Column × Bool}
    (h : columnDefinition ts = .ok (r, ts')) : ts'.length < ts.length := by
  unfold columnDefinition at h
  obtain ⟨⟨n, ts1⟩, hn, h⟩ := Except.exists_of_bind_eq_ok h
  obtain ⟨⟨t, ts2⟩, ht, h⟩ := Except.exists_of_bind_eq_ok h
  simp only [Except.ok.injEq, Prod.mk.injEq] at h
  obtain ⟨-, rfl⟩ := h
  refine Nat.lt_of_le_of_lt (length_optional_le _ _)
    (Nat.lt_of_le_of_lt (length_optional_le _ _) ?_)
  exact Nat.lt_trans (length_dataType_lt ht) (length_name_lt hn)

theorem length_moreKeyColumns_le {declared columns : List Column} {ts ts' : List Token}
    (h : moreKeyColumns declared ts = .ok (columns, ts')) : ts'.length ≤ ts.length := by
  fun_induction moreKeyColumns declared ts generalizing columns ts' with
  | case1 => cases h; exact length_optional_le _ _
  | case2 => cases h
  | case3 => cases h
  | case4 ts _ column ts1 hk columns' rest hr ih =>
    cases h
    exact Nat.le_trans (ih hr)
      (Nat.le_of_lt (Nat.lt_of_lt_of_le (length_keyColumn_lt hk) (length_optional_le _ _)))

theorem length_partitionColumns_lt {declared columns : List Column} {ts ts' : List Token}
    (h : partitionColumns declared ts = .ok (columns, ts')) : ts'.length < ts.length := by
  unfold partitionColumns at h
  split at h
  · next ho =>
    obtain ⟨⟨column, ts1⟩, hk, h⟩ := Except.exists_of_bind_eq_ok h
    cases h
    exact Nat.lt_of_lt_of_le (length_keyColumn_lt hk) (length_optional_le' ho)
  · next ho =>
    obtain ⟨⟨column, ts1⟩, hk, h⟩ := Except.exists_of_bind_eq_ok h
    obtain ⟨⟨more, ts2⟩, hm, h⟩ := Except.exists_of_bind_eq_ok h
    obtain ⟨ts3, he, h⟩ := Except.exists_of_bind_eq_ok h
    cases h
    exact Nat.lt_of_le_of_lt (length_expect_le he)
      (Nat.lt_of_le_of_lt (length_moreKeyColumns_le hm)
        (Nat.lt_of_lt_of_le (length_keyColumn_lt hk) (length_optional_le' ho)))

theorem length_keyClause_lt {declared : List Column} {ts ts' : List Token} {key : PrimaryKey}
    (h : keyClause declared ts = .ok (key, ts')) : ts'.length < ts.length := by
  unfold keyClause at h
  obtain ⟨ts1, h1, h⟩ := Except.exists_of_bind_eq_ok h
  obtain ⟨⟨partition, ts2⟩, h2, h⟩ := Except.exists_of_bind_eq_ok h
  obtain ⟨⟨clustering, ts3⟩, h3, h⟩ := Except.exists_of_bind_eq_ok h
  obtain ⟨ts4, h4, h⟩ := Except.exists_of_bind_eq_ok h
  cases h
  exact Nat.lt_of_le_of_lt (length_expect_le h4)
    (Nat.lt_of_le_of_lt (length_moreKeyColumns_le h3)
      (Nat.lt_of_lt_of_le (length_partitionColumns_lt h2) (length_expect_le h1)))

theorem length_entry_lt {d d' : Declarations} {ts ts' : List Token}
    (h : entry d ts = .ok (d', ts')) : ts'.length < ts.length := by
  unfold entry at h
  split at h
  · next ho =>
    obtain ⟨⟨key, ts1⟩, hk, h⟩ := Except.exists_of_bind_eq_ok h
    obtain ⟨d1, hd, h⟩ := Except.exists_of_bind_eq_ok h
    cases h
    exact Nat.lt_of_lt_of_le (length_keyClause_lt hk) (length_optional_le' ho)
  · next ho =>
    obtain ⟨⟨⟨column, inlineKey⟩, ts1⟩, hk, h⟩ := Except.exists_of_bind_eq_ok h
    obtain ⟨d1, hd, h⟩ := Except.exists_of_bind_eq_ok h
    cases h
    exact Nat.lt_of_lt_of_le (length_columnDefinition_lt hk) (length_optional_le' ho)

/-- The entries of a column list, on top of what is declared already. -/
def entries (d : Declarations) (ts : List Token) :
    Except StatementError (Declarations × List Token) :=
  match _h : entry d ts with
  | .error e => .error e
  | .ok (d', ts') =>
    match (optional [","] ts').1 with
    | false => .ok (d', (optional [","] ts').2)
    | true => entries d' (optional [","] ts').2
termination_by ts.length
decreasing_by exact Nat.lt_of_le_of_lt (length_optional_le _ _) (length_entry_lt ‹_›)

/-- A whole statement; the tokens after it are not looked at. -/
def statement (ts : List Token) : Except StatementError Schema := do
  let ts ← expect ["CREATE", "TABLE"] ts
  let (tableName, ts) ← name .table (optional ["IF", "NOT", "EXISTS"] ts).2
  let ts ← expect ["("] ts
  let (d, ts) ← entries {} ts
  let _ ← expect [")", ";"] ts
  .ok (d.toSchema tableName)

end PartitionSize.OnePass
