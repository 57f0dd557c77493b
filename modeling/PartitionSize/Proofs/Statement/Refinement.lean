import PartitionSize.Proofs.Token.Simulation
import PartitionSize.Statement.OnePass
import PartitionSize.Statement.Reader

/-!
# The reader is a one-pass reader

The reader of `PartitionSize.Statement.Reader` moves a cursor, remembers places and steps back; the
one of `PartitionSize.Statement.OnePass` takes tokens off a list. Each reader of the first kind,
shown by the tokens ahead of its cursor (`shown`), is the reader of the same name of the second kind
at the tokens ahead of the cursor it starts with: `shown_name`, `shown_dataType`, `shown_entry`, up
to `statement_eq_onePass`.

* **A trial** (`optional_ahead`): the step back after a failed trial undoes the token that differs.
  Where the text ends inside the phrase there is no such token, and the step undoes the last one
  that matched (`ahead_tryWords`).
* **Layout does not matter** (`parse_refines_onePass`): texts with the same tokens are read alike,
  whatever blanks stand between them.
-/

namespace PartitionSize

/-- Two chains whose steps agree up to a view of their results agree up to it. -/
theorem Except.map_bind_eq_bind {ε α α' β β' : Type} {x : Except ε α} {y : Except ε α'}
    {f : α → Except ε β} {g : α' → Except ε β'} {v : α → α'} {w : β → β'} (hx : x.map v = y)
    (hf : ∀ a, x = .ok a → (f a).map w = g (v a)) : (x >>= f).map w = y >>= g := by
  subst hx
  cases x with
  | error e => rfl
  | ok a => exact hf a rfl

/-! ## The loops as chains -/

theorem OnePass.moreKeyColumns_eq (declared : List Column) (ts : List Token) :
    moreKeyColumns declared ts = (match optional [","] ts with
      | (false, ts) => .ok ([], ts)
      | (true, ts) => do
        let (column, ts) ← keyColumn declared ts
        let (columns, ts) ← moreKeyColumns declared ts
        .ok (column :: columns, ts)) := by
  conv => lhs; rw [moreKeyColumns]
  match optional [","] ts with
  | (false, ts') => rfl
  | (true, ts') =>
    dsimp only
    split
    · next hk => rw [hk]; rfl
    · next hk =>
      rw [hk]
      change _ = (moreKeyColumns declared _ >>= _)
      split
      · next hm => rw [hm]; rfl
      · next hm => rw [hm]; rfl

theorem Cursor.moreKeyColumns_eq (declared : List Column) (c : Cursor) :
    c.moreKeyColumns declared = (match c.optional [","] with
      | (false, c) => .ok ([], c)
      | (true, c) => do
        let (column, c) ← c.keyColumn declared
        let (columns, c) ← c.moreKeyColumns declared
        .ok (column :: columns, c)) := by
  conv => lhs; rw [moreKeyColumns]
  split
  · next ho => rw [ho]
  · next ho =>
    rw [ho]
    dsimp only
    split
    · next hk => rw [hk]; rfl
    · next hk =>
      rw [hk]
      change _ = (moreKeyColumns declared _ >>= _)
      split
      · next hm => rw [hm]; rfl
      · next hm => rw [hm]; rfl

theorem OnePass.entries_eq (d : Declarations) (ts : List Token) :
    entries d ts = entry d ts >>= fun (d, ts) => match optional [","] ts with
      | (false, ts) => .ok (d, ts)
      | (true, ts) => entries d ts := by
  conv => lhs; rw [entries]
  split
  · next he => rw [he]; rfl
  · next d' ts' he =>
    rw [he]
    change _ = match optional [","] ts' with
      | (false, ts) => Except.ok (d', ts)
      | (true, ts) => entries d' ts
    rcases optional [","] ts' with ⟨_ | _, ts'⟩
    · rfl
    · rfl

theorem Cursor.entries_eq (d : Declarations) (c : Cursor) :
    c.entries d = c.entry d >>= fun (d, c) => match c.optional [","] with
      | (false, c) => .ok (d, c)
      | (true, c) => entries d c := by
  conv => lhs; rw [entries]
  split
  · next he => rw [he]; rfl
  · next d' c' he =>
    rw [he]
    change _ = match c'.optional [","] with
      | (false, c) => Except.ok (d', c)
      | (true, c) => entries d' c
    split
    · next ho => rw [ho]
    · next ho => rw [ho]

namespace Cursor

/-- The result of a reader, and the tokens ahead of the cursor it leaves. -/
def view {α : Type} (r : α × Cursor) : α × List Token := (r.1, r.2.ahead)

/-- What a reader shows: its result and the tokens ahead, or its error. -/
def shown {α : Type} (r : Except StatementError (α × Cursor)) :
    Except StatementError (α × List Token) := r.map view

/-! ## Words -/

theorem shown_token (c : Cursor) :
    shown c.token = match c.ahead with
      | [] => .error .endOfInput
      | t :: ts => .ok (t, ts) := by
  unfold token
  split
  · next h => rw [(ahead_next_none h).1]; rfl
  · next h => rw [ahead_next_some h]; rfl

theorem map_expect (c : Cursor) (words : List String) :
    (c.expect words).map ahead = OnePass.expect words c.ahead := by
  induction words generalizing c with
  | nil => rfl
  | cons word words ih =>
    unfold expect
    split
    · next h => rw [(ahead_next_none h).1]; rfl
    · next t c' h =>
      rw [ahead_next_some h, OnePass.expect]
      split
      · exact ih c'
      · rfl

theorem shown_name (c : Cursor) (role : NameRole) :
    shown (c.name role) = OnePass.name role c.ahead := by
  have h := c.shown_token
  unfold name
  cases hc : c.token with
  | error e =>
    rw [hc] at h
    cases ha : c.ahead with
    | nil => rw [ha] at h; cases h; rfl
    | cons t ts => rw [ha] at h; cases h
  | ok r =>
    rw [hc] at h
    cases ha : c.ahead with
    | nil => rw [ha] at h; cases h
    | cons t ts =>
      rw [ha] at h
      cases h
      simp only [OnePass.name, bind, Except.bind]
      split <;> rfl

/-! ## Trials -/

/-- A trial after at least one token taken: it drops what matches, and where the tokens end inside
the phrase it gives one token back, be it one of the phrase or the token taken before. -/
theorem ahead_tryWords {c : Cursor} {t : Token} {taken left : List Token}
    (h : Tracks c { taken := t :: taken, left }) (words : List String) :
    view (c.tryWords words) =
      let n := Token.matchLength words left
      if n = words.length then (true, left.drop n)
      else if n < left.length then (false, left.drop n)
      else (false, (t :: left).drop n) := by
  induction words generalizing c t taken left with
  | nil => simp [tryWords, view, Token.matchLength, h.left]
  | cons word words ih =>
    obtain ⟨hr, hn⟩ := h.next
    cases left with
    | nil =>
      have hc : c.next = (none, c.next.2) := Prod.ext hr rfl
      rw [tryWords, hc]
      simp [view, Token.matchLength, hn.undo.left, Zipper.next, Zipper.undo]
    | cons t' left =>
      have hc : c.next = (some t', c.next.2) := Prod.ext hr rfl
      rw [tryWords, hc]
      by_cases hw : Token.is t' word
      · simp [hw, Token.matchLength, ih hn]
      · simp [hw, view, Token.matchLength, hn.undo.left, Zipper.next, Zipper.undo]

theorem optional_ahead (c : Cursor) (phrase : List String) :
    view (c.optional phrase) = OnePass.optional phrase c.ahead := by
  have h := c.tracks_resetHistory
  unfold optional OnePass.optional
  cases phrase with
  | nil => simp [tryWords, view, Token.matchLength]
  | cons word words =>
    obtain ⟨hr, hn⟩ := h.next
    cases ha : c.ahead with
    | nil =>
      rw [ha] at hr hn
      have hc : c.resetHistory.next = (none, c.resetHistory.next.2) := Prod.ext hr rfl
      rw [tryWords, hc]
      simp [view, Token.matchLength, hn.undo.left, Zipper.next, Zipper.undo]
    | cons t ts =>
      rw [ha] at hr hn
      have hc : c.resetHistory.next = (some t, c.resetHistory.next.2) := Prod.ext hr rfl
      rw [tryWords, hc]
      by_cases hw : Token.is t word
      · simp [hw, Token.matchLength, ahead_tryWords hn]
      · simp [hw, view, Token.matchLength, hn.undo.left, Zipper.next, Zipper.undo]

/-! ## Columns -/

theorem shown_typeArguments (depth : Nat) (text : String) (c : Cursor) :
    shown (c.typeArguments depth text) = OnePass.typeArguments depth text c.ahead := by
  fun_induction typeArguments depth text c with
  | case1 text c => rw [OnePass.typeArguments]; rfl
  | case2 text c depth c' h => rw [(ahead_next_none h).1]; rfl
  | case3 text c depth t c' h ih =>
    simp only [dite_eq_ite] at ih
    rw [ih, ahead_next_some h, OnePass.typeArguments]

theorem shown_dataType (c : Cursor) : shown c.dataType = OnePass.dataType c.ahead := by
  unfold dataType OnePass.dataType
  refine Except.map_bind_eq_bind (c.shown_name .dataType) fun ⟨name, c⟩ _ => ?_
  dsimp only [view]
  rw [← optional_ahead]
  match c.optional ["<"] with
  | (false, c) => rfl
  | (true, c) =>
    exact Except.map_bind_eq_bind (c.shown_typeArguments 1 (name ++ "<")) fun ⟨name, c⟩ _ => rfl

theorem shown_columnDefinition (c : Cursor) :
    shown c.columnDefinition = OnePass.columnDefinition c.ahead := by
  unfold columnDefinition OnePass.columnDefinition
  refine Except.map_bind_eq_bind (c.shown_name .column) fun ⟨name, c⟩ _ => ?_
  refine Except.map_bind_eq_bind c.shown_dataType fun ⟨dataType, c⟩ _ => ?_
  dsimp only [view]
  rw [← optional_ahead]
  dsimp only [view]
  rw [← optional_ahead]
  rfl

/-! ## Primary keys -/

theorem shown_keyColumn (declared : List Column) (c : Cursor) :
    shown (c.keyColumn declared) = OnePass.keyColumn declared c.ahead := by
  unfold keyColumn OnePass.keyColumn
  refine Except.map_bind_eq_bind (c.shown_name .column) fun ⟨name, c⟩ _ => ?_
  dsimp only [view]
  cases PrimaryKey.resolve declared name with
  | error e => rfl
  | ok column => rfl

theorem shown_moreKeyColumns (declared : List Column) (c : Cursor) :
    shown (c.moreKeyColumns declared) = OnePass.moreKeyColumns declared c.ahead := by
  rw [moreKeyColumns_eq, OnePass.moreKeyColumns_eq, ← optional_ahead]
  match _ho : c.optional [","] with
  | (false, c') => rfl
  | (true, c') =>
    refine Except.map_bind_eq_bind (c'.shown_keyColumn declared) fun ⟨column, c''⟩ hk => ?_
    exact Except.map_bind_eq_bind (shown_moreKeyColumns declared c'') fun ⟨columns, d⟩ _ => rfl
termination_by c.left
decreasing_by exact Nat.lt_of_lt_of_le (left_keyColumn_lt hk) (left_optional_le' _ho)

theorem shown_partitionColumns (declared : List Column) (c : Cursor) :
    shown (c.partitionColumns declared) = OnePass.partitionColumns declared c.ahead := by
  unfold partitionColumns OnePass.partitionColumns
  rw [← optional_ahead]
  match c.optional ["("] with
  | (false, c) =>
    exact Except.map_bind_eq_bind (c.shown_keyColumn declared) fun ⟨column, c⟩ _ => rfl
  | (true, c) =>
    refine Except.map_bind_eq_bind (c.shown_keyColumn declared) fun ⟨column, c⟩ _ => ?_
    refine Except.map_bind_eq_bind (c.shown_moreKeyColumns declared) fun ⟨columns, c⟩ _ => ?_
    exact Except.map_bind_eq_bind (c.map_expect [")"]) fun c _ => rfl

theorem shown_keyClause (declared : List Column) (c : Cursor) :
    shown (c.keyClause declared) = OnePass.keyClause declared c.ahead := by
  unfold keyClause OnePass.keyClause
  refine Except.map_bind_eq_bind (c.map_expect ["("]) fun c _ => ?_
  refine Except.map_bind_eq_bind (c.shown_partitionColumns declared) fun ⟨partition, c⟩ _ => ?_
  refine Except.map_bind_eq_bind (c.shown_moreKeyColumns declared) fun ⟨clustering, c⟩ _ => ?_
  exact Except.map_bind_eq_bind (c.map_expect [")"]) fun c _ => rfl

/-! ## Entries and statements -/

theorem shown_entry (d : Declarations) (c : Cursor) :
    shown (c.entry d) = OnePass.entry d c.ahead := by
  unfold entry OnePass.entry
  rw [← optional_ahead]
  match c.optional ["PRIMARY", "KEY"] with
  | (true, c) =>
    refine Except.map_bind_eq_bind (c.shown_keyClause d.columns) fun ⟨key, c⟩ _ => ?_
    dsimp only [view]
    cases d.setPrimaryKey key with
    | error e => rfl
    | ok d => rfl
  | (false, c) =>
    refine Except.map_bind_eq_bind c.shown_columnDefinition fun ⟨⟨column, inlineKey⟩, c⟩ _ => ?_
    dsimp only [view]
    cases d.define column inlineKey with
    | error e => rfl
    | ok d => rfl

theorem shown_entries (d : Declarations) (c : Cursor) :
    shown (c.entries d) = OnePass.entries d c.ahead := by
  rw [entries_eq, OnePass.entries_eq]
  refine Except.map_bind_eq_bind (c.shown_entry d) fun ⟨d', c'⟩ he => ?_
  dsimp only [view]
  rw [← optional_ahead]
  match _ho : c'.optional [","] with
  | (false, c'') => rfl
  | (true, c'') => exact shown_entries d' c''
termination_by c.left
decreasing_by exact Nat.lt_of_le_of_lt (left_optional_le' _ho) (left_entry_lt he)

theorem statement_eq_onePass (c : Cursor) : c.statement = OnePass.statement c.ahead := by
  suffices h : c.statement.map id = OnePass.statement c.ahead by
    cases hc : c.statement with
    | error e => rw [hc] at h; exact h
    | ok s => rw [hc] at h; exact h
  unfold statement OnePass.statement
  refine Except.map_bind_eq_bind (c.map_expect ["CREATE", "TABLE"]) fun c _ => ?_
  rw [← optional_ahead]
  refine Except.map_bind_eq_bind (shown_name _ .table) fun ⟨tableName, c⟩ _ => ?_
  refine Except.map_bind_eq_bind (c.map_expect ["("]) fun c _ => ?_
  refine Except.map_bind_eq_bind (c.shown_entries {}) fun ⟨d, c⟩ _ => ?_
  exact Except.map_bind_eq_bind (c.map_expect [")", ";"]) fun c _ => rfl

end Cursor

theorem Schema.parse_eq_onePass (text : String) :
    Schema.parse text = OnePass.statement (Token.scan text.toList) :=
  (Cursor.ofText text).statement_eq_onePass

/-- **One pass over the tokens.** Reading a text, with its cursor and its steps back, is reading the
plain list of its tokens; texts with the same tokens are read alike, errors included. -/
theorem Schema.parse_refines_onePass :
    (∀ text, Schema.parse text = OnePass.statement (Token.scan text.toList)) ∧
    ∀ text text' : String, Token.scan text.toList = Token.scan text'.toList →
      Schema.parse text = Schema.parse text' := by
  refine ⟨Schema.parse_eq_onePass, fun text text' h => ?_⟩
  rw [Schema.parse_eq_onePass, Schema.parse_eq_onePass, h]

/-- Two layouts of one statement. -/
theorem Schema.parse_eq_parse_of_layouts :
    Token.scan "CREATE TABLE t(id uuid PRIMARY KEY, m map<int,text>);".toList =
        Token.scan "\n CREATE\tTABLE t ( id uuid PRIMARY KEY , m map< int , text >\n) ; ".toList ∧
      Schema.parse "CREATE TABLE t(id uuid PRIMARY KEY, m map<int,text>);" =
        Schema.parse "\n CREATE\tTABLE t ( id uuid PRIMARY KEY , m map< int , text >\n) ; " := by
  have h : Token.scan "CREATE TABLE t(id uuid PRIMARY KEY, m map<int,text>);".toList =
      Token.scan "\n CREATE\tTABLE t ( id uuid PRIMARY KEY , m map< int , text >\n) ; ".toList := by
    decide +kernel
  exact ⟨h, Schema.parse_refines_onePass.2 _ _ h⟩

end PartitionSize
