import PartitionSize.Statement.Outline

/-!
# What the entries of a statement declare

Declaring an entry on top of the entries before it (`Entry.declare`) looks its names up in the
columns declared so far. `Declarations.ofEntries` is what a list of entries amounts to, said without
the order of work:

* **One entry** (`declare_ofEntries`): declaring `e` after `earlier` gives what `earlier ++ [e]`
  amounts to, unless `Entry.violation?` finds something wrong with `e`, which is then the error.
* **A list of entries** (`declareAll_ofEntries`): the same with `Entry.firstViolation?`.
* **Coherence** (`Outline.violation?_eq_none_iff`): nothing is wrong with an outline exactly when
  its key names resolve and at most one of its entries declares a key (`Outline.Coherent`).
-/

namespace PartitionSize

/-! ## Declaring entries -/

/-- One more entry on top of the declarations. -/
def Entry.declare (d : Declarations) : Entry → Except StatementError Declarations
  | .column name dataType inlineKey isStatic =>
    d.define { name, dataType := { name := dataType }, isStatic } inlineKey
  | .key partition clustering => do
    let partition ← partition.mapM (PrimaryKey.resolve d.columns)
    let clustering ← clustering.mapM (PrimaryKey.resolve d.columns)
    d.setPrimaryKey { partition, clustering }

/-- Entries in order on top of the declarations. -/
def Entry.declareAll (d : Declarations) : List Entry → Except StatementError Declarations
  | [] => .ok d
  | e :: entries => Entry.declare d e >>= fun d => Entry.declareAll d entries

/-- What entries amount to when nothing is wrong with them. -/
def Declarations.ofEntries (entries : List Entry) : Declarations :=
  { columns := Entry.columns entries, primaryKey := Entry.firstKey? [] entries }

namespace Entry

/-! ## Columns and keys of longer lists -/

theorem columns_append (entries entries' : List Entry) :
    columns (entries ++ entries') = columns entries ++ columns entries' := by
  simp [columns]

theorem isSome_primaryKey? (earlier : List Entry) (e : Entry) :
    (primaryKey? earlier e).isSome = e.declaresKey := by
  match e with
  | .column _ _ false _ => rfl
  | .column _ _ true _ => rfl
  | .key _ _ => rfl

theorem isSome_firstKey? (earlier entries : List Entry) :
    (firstKey? earlier entries).isSome = entries.any declaresKey := by
  induction entries generalizing earlier with
  | nil => rfl
  | cons e entries ih => simp [firstKey?, isSome_primaryKey?, ih]

theorem firstKey?_append_singleton (earlier entries : List Entry) (e : Entry) :
    firstKey? earlier (entries ++ [e]) =
      (firstKey? earlier entries).or (primaryKey? (earlier ++ entries) e) := by
  induction entries generalizing earlier with
  | nil => simp [firstKey?]
  | cons e' entries ih => simp [firstKey?, ih, Option.or_assoc]

theorem ofEntries_append_singleton (earlier : List Entry) (e : Entry) :
    Declarations.ofEntries (earlier ++ [e]) =
      { columns := columns earlier ++ e.column?.toList
        primaryKey := (firstKey? [] earlier).or (primaryKey? earlier e) } := by
  simp only [Declarations.ofEntries, columns_append, firstKey?_append_singleton, List.nil_append]
  cases h : e.column? <;> simp [columns, h]

/-! ## One entry -/

theorem firstKey?_eq_none {earlier : List Entry} (h : secondKey? earlier = none) :
    firstKey? [] earlier = none := by
  have hs := isSome_firstKey? [] earlier
  unfold secondKey? at h
  split at h
  · cases h
  · next ha => rw [← hs] at ha; simpa using ha

/-- A key is accepted unless an earlier entry declares one. -/
theorem setPrimaryKey_ofEntries (earlier : List Entry) (k : PrimaryKey) :
    (Declarations.ofEntries earlier).setPrimaryKey k =
      match secondKey? earlier with
      | some err => .error err
      | none => .ok { columns := columns earlier, primaryKey := some k } := by
  have h := isSome_firstKey? [] earlier
  unfold Declarations.setPrimaryKey secondKey?
  cases hk : firstKey? [] earlier with
  | none =>
    rw [hk] at h
    simp [Declarations.ofEntries, hk, ← h]
  | some k' =>
    rw [hk] at h
    simp [Declarations.ofEntries, hk, ← h]

/-- The names of a key in order: the first that is wrong is the error. -/
theorem mapM_resolve (earlier : List Entry) (names : List String) :
    names.mapM (PrimaryKey.resolve (columns earlier)) =
      match names.findSome? (nameViolation? earlier) with
      | some err => .error err
      | none => .ok (names.filterMap fun name => (columns earlier).find? (·.name == name)) := by
  induction names with
  | nil => rfl
  | cons name names ih =>
    rw [List.mapM_cons, ih]
    simp only [List.findSome?_cons, List.filterMap_cons, nameViolation?, PrimaryKey.resolve]
    cases (columns earlier).find? (·.name == name) with
    | none => rfl
    | some c =>
      by_cases hs : c.isStatic
      · simp [hs, bind, Except.bind]
      · simp only [hs]
        cases names.findSome? (nameViolation? earlier) with
        | none => rfl
        | some err => rfl

/-- **One entry** after others. -/
theorem declare_ofEntries (earlier : List Entry) (e : Entry) :
    declare (Declarations.ofEntries earlier) e =
      match violation? earlier e with
      | some err => .error err
      | none => .ok (Declarations.ofEntries (earlier ++ [e])) := by
  rw [ofEntries_append_singleton]
  match e with
  | .column name dataType false isStatic =>
    simp [declare, violation?, Declarations.define, Declarations.addColumn, primaryKey?, column?,
      Declarations.ofEntries]
  | .column name dataType true isStatic =>
    simp only [declare, violation?, Declarations.define, setPrimaryKey_ofEntries]
    by_cases hs : isStatic
    · simp [hs]
    · cases h2 : secondKey? earlier with
      | some err => simp [hs, Except.map]
      | none =>
        simp [hs, Except.map, Declarations.addColumn, primaryKey?, column?, firstKey?_eq_none h2]
  | .key partition clustering =>
    change (partition.mapM (PrimaryKey.resolve (columns earlier)) >>= _) = _
    simp only [violation?, mapM_resolve, List.findSome?_append]
    cases partition.findSome? (nameViolation? earlier) with
    | some err => rfl
    | none =>
      change (List.mapM (PrimaryKey.resolve (columns earlier)) clustering >>= _) = _
      rw [mapM_resolve]
      cases clustering.findSome? (nameViolation? earlier) with
      | some err => rfl
      | none =>
        simp only [bind, Except.bind, setPrimaryKey_ofEntries]
        cases h2 : secondKey? earlier with
        | some err => rfl
        | none => simp [primaryKey?, column?, firstKey?_eq_none h2]

/-- **A list of entries** after others: the leftmost violation is the error. -/
theorem declareAll_ofEntries (earlier entries : List Entry) :
    declareAll (Declarations.ofEntries earlier) entries =
      match firstViolation? earlier entries with
      | some err => .error err
      | none => .ok (Declarations.ofEntries (earlier ++ entries)) := by
  induction entries generalizing earlier with
  | nil => simp [declareAll, firstViolation?]
  | cons e entries ih =>
    rw [declareAll, declare_ofEntries, firstViolation?]
    cases violation? earlier e with
    | some err => rfl
    | none =>
      change declareAll (Declarations.ofEntries (earlier ++ [e])) entries = _
      rw [ih]
      simp

/-! ## Coherence -/

/-- The names that an entry puts into the key stand for columns that are not static: a clause names
columns declared earlier, an inline key the column it is written at. -/
def Resolves (earlier : List Entry) : Entry → Prop
  | .column _ _ inlineKey isStatic => inlineKey = true → isStatic = false
  | .key partition clustering => ∀ name ∈ partition ++ clustering,
      ∃ c, (columns earlier).find? (·.name == name) = some c ∧ c.isStatic = false

theorem nameViolation?_eq_none_iff (earlier : List Entry) (name : String) :
    nameViolation? earlier name = none ↔
      ∃ c, (columns earlier).find? (·.name == name) = some c ∧ c.isStatic = false := by
  unfold nameViolation?
  cases (columns earlier).find? (·.name == name) with
  | none => simp
  | some c => simp

theorem secondKey?_eq_none_iff (earlier : List Entry) :
    secondKey? earlier = none ↔ earlier.any declaresKey = false := by
  unfold secondKey?
  split <;> simp_all

theorem violation?_eq_none_iff (earlier : List Entry) (e : Entry) :
    violation? earlier e = none ↔
      e.Resolves earlier ∧ (e.declaresKey = true → earlier.any declaresKey = false) := by
  match e with
  | .column name dataType false isStatic => simp [violation?, Resolves, declaresKey]
  | .column name dataType true isStatic =>
    cases isStatic <;> simp [violation?, Resolves, declaresKey, secondKey?_eq_none_iff]
  | .key partition clustering =>
    simp only [violation?, Option.or_eq_none_iff, List.findSome?_eq_none_iff,
      nameViolation?_eq_none_iff, secondKey?_eq_none_iff, Resolves, declaresKey, forall_const]

theorem firstViolation?_eq_none_iff (earlier entries : List Entry) :
    firstViolation? earlier entries = none ↔ ∀ before e behind, entries = before ++ e :: behind →
      violation? (earlier ++ before) e = none := by
  induction entries generalizing earlier with
  | nil => simp [firstViolation?]
  | cons e entries ih =>
    rw [firstViolation?, Option.or_eq_none_iff, ih]
    constructor
    · rintro ⟨he, hs⟩ before e' behind heq
      cases before with
      | nil => cases heq; simpa using he
      | cons a before =>
        cases heq
        simpa using hs before e' behind rfl
    · intro hs
      refine ⟨by simpa using hs [] e entries rfl, fun before e' behind heq => ?_⟩
      subst heq
      simpa using hs (e :: before) e' behind rfl

/-- At most one entry declares a key exactly when no entry that does has one before it. -/
theorem countP_declaresKey_le_one_iff (entries : List Entry) :
    entries.countP declaresKey ≤ 1 ↔ ∀ before e behind, entries = before ++ e :: behind →
      e.declaresKey = true → before.any declaresKey = false := by
  constructor
  · rintro h before e behind rfl he
    rw [List.countP_append, List.countP_cons_of_pos he] at h
    have h0 : before.countP declaresKey = 0 := by omega
    simpa using h0
  · intro h
    induction entries with
    | nil => simp
    | cons e entries ih =>
      by_cases he : e.declaresKey
      · have h0 : entries.countP declaresKey = 0 := by
          rw [List.countP_eq_zero]
          intro e' hm he'
          obtain ⟨before, behind, rfl⟩ := List.append_of_mem hm
          have := h (e :: before) e' behind rfl he'
          simp [he] at this
        simp [List.countP_cons_of_pos he, h0]
      · rw [List.countP_cons_of_neg he]
        refine ih fun before e' behind heq he' => ?_
        subst heq
        have := h (e :: before) e' behind rfl he'
        simp only [List.any_cons, Bool.or_eq_false_iff] at this
        exact this.2

end Entry

/-- An outline that makes sense. -/
structure Outline.Coherent (o : Outline) : Prop where
  /-- The key names resolve, each among the columns declared before it. -/
  resolves : ∀ before e behind, o.entries = before ++ e :: behind → e.Resolves before
  /-- At most one entry declares a key. -/
  oneKey : o.entries.countP Entry.declaresKey ≤ 1

theorem Outline.violation?_eq_none_iff (o : Outline) : o.violation? = none ↔ o.Coherent := by
  rw [violation?, Entry.firstViolation?_eq_none_iff]
  simp only [List.nil_append, Entry.violation?_eq_none_iff]
  constructor
  · intro h
    exact ⟨fun before e behind heq => (h before e behind heq).1,
      (Entry.countP_declaresKey_le_one_iff _).2 fun before e behind heq =>
        (h before e behind heq).2⟩
  · intro h before e behind heq
    exact ⟨h.resolves before e behind heq,
      (Entry.countP_declaresKey_le_one_iff _).1 h.oneKey before e behind heq⟩

end PartitionSize
