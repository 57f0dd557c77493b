import PartitionSize.Proofs.Statement.Sentence

/-!
# The leftmost violation is the error

What is wrong with a sentence is wrong at a place: an entry, and a part of that entry. A key clause
has a part for each of its names, in the order they are written, and then one for being a second
key; a column definition with an inline key has one for being static and then one for being a second
key. `Entry.Violation` says what is wrong at a part, each kind of violation by itself, and
`Outline.Leftmost` picks the violation that no other one stands before.

* **One entry** (`violation?_eq_findSome?`): what is wrong with an entry is the first of its checks
  that fails, and the checks are the parts (`violation_iff`).
* **A statement** (`leftmost_of_violation?`): the first entry with a violation has the leftmost one.
* **The reader** (`parse_leftmost`): on a sentence it reports the leftmost violation, accepts when
  there is none, and never blames the order of the tokens.
-/

namespace PartitionSize

namespace Entry

/-! ## Violations of one entry -/

/-- What is wrong at a part of an entry that stands behind the given entries. -/
inductive Violation (earlier : List Entry) : Entry → Nat → StatementError → Prop where
  | unknownName {partition clustering part name} :
      (partition ++ clustering)[part]? = some name → (∀ c ∈ columns earlier, c.name ≠ name) →
      Violation earlier (.key partition clustering) part (.unknownKeyColumn name)
  | staticName {partition clustering part name c} :
      (partition ++ clustering)[part]? = some name →
      (columns earlier).find? (·.name == name) = some c → c.isStatic = true →
      Violation earlier (.key partition clustering) part (.staticKeyColumn name)
  | secondClause {partition clustering e} : e ∈ earlier → e.declaresKey = true →
      Violation earlier (.key partition clustering) (partition ++ clustering).length
        .duplicatePrimaryKey
  | staticInline {name dataType} :
      Violation earlier (.column name dataType true true) 0 (.staticKeyColumn name)
  | secondInline {name dataType isStatic e} : e ∈ earlier → e.declaresKey = true →
      Violation earlier (.column name dataType true isStatic) 1 .duplicatePrimaryKey

/-- The checks of an entry, one for each part: what each finds wrong. -/
def checks (earlier : List Entry) : Entry → List (Option StatementError)
  | .column _ _ false _ => []
  | .column name _ true isStatic =>
    [if isStatic then some (.staticKeyColumn name) else none, secondKey? earlier]
  | .key partition clustering =>
    (partition ++ clustering).map (nameViolation? earlier) ++ [secondKey? earlier]

theorem violation?_eq_findSome? (earlier : List Entry) (e : Entry) :
    violation? earlier e = (checks earlier e).findSome? id := by
  match e with
  | .column _ _ false _ => rfl
  | .column name _ true isStatic =>
    cases isStatic <;> cases h : secondKey? earlier <;> simp [violation?, checks, h]
  | .key partition clustering =>
    rw [checks, List.findSome?_append, List.findSome?_map, violation?]
    cases secondKey? earlier <;> simp

theorem secondKey?_eq_some_iff (earlier : List Entry) (err : StatementError) :
    secondKey? earlier = some err ↔
      (∃ e ∈ earlier, e.declaresKey = true) ∧ .duplicatePrimaryKey = err := by
  rw [← List.any_eq_true, secondKey?]
  split
  · next h => simp [h]
  · next h => simp [h]

theorem nameViolation?_eq_some_iff (earlier : List Entry) (name : String) (err : StatementError) :
    nameViolation? earlier name = some err ↔
      ((∀ c ∈ columns earlier, c.name ≠ name) ∧ .unknownKeyColumn name = err) ∨
        ∃ c, (columns earlier).find? (·.name == name) = some c ∧ c.isStatic = true ∧
          .staticKeyColumn name = err := by
  have hnone : (columns earlier).find? (·.name == name) = none ↔
      ∀ c ∈ columns earlier, c.name ≠ name := by
    simp [List.find?_eq_none]
  rw [← hnone, nameViolation?]
  cases (columns earlier).find? (·.name == name) with
  | none => simp
  | some c => cases hs : c.isStatic <;> simp [hs]

/-- The violation at a part is what the check of that part finds. -/
theorem violation_iff (earlier : List Entry) (e : Entry) (part : Nat) (err : StatementError) :
    Violation earlier e part err ↔ (checks earlier e)[part]? = some (some err) := by
  constructor
  · intro h
    cases h with
    | unknownName hname hfree =>
      have hv := (nameViolation?_eq_some_iff _ _ _).2 (.inl ⟨hfree, rfl⟩)
      rw [checks, List.getElem?_append_left (by simpa using (List.getElem?_eq_some_iff.1 hname).1),
        List.getElem?_map, hname, Option.map_some, hv]
    | staticName hname hfind hstatic =>
      have hv := (nameViolation?_eq_some_iff _ _ _).2 (.inr ⟨_, hfind, hstatic, rfl⟩)
      rw [checks, List.getElem?_append_left (by simpa using (List.getElem?_eq_some_iff.1 hname).1),
        List.getElem?_map, hname, Option.map_some, hv]
    | secondClause he hkey =>
      have hv := (secondKey?_eq_some_iff _ _).2 ⟨⟨_, he, hkey⟩, rfl⟩
      simp [checks, hv]
    | staticInline => rfl
    | secondInline he hkey =>
      have hv := (secondKey?_eq_some_iff _ _).2 ⟨⟨_, he, hkey⟩, rfl⟩
      simp [checks, hv]
  · intro h
    match e, h with
    | .column name _ true isStatic, h =>
      match part, h with
      | 0, h =>
        cases isStatic with
        | false => cases h
        | true =>
          cases h
          exact .staticInline
      | 1, h =>
        obtain ⟨⟨e, he, hkey⟩, rfl⟩ := (secondKey?_eq_some_iff _ _).1 (Option.some.inj h)
        exact .secondInline he hkey
    | .key partition clustering, h =>
      rw [checks, List.getElem?_append] at h
      split at h
      · rw [List.getElem?_map, Option.map_eq_some_iff] at h
        obtain ⟨name, hname, hv⟩ := h
        rcases (nameViolation?_eq_some_iff _ _ _).1 hv with ⟨hfree, rfl⟩ | ⟨c, hfind, hstatic, rfl⟩
        · exact .unknownName hname hfree
        · exact .staticName hname hfind hstatic
      · next hpart =>
        rw [List.length_map] at h hpart
        have h0 : part - (partition ++ clustering).length = 0 := by
          simpa using (List.getElem?_eq_some_iff.1 h).1
        rw [h0] at h
        obtain ⟨⟨e, he, hkey⟩, rfl⟩ := (secondKey?_eq_some_iff _ _).1 (Option.some.inj h)
        have hend : part = (partition ++ clustering).length := by omega
        subst hend
        exact .secondClause he hkey

/-- A violation is no matter of the order of the tokens. -/
theorem Violation.ne_syntax {earlier : List Entry} {e : Entry} {part : Nat} {err : StatementError}
    (h : Violation earlier e part err) :
    err ≠ .endOfInput ∧ ∀ expected actual, err ≠ .unexpectedToken expected actual := by
  cases h <;> simp

/-- The first check that fails stands before all others that fail. -/
theorem violation?_eq_some {earlier : List Entry} {e : Entry} {err : StatementError}
    (h : violation? earlier e = some err) :
    ∃ part, Violation earlier e part err ∧
      ∀ part' err', Violation earlier e part' err' → part ≤ part' := by
  rw [violation?_eq_findSome?, List.findSome?_eq_some_iff] at h
  obtain ⟨passed, check, behind, hchecks, hfails, hpass⟩ := h
  refine ⟨passed.length, ?_, fun part' err' hv => ?_⟩
  · rw [violation_iff, hchecks]
    simpa using hfails
  · rw [violation_iff, hchecks] at hv
    rcases Nat.lt_or_ge part' passed.length with hlt | hge
    · rw [List.getElem?_append_left hlt] at hv
      have hnone := hpass _ (List.mem_of_getElem? hv)
      cases hnone
    · exact hge

theorem not_violation {earlier : List Entry} {e : Entry} (h : violation? earlier e = none)
    (part : Nat) (err : StatementError) : ¬ Violation earlier e part err := by
  rw [violation?_eq_findSome?, List.findSome?_eq_none_iff] at h
  intro hv
  rw [violation_iff] at hv
  have hnone := h _ (List.mem_of_getElem? hv)
  cases hnone

/-- What is wrong with entries after others is wrong with the first of them that has a violation. -/
theorem firstViolation?_eq_some {earlier entries : List Entry} {err : StatementError}
    (h : firstViolation? earlier entries = some err) :
    ∃ before e behind, entries = before ++ e :: behind ∧
      violation? (earlier ++ before) e = some err ∧ firstViolation? earlier before = none := by
  induction entries generalizing earlier with
  | nil => cases h
  | cons e entries ih =>
    rw [firstViolation?] at h
    cases he : violation? earlier e with
    | some err' =>
      rw [he] at h
      cases h
      exact ⟨[], e, entries, rfl, by simpa using he, rfl⟩
    | none =>
      rw [he, Option.none_or] at h
      obtain ⟨before, e', behind, rfl, hv, hnone⟩ := ih h
      refine ⟨e :: before, e', behind, rfl, by simpa using hv, ?_⟩
      rw [firstViolation?, he, Option.none_or, hnone]

end Entry

/-! ## Violations of a statement -/

/-- A place in a statement: a part of an entry, both counted from the left. -/
structure Place where
  entry : Nat
  part : Nat

/-- The place stands further left. -/
def Place.Before (p q : Place) : Prop := p.entry < q.entry ∨ p.entry = q.entry ∧ p.part < q.part

namespace Outline

/-- What is wrong at a place of a statement. -/
def Violation (o : Outline) (p : Place) (err : StatementError) : Prop :=
  ∃ before e behind, o.entries = before ++ e :: behind ∧ before.length = p.entry ∧
    e.Violation before p.part err

/-- Some place has this violation, and no violation stands before it. -/
def Leftmost (o : Outline) (err : StatementError) : Prop :=
  ∃ p, o.Violation p err ∧ ∀ p' err', o.Violation p' err' → ¬ p'.Before p

variable {o : Outline} {err : StatementError}

theorem Violation.unique {p : Place} {err' : StatementError} (h : o.Violation p err)
    (h' : o.Violation p err') : err' = err := by
  obtain ⟨before, e, behind, heq, hlen, hv⟩ := h
  obtain ⟨before', e', behind', heq', hlen', hv'⟩ := h'
  obtain ⟨rfl, hcons⟩ := List.append_inj (heq'.symm.trans heq) (hlen'.trans hlen.symm)
  cases hcons
  rw [Entry.violation_iff] at hv hv'
  rw [hv] at hv'
  cases hv'
  rfl

theorem Leftmost.unique {err' : StatementError} (h : o.Leftmost err) (h' : o.Leftmost err') :
    err' = err := by
  obtain ⟨⟨entry, part⟩, hv, hfirst⟩ := h
  obtain ⟨⟨entry', part'⟩, hv', hfirst'⟩ := h'
  have h1 := hfirst _ _ hv'
  have h2 := hfirst' _ _ hv
  simp only [Place.Before] at h1 h2
  obtain rfl : entry' = entry := by omega
  obtain rfl : part' = part := by omega
  exact hv.unique hv'

theorem not_violation (h : o.violation? = none) (p : Place) (err : StatementError) :
    ¬ o.Violation p err := by
  rintro ⟨before, e, behind, heq, -, hv⟩
  have he := (Entry.firstViolation?_eq_none_iff [] o.entries).1 h before e behind heq
  exact Entry.not_violation he _ _ hv

theorem leftmost_of_violation? (h : o.violation? = some err) : o.Leftmost err := by
  obtain ⟨before, e, behind, heq, he, hnone⟩ := Entry.firstViolation?_eq_some h
  obtain ⟨part, hv, hfirst⟩ := Entry.violation?_eq_some he
  refine ⟨⟨before.length, part⟩, ⟨before, e, behind, heq, rfl, hv⟩, ?_⟩
  rintro p' err' ⟨before', e', behind', heq', hlen', hv'⟩ (hlt | ⟨hentry, hpart⟩)
  · -- an entry further left is among those before `e`, none of which has a violation
    rw [heq, List.append_eq_append_iff] at heq'
    rcases heq' with ⟨more, hmore, -⟩ | ⟨more, hmore, htail⟩
    · have hlen := congrArg List.length hmore
      simp only [List.length_append] at hlen
      dsimp only at hlt
      omega
    · cases more with
      | nil =>
        have hlen := congrArg List.length hmore
        simp only [List.length_append, List.length_nil] at hlen
        dsimp only at hlt
        omega
      | cons e'' more =>
        cases htail
        have he' := (Entry.firstViolation?_eq_none_iff [] before).1 hnone before' e' more hmore
        exact Entry.not_violation he' _ _ hv'
  · obtain ⟨rfl, hcons⟩ := List.append_inj (heq'.symm.trans heq) (hlen'.trans hentry)
    cases hcons
    have hle := hfirst _ _ hv'
    dsimp only at hpart
    omega

theorem violation?_eq_some_iff : o.violation? = some err ↔ o.Leftmost err := by
  constructor
  · exact leftmost_of_violation?
  · intro h
    cases hv : o.violation? with
    | none =>
      obtain ⟨p, hp, -⟩ := h
      exact absurd hp (not_violation hv p err)
    | some err' => rw [(leftmost_of_violation? hv).unique h]

theorem violation?_eq_none_iff_forall :
    o.violation? = none ↔ ∀ p err, ¬ o.Violation p err := by
  constructor
  · exact not_violation
  · intro h
    cases hv : o.violation? with
    | none => rfl
    | some err =>
      obtain ⟨p, hp, -⟩ := leftmost_of_violation? hv
      exact absurd hp (h p err)

end Outline

/-- **The leftmost violation is the error.** Of a text whose tokens begin with a sentence the reader
never says that it ends early or has an unexpected token; it accepts the text exactly when nothing
is wrong with the sentence, and reports the leftmost violation otherwise. -/
theorem Schema.parse_leftmost {text : String} {o : Outline} {rest : List Token}
    (h : Grammar.Sentence (Token.scan text.toList) o rest) :
    Schema.parse text ≠ .error .endOfInput ∧
      (∀ expected actual, Schema.parse text ≠ .error (.unexpectedToken expected actual)) ∧
      ((∃ s, Schema.parse text = .ok s) ↔ ∀ p err, ¬ o.Violation p err) ∧
      ∀ err, Schema.parse text = .error err ↔ o.Leftmost err := by
  rw [Schema.parse_eq_onePass, OnePass.statement_of_sentence h, ← o.violation?_eq_none_iff_forall]
  simp only [← Outline.violation?_eq_some_iff]
  cases hv : o.violation? with
  | none => simp
  | some err =>
    obtain ⟨p, ⟨before, e, behind, -, -, he⟩, -⟩ := Outline.leftmost_of_violation? hv
    obtain ⟨hend, hunexpected⟩ := he.ne_syntax
    exact ⟨by simpa using hend, by simpa using hunexpected, by simp, by simp⟩

/-- Three things are wrong here: the clause names a static column and one that is not declared, and
the table has a second key. -/
theorem Schema.parse_leftmost_of_three :
    let text := "CREATE TABLE t(a int STATIC, b int PRIMARY KEY, PRIMARY KEY (b, a, z));"
    let o : Outline := { tableName := "t", entries := [.column "a" "int" false true,
      .column "b" "int" true false, .key ["b"] ["a", "z"]] }
    Grammar.Sentence (Token.scan text.toList) o [] ∧ o.Leftmost (.staticKeyColumn "a") ∧
      Schema.parse text = .error (.staticKeyColumn "a") := by
  intro text o
  have hscan : Token.scan text.toList =
      ["CREATE", "TABLE", "t", "(", "a", "int", "STATIC", ",", "b", "int", "PRIMARY", "KEY", ",",
        "PRIMARY", "KEY", "(", "b", ",", "a", ",", "z", ")", ")", ";"] := by
    decide +kernel
  have hkey : Grammar.Phrase ["PRIMARY", "KEY"] ["PRIMARY", "KEY"] := .cons rfl (.cons rfl .nil)
  have hstatic : Grammar.Phrase ["STATIC"] ["STATIC"] := .cons rfl .nil
  have hclause : Grammar.Clause ["(", "b", ",", "a", ",", "z", ")", ")", ";"]
      (.key ["b"] ["a", "z"]) [")", ";"] :=
    .mk (.one rfl) (.cons rfl (.cons rfl (.nil (by decide))))
  have h : Grammar.Sentence (Token.scan text.toList) o [] := by
    rw [hscan]
    refine .mk (.cons rfl (.cons rfl .nil)) (.absent rfl) rfl (.cons (.column (.absent rfl) rfl
      (.plain rfl (by decide)) (.absent rfl) (.all hstatic)) (.cons (.column (.absent rfl) rfl
      (.plain rfl (by decide)) (.all hkey) (.absent rfl)) (.last (.key (.all hkey) hclause)
      (by decide))))
  have hleft : o.Leftmost (.staticKeyColumn "a") := Outline.violation?_eq_some_iff.1 rfl
  exact ⟨h, hleft, ((Schema.parse_leftmost h).2.2.2 _).2 hleft⟩

end PartitionSize
