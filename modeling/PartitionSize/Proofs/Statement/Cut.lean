import PartitionSize.Proofs.Statement.RunsOut

/-!
# Statements that are cut short

What the reader makes of the first tokens of an accepted statement, cut anywhere before its
semicolon. Where the cut goes through an entry, the entries run out of tokens, and the bracket that
closes them is missed at the end.

* **The exception** (`entries_of_typeEnd`): `PRIMARY` alone behind a column's type is left by the
  entries, so that the bracket is missed where it stands.
* **The error** (`parse_cut`): an accepted text cut behind any token of its statement ends early,
  but behind such a `PRIMARY` it has an unexpected token.
-/

namespace PartitionSize

open Text

namespace Grammar

/-- When entries are read off the tokens, some column's type ends in front of `rest`. -/
inductive EntriesTypeEnd : List Token → List Token → Prop where
  | here {ts name ts₁ dataType rest} : Optional ["PRIMARY", "KEY"] ts false (name :: ts₁) →
      Name name → TypeText ts₁ dataType rest → EntriesTypeEnd ts rest
  | later {ts e ts' rest} : EntryText ts e ("," :: ts') → EntriesTypeEnd ts' rest →
      EntriesTypeEnd ts rest

/-- When a statement is read off the tokens, some column's type ends in front of `rest`. -/
inductive SentenceTypeEnd : List Token → List Token → Prop where
  | mk {create table ts whole tableName ts' rest} : Phrase ["CREATE", "TABLE"] [create, table] →
      Optional ["IF", "NOT", "EXISTS"] ts whole (tableName :: "(" :: ts') → Name tableName →
      EntriesTypeEnd ts' rest → SentenceTypeEnd (create :: table :: ts) rest

theorem EntriesTypeEnd.sees {ts rest : List Token} (h : EntriesTypeEnd ts rest) :
    Sees EntriesTypeEnd ts rest := by
  induction h with
  | here ho hn ht =>
    refine ((ho.sees.comp (.token _ _)).comp ht.sees).mono ?_
    rintro _ _ ⟨_, ⟨_, ho, rfl⟩, ht⟩
    exact .here ho hn ht
  | later he _ ih =>
    refine ((he.sees.comp (.token _ _)).comp ih).mono ?_
    rintro _ _ ⟨_, ⟨_, he, rfl⟩, hend⟩
    exact .later he hend

theorem SentenceTypeEnd.sees {ts rest : List Token} (h : SentenceTypeEnd ts rest) :
    Sees SentenceTypeEnd ts rest := by
  cases h with
  | mk hp ho hn hend =>
    refine (((((Sees.token _ _).comp (.token _ _)).comp ho.sees).comp (.token _ _)).comp
      (.token _ _)).comp hend.sees |>.mono ?_
    rintro _ _ ⟨_, ⟨_, ⟨_, ⟨_, ⟨_, rfl, rfl⟩, ho⟩, rfl⟩, rfl⟩, hend⟩
    exact .mk hp ho hn hend

end Grammar

namespace OnePass

open Grammar

/-! ## Entries -/

/-- The reader runs out of tokens, or leaves a `PRIMARY` behind which the cut is, and in front of
which `TypeEnd` says that a type ends. -/
def EndsAt {α : Type} (TypeEnd : List Token → Prop) (back : List Token)
    (r : Except StatementError (α × List Token)) : Prop :=
  RunsOut r ∨ ∃ a t, r = .ok (a, [t]) ∧ Token.is t "PRIMARY" = true ∧ TypeEnd (t :: back)

/-- With the words of `PRIMARY KEY` alone no entry is complete. -/
theorem entry_of_phrase {words words' : List String} {ts : List Token} (d : Declarations)
    (h : ["PRIMARY", "KEY"] = words ++ words') (hts : Phrase words ts) :
    entry d ts = .error .endOfInput := by
  match words, h, hts with
  | [], _, .nil => rfl
  | [_], h, @Phrase.cons _ _ t _ ht .nil =>
    cases h
    rw [entry, (trials_of_primary ht).1]
    simp only [columnDefinition, name_of_name (name_of_is ht rfl)]
    rfl
  | [_, _], h, hts =>
    cases h
    rw [entry, optional_all hts]
    rfl

theorem entry_of_cut {d d' : Declarations} {e : Entry} {ts front more rest : List Token}
    (h : EntryText ts e rest) (hts : ts = front ++ (more ++ rest)) (hd : e.declare d = .ok d') :
    EndsAt (EntriesTypeEnd ts) (more ++ rest) (entry d front) := by
  cases h with
  | @key ts' e rest ho hc =>
    rcases ho.sees.cut hts with ⟨more', hmore⟩ | ⟨t, left, hleft, ho'⟩
    · rw [hts, hmore] at ho
      obtain ⟨words, words', hphrase, hwords, -⟩ := ho.phrase_of_cut
      exact .inl (.inl (entry_of_phrase d hphrase hwords))
    · rw [entry, optional_of_grammar ho']
      cases e with
      | column _ _ _ _ => cases hc
      | key partition clustering =>
        obtain ⟨columns, hp, hd⟩ := Except.exists_of_bind_eq_ok hd
        obtain ⟨columns', hm, hd⟩ := Except.exists_of_bind_eq_ok hd
        refine .inl ((keyClause_of_cut hc hleft hp hm).bind fun key _ => ?_)
        obtain ⟨d'', hset⟩ := exists_setPrimaryKey hd key
        dsimp only
        rw [hset]
        exact .inr ⟨d'', rfl⟩
  | @column name ts₁ text ts₂ inlineKey ts₃ isStatic rest ho hn ht hk hs =>
    rcases ho.sees.cut hts with ⟨more', hmore⟩ | ⟨t, left, hleft, ho'⟩
    · rw [hts, hmore] at ho
      obtain ⟨words, words', hphrase, hwords, -⟩ := ho.phrase_of_cut
      exact .inl (.inl (entry_of_phrase d hphrase hwords))
    · rw [entry, optional_of_grammar ho']
      dsimp only
      rcases columnDefinition_of_cut hn ht hk hs hleft with hcd | ⟨c, inlineKey', left', hcd, hkey, hstatic, hend⟩
      · rw [hcd]
        exact .inl (.inl rfl)
      · obtain ⟨d'', hdef⟩ := exists_define hd hkey hstatic
        simp only [hcd, hdef, bind, Except.bind]
        rcases hend with rfl | ⟨t', rfl, hprimary, hts₂⟩
        · exact .inl (.inr ⟨_, rfl⟩)
        · exact .inr ⟨_, _, rfl, hprimary, .here ho hn (hts₂ ▸ ht)⟩

theorem entries_of_comma {d d' : Declarations} {e : Entry} {ts rest : List Token}
    (h : EntryText ts e ("," :: rest)) (hd : e.declare d = .ok d') :
    entries d ts = entries d' rest := by
  rw [entries_eq, entry_of_grammar h, hd]
  simp only [Except.map, bind, Except.bind, optional_mark "," rfl]

theorem entries_of_primary {d d' : Declarations} {t : Token} {ts : List Token}
    (h : entry d ts = .ok (d', [t])) (ht : Token.is t "PRIMARY" = true) :
    entries d ts = .ok (d', [t]) := by
  have hcomma : t ≠ "," := ne_of_name (name_of_is ht rfl) rfl
  rw [entries_eq, h]
  simp only [bind, Except.bind, optional_not_mark "," rfl hcomma]

/-- No comma is left where an entry runs out of tokens, so that the entries end with it. -/
theorem entries_of_endsAt {TypeEnd : List Token → Prop} {d : Declarations} {front back : List Token}
    (h : EndsAt TypeEnd back (entry d front)) : EndsAt TypeEnd back (entries d front) := by
  rcases h with (he | ⟨d', he⟩) | ⟨d', t, he, hprimary, hend⟩
  · rw [entries_eq, he]
    exact .inl (.inl rfl)
  · rw [entries_eq, he]
    exact .inl (.inr ⟨d', rfl⟩)
  · exact .inr ⟨d', t, entries_of_primary he hprimary, hprimary, hend⟩

theorem entries_of_cut {d d' : Declarations} {es : List Entry} {ts front more rest : List Token}
    (h : Entries ts es rest) (hts : ts = front ++ (more ++ rest))
    (hd : Entry.declareAll d es = .ok d') :
    EndsAt (EntriesTypeEnd ts) (more ++ rest) (entries d front) := by
  induction h generalizing d front with
  | last he _ =>
    obtain ⟨d₁, hd, -⟩ := Except.exists_of_bind_eq_ok hd
    exact entries_of_endsAt (entry_of_cut he hts hd)
  | cons he _ ih =>
    obtain ⟨d₁, hd, hds⟩ := Except.exists_of_bind_eq_ok hd
    rcases he.sees.cut hts with ⟨more', hmore⟩ | ⟨t, left, hleft, he'⟩
    · rw [hmore] at hts ⊢
      exact entries_of_endsAt (entry_of_cut he hts hd)
    · obtain ⟨rfl, hrest⟩ := List.cons.inj hleft
      rw [entries_of_comma he' hd]
      rcases ih hrest hds with hout | ⟨d₂, t', hc, hprimary, hend⟩
      · exact .inl hout
      · exact .inr ⟨d₂, t', hc, hprimary, .later he hend⟩

/-- In front of a cut the entries run out of tokens, or the bracket that closes them is left. -/
theorem entries_before_close {d d' : Declarations} {es : List Entry} {ts front more rest : List Token}
    (h : Entries ts es (")" :: ";" :: rest)) (hts : ts = front ++ (more ++ rest)) (hmore : more ≠ [])
    (hd : Entry.declareAll d es = .ok d') :
    EndsAt (EntriesTypeEnd ts) (more ++ rest) (entries d front) ∨
      ∃ d'', entries d front = .ok (d'', [")"]) := by
  rcases h.sees.cut hts with ⟨more', hback⟩ | ⟨t, left, hleft, h'⟩
  · rw [hback] at hts ⊢
    exact .inl (entries_of_cut h hts hd)
  · obtain ⟨rfl, hrest⟩ := List.cons.inj hleft
    have hlen : (";" :: rest).length = (left ++ (more ++ rest)).length := by rw [hrest]; rfl
    have hpos := List.length_pos_iff.2 hmore
    simp only [List.length_append, List.length_cons] at hlen
    have hnil : left = [] := List.eq_nil_of_length_eq_zero (by omega)
    rw [hnil] at h'
    rw [entries_of_grammar h', hd]
    exact .inr ⟨d', rfl⟩

/-- Two readings of an entry leave the same tokens. -/
theorem eq_of_entryText {d d' : Declarations} {e e' : Entry} {ts rest rest' : List Token}
    (h : EntryText ts e rest) (h' : EntryText ts e' rest') (hd : e'.declare d = .ok d') :
    e.declare d = .ok d' ∧ rest = rest' := by
  have heq := entry_of_grammar h' d
  rw [entry_of_grammar h, hd] at heq
  cases he : e.declare d with
  | error err =>
    rw [he] at heq
    cases heq
  | ok d₁ =>
    rw [he] at heq
    cases heq
    exact ⟨rfl, rfl⟩

/-- Behind a column's type the entries end with a `PRIMARY` that the cut is behind, and leave it. -/
theorem entries_of_typeEnd {d d' : Declarations} {es : List Entry} {t : Token}
    {ts back rest : List Token} (hend : EntriesTypeEnd ts (t :: back))
    (ht : Token.is t "PRIMARY" = true) (h : Entries ts es rest)
    (hd : Entry.declareAll d es = .ok d') :
    ∃ front d'', ts = front ++ t :: back ∧ entries d (front ++ [t]) = .ok (d'', [t]) := by
  generalize hback : t :: back = left at hend
  induction hend generalizing d es with
  | here ho hn htext =>
    subst hback
    obtain ⟨front, hts, hother⟩ := ((ho.sees.comp (.token _ _)).comp htext.sees).head_eq
    obtain ⟨_, ⟨_, ho', rfl⟩, htext'⟩ := hother []
    obtain ⟨hkey, hstatic⟩ := trials_of_primary ht
    have hcolumn := columnDefinition_of_trials hn (dataType_of_grammar htext') hkey hstatic
    have hentry : ∃ d'', entry d (front ++ [t]) = .ok (d'', [t]) := by
      rw [entry, optional_of_grammar ho']
      dsimp only
      rw [hcolumn]
      exact ⟨_, rfl⟩
    obtain ⟨d'', hentry⟩ := hentry
    exact ⟨front, d'', hts, entries_of_primary hentry ht⟩
  | later he hend ih =>
    subst hback
    obtain ⟨taken, hts, hother⟩ := he.sees.head_eq
    cases h with
    | last he' hcomma =>
      obtain ⟨d₁, hd, -⟩ := Except.exists_of_bind_eq_ok hd
      obtain ⟨-, heq⟩ := eq_of_entryText he he' hd
      exact absurd (List.cons.inj heq).1.symm hcomma
    | cons he' hes =>
      obtain ⟨d₁, hd, hds⟩ := Except.exists_of_bind_eq_ok hd
      obtain ⟨hd₁, heq⟩ := eq_of_entryText he he' hd
      rw [← (List.cons.inj heq).2] at hes
      obtain ⟨front, d₂, hfront, hc⟩ := ih hes hds rfl
      refine ⟨taken ++ "," :: front, d₂, by rw [hts, hfront]; simp, ?_⟩
      rw [List.append_assoc, List.cons_append, entries_of_comma (hother _) hd₁, hc]

/-! ## Statements -/

/-- What is left to do behind the table's name. -/
theorem statement_of_head {create table tableName : Token} {ts ts' : List Token} {whole : Bool}
    (hp : Phrase ["CREATE", "TABLE"] [create, table])
    (ho : Grammar.Optional ["IF", "NOT", "EXISTS"] ts whole (tableName :: ts')) (hn : Name tableName) :
    statement (create :: table :: ts) = (do
      let ts ← expect ["("] ts'
      let (d, ts) ← entries {} ts
      let _ ← expect [")", ";"] ts
      .ok (d.toSchema tableName)) := by
  have hopen : expect ["CREATE", "TABLE"] (create :: table :: ts) = .ok ts := expect_of_phrase hp ts
  rw [statement, hopen]
  simp only [bind, Except.bind, optional_of_grammar ho, name_of_name hn]

/-- With words of `IF NOT EXISTS` at most the table's name is missing, or the bracket behind it. -/
theorem statement_of_phrase {create table : Token} {words words' : List String} {ts : List Token}
    (hp : Phrase ["CREATE", "TABLE"] [create, table])
    (h : ["IF", "NOT", "EXISTS"] = words ++ words') (hts : Phrase words ts) :
    statement (create :: table :: ts) = .error .endOfInput := by
  have hopen : expect ["CREATE", "TABLE"] (create :: table :: ts) = .ok ts := expect_of_phrase hp ts
  have hleft : (optional ["IF", "NOT", "EXISTS"] ts).2 = [] ∨
      ∃ t, Name t ∧ (optional ["IF", "NOT", "EXISTS"] ts).2 = [t] := by
    match words, h, hts with
    | [], _, .nil => exact .inl rfl
    | [_], h, .cons (t := t) ht .nil =>
      cases h
      refine .inr ⟨t, name_of_is ht rfl, ?_⟩
      exact congrArg Prod.snd (optional_at_end (.cons ht .nil) (List.cons_ne_nil "NOT" ["EXISTS"]))
    | [_, _], h, .cons ht (.cons (t := t') ht' .nil) =>
      cases h
      refine .inr ⟨t', name_of_is ht' rfl, ?_⟩
      exact congrArg Prod.snd
        (optional_at_end (.cons ht (.cons ht' .nil)) (List.cons_ne_nil "EXISTS" []))
    | [_, _, _], h, hts =>
      cases h
      exact .inl (congrArg Prod.snd (optional_all hts))
  rw [statement, hopen]
  rcases hleft with hnil | ⟨t, hn, hone⟩
  · simp only [bind, Except.bind, hnil]
    rfl
  · simp only [bind, Except.bind, hone, name_of_name hn]
    rfl

theorem statement_of_cut {ts front more rest : List Token} {o : Outline} {d : Declarations}
    (h : Sentence ts o rest) (hts : ts = front ++ (more ++ rest)) (hmore : more ≠ [])
    (hd : Entry.declareAll {} o.entries = .ok d) :
    statement front = .error .endOfInput ∨ ∃ t, statement front = .error (.unexpectedToken ")" t) ∧
      Token.is t "PRIMARY" = true ∧ SentenceTypeEnd ts (t :: (more ++ rest)) := by
  cases h with
  | @mk create table ts whole tableName ts' es rest hp ho hn hes =>
    rcases cut_of_cons_cons hts with rfl | rfl | ⟨front, rfl, hfront⟩
    · exact .inl rfl
    · cases hp with
      | cons hcreate _ =>
        refine .inl ?_
        rw [statement, expect, if_pos hcreate]
        rfl
    · rcases ho.sees.cut hfront with ⟨more', hmore⟩ | ⟨t, left, hleft, ho'⟩
      · rw [hfront, hmore] at ho
        obtain ⟨words, words', hphrase, hwords, -⟩ := ho.phrase_of_cut
        exact .inl (statement_of_phrase hp hphrase hwords)
      · obtain ⟨rfl, hopen⟩ := List.cons.inj hleft
        rw [statement_of_head hp ho' hn]
        rcases List.cons_eq_append_iff.1 hopen with ⟨rfl, -⟩ | ⟨front', rfl, hentries⟩
        · exact .inl rfl
        · rw [expect_mark "(" rfl]
          simp only [bind, Except.bind]
          rcases entries_before_close hes hentries hmore hd with
            ((hc | ⟨d', hc⟩) | ⟨d', t', hc, hprimary, hend⟩) | ⟨d', hc⟩
          · rw [hc]
            exact .inl rfl
          · rw [hc]
            exact .inl rfl
          · have hclose : Token.is t' ")" = false := (is_eq_of_is hprimary ")").trans rfl
            refine .inr ⟨t', ?_, hprimary, .mk hp ho hn hend⟩
            simp only [hc, expect, hclose]
            rfl
          · rw [hc]
            exact .inl rfl

theorem statement_of_typeEnd {ts back rest : List Token} {t : Token} {o : Outline}
    {d : Declarations} (hend : SentenceTypeEnd ts (t :: back)) (ht : Token.is t "PRIMARY" = true)
    (h : Sentence ts o rest) (hd : Entry.declareAll {} o.entries = .ok d) :
    ∃ front, ts = front ++ t :: back ∧
      statement (front ++ [t]) = .error (.unexpectedToken ")" t) := by
  cases hend with
  | @mk create table ts whole tableName ts' _ hp ho hn hend =>
    cases h with
    | mk _ ho' _ hes =>
      -- both readings of the tokens find the same head
      have heq := optional_of_grammar ho'
      rw [optional_of_grammar ho] at heq
      cases heq
      obtain ⟨front, d', hts', hentries⟩ := entries_of_typeEnd hend ht hes hd
      obtain ⟨taken, hts, hother⟩ := ho.sees.head_eq
      have hclose : Token.is t ")" = false := (is_eq_of_is ht ")").trans rfl
      refine ⟨create :: table :: (taken ++ tableName :: "(" :: front), ?_, ?_⟩
      · rw [hts, hts']
        simp
      · have hhead := statement_of_head hp (hother ("(" :: (front ++ [t]))) hn
        rw [expect_mark "(" rfl] at hhead
        simp only [bind, Except.bind, hentries, expect, hclose] at hhead
        simpa using hhead

end OnePass

namespace Grammar

/-- The last of the first `i` tokens is a `PRIMARY` that stands directly behind a column's type. -/
def PrimaryBehindType (ts : List Token) (i : Nat) (t : Token) : Prop :=
  Token.is t "PRIMARY" = true ∧ SentenceTypeEnd ts (t :: ts.drop i)

/-- The tokens in front of `rest` are those of the statement. -/
theorem Sentence.drop_eq {ts rest : List Token} {o : Outline} {i : Nat} (h : Sentence ts o rest)
    (hi : i + rest.length < ts.length) : ∃ more, more ≠ [] ∧ ts.drop i = more ++ rest := by
  obtain ⟨taken, rfl, -⟩ := h.replace_rest
  simp only [List.length_append, List.length_cons] at hi
  refine ⟨(taken ++ [";"]).drop i, ?_, ?_⟩
  · refine List.length_pos_iff.1 ?_
    simp only [List.length_drop, List.length_append, List.length_singleton]
    omega
  · rw [List.append_cons, List.drop_append_of_le_length]
    simp only [List.length_append, List.length_singleton]
    omega

theorem take_eq_of_eq_append {ts front : List Token} {i : Nat} {t : Token}
    (h : ts = front ++ t :: ts.drop i) : ts.take i = front ++ [t] := by
  have htake : ts.take i ++ ts.drop i = front ++ [t] ++ ts.drop i := by
    rw [List.take_append_drop, List.append_assoc]
    exact h
  exact List.append_cancel_right htake

theorem PrimaryBehindType.getLast? {ts : List Token} {i : Nat} {t : Token}
    (h : PrimaryBehindType ts i t) : (ts.take i).getLast? = some t := by
  obtain ⟨-, hend⟩ := h
  obtain ⟨front, hts, -⟩ := hend.sees
  rw [take_eq_of_eq_append hts, List.getLast?_concat]

end Grammar

/-- **A statement that is cut short ends early.** Of the tokens of an accepted text those in front
of `rest` are its statement. Cut behind any of them but the last, or in front of all, with or
without blanks behind the cut, the text has too few tokens. The one exception is a cut behind a
`PRIMARY` that directly follows a column's type: it stands where the closing bracket is expected. -/
theorem Schema.parse_cut {text : String} {s : Schema} (h : Schema.parse text = .ok s)
    {slices : List Slice} (hs : Sliced text.toList slices) :
    let ts := slices.map Slice.token
    (∃ o rest, Grammar.Sentence ts o rest) ∧
      ∀ o rest, Grammar.Sentence ts o rest →
        ∀ i blanks, i + rest.length < slices.length → (∀ c ∈ blanks, isBlank c = true) →
          let cut := String.ofList ((slices.take i).flatMap Slice.chars ++ blanks)
          (∀ t, Grammar.PrimaryBehindType ts i t →
            (ts.take i).getLast? = some t ∧ Schema.parse cut = .error (.unexpectedToken ")" t)) ∧
          ((∀ t, ¬Grammar.PrimaryBehindType ts i t) → Schema.parse cut = .error .endOfInput) := by
  intro ts
  have hscan : Token.scan text.toList = ts := hs.scan_eq
  obtain ⟨o, rest, _, ho, -, -⟩ := Schema.exists_declareAll h
  refine ⟨⟨o, rest, hscan ▸ ho⟩, ?_⟩
  intro o rest ho i blanks hi hb cut
  obtain ⟨d, hd⟩ := Schema.exists_declared h (hscan ▸ ho)
  obtain ⟨more, hmore, hdrop⟩ := ho.drop_eq (i := i) (by simpa [ts] using hi)
  have hparse : Schema.parse cut = OnePass.statement (ts.take i) := by
    rw [Schema.parse_eq_onePass, String.toList_ofList, (hs.take i hb).scan_eq, List.map_take]
  rw [hparse]
  constructor
  · intro t hprimary
    obtain ⟨ht, hend⟩ := hprimary
    obtain ⟨front, hfront, hstatement⟩ := OnePass.statement_of_typeEnd hend ht ho hd
    refine ⟨Grammar.PrimaryBehindType.getLast? ⟨ht, hend⟩, ?_⟩
    rw [Grammar.take_eq_of_eq_append hfront, hstatement]
  · intro hnone
    have hcut : ts = ts.take i ++ (more ++ rest) := by
      rw [← hdrop, List.take_append_drop]
    rcases OnePass.statement_of_cut ho hcut hmore hd with heq | ⟨t, -, ht, hend⟩
    · exact heq
    · rw [← hdrop] at hend
      exact absurd ⟨ht, hend⟩ (hnone t)

/-- Behind `int` this statement ends early, and behind `primary` a bracket is missed. -/
theorem Schema.parse_cut_behind_type :
    let text := "create table t(a int primary key);"
    let column : Column := ⟨"a", ⟨"int"⟩, false, none⟩
    Schema.parse text = .ok ⟨"t", [column], ⟨[column], []⟩⟩ ∧
      Schema.parse "create table t(a int " = .error .endOfInput ∧
      Schema.parse "create table t(a int primary " = .error (.unexpectedToken ")" "primary") := by
  intro text column
  let slices : List Slice := [⟨[], "create".toList⟩, ⟨[' '], "table".toList⟩, ⟨[' '], ['t']⟩,
    ⟨[], ['(']⟩, ⟨[], ['a']⟩, ⟨[' '], "int".toList⟩, ⟨[' '], "primary".toList⟩,
    ⟨[' '], "key".toList⟩, ⟨[], [')']⟩, ⟨[], [';']⟩]
  have h : Schema.parse text = .ok ⟨"t", [column], ⟨[column], []⟩⟩ := by decide +kernel
  have hs : Sliced text.toList slices := by decide +kernel
  have hts : slices.map Slice.token =
      ["create", "table", "t", "(", "a", "int", "primary", "key", ")", ";"] := by
    decide +kernel
  have hkey : Grammar.Phrase ["PRIMARY", "KEY"] ["primary", "key"] := .cons rfl (.cons rfl .nil)
  have htype : Grammar.TypeText ["int", "primary", "key", ")", ";"] "int"
      ["primary", "key", ")", ";"] := .plain rfl (by decide)
  have ho : Grammar.Sentence (slices.map Slice.token) ⟨"t", [.column "a" "int" true false]⟩ [] := by
    rw [hts]
    exact .mk (.cons rfl (.cons rfl .nil)) (.absent rfl) rfl
      (.last (.column (.absent rfl) rfl htype (.all hkey) (.absent rfl)) (by decide))
  have hprimary : Grammar.PrimaryBehindType (slices.map Slice.token) 7 "primary" := by
    rw [hts]
    exact ⟨rfl, .mk (.cons rfl (.cons rfl .nil)) (.absent rfl) rfl (.here (.absent rfl) rfl htype)⟩
  have hint : ∀ t, ¬Grammar.PrimaryBehindType (slices.map Slice.token) 6 t := by
    intro t ht
    have hlast := ht.getLast?
    rw [hts] at hlast
    cases hlast
    exact absurd ht.1 (by decide)
  obtain ⟨-, hcut⟩ := Schema.parse_cut h hs
  have hblank : ∀ c ∈ [' '], isBlank c = true := List.all_eq_true.1 rfl
  have hend := (hcut _ _ ho 6 [' '] (by decide) hblank).2 hint
  have hbracket := ((hcut _ _ ho 7 [' '] (by decide) hblank).1 _ hprimary).2
  have hsix : String.ofList ((slices.take 6).flatMap Slice.chars ++ [' ']) =
      "create table t(a int " := by decide +kernel
  have hseven : String.ofList ((slices.take 7).flatMap Slice.chars ++ [' ']) =
      "create table t(a int primary " := by decide +kernel
  exact ⟨h, hsix ▸ hend, hseven ▸ hbracket⟩

end PartitionSize
