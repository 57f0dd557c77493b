import PartitionSize.Proofs.Statement.Lookahead

/-!
# Readers that run out of tokens

The readers of a statement on the first tokens of what they accept. A rule of the grammar that a cut
leaves whole is read as before (`Sees.cut`). The rule that the cut goes through runs out of tokens
(`RunsOut`): its reader fails at the end of the tokens, or what is missing may be missing, and it
succeeds with nothing left.

* **Key clauses** (`keyClause_of_cut`): a type and a key clause run out of tokens.
* **Column definitions** (`columnDefinition_of_cut`): a column definition runs out of tokens, too,
  but one that ends with `PRIMARY` behind its type leaves this word: the trial for a key gives it
  back at the end, and the trial for `STATIC` does not take it.
-/

namespace PartitionSize

namespace Grammar

theorem Phrase.of_append {words : List String} {front back : List Token}
    (h : Phrase words (front ++ back)) :
    ∃ words₁ words₂, words = words₁ ++ words₂ ∧ Phrase words₁ front ∧ Phrase words₂ back := by
  induction front generalizing words with
  | nil => exact ⟨[], words, rfl, .nil, h⟩
  | cons t front ih =>
    cases h with
    | @cons word words _ _ ht h =>
      obtain ⟨words₁, words₂, rfl, h₁, h₂⟩ := ih h
      exact ⟨word :: words₁, words₂, rfl, .cons ht h₁, h₂⟩

/-- Tokens that a trial takes, up to a cut, are words of its phrase. -/
theorem Optional.phrase_of_cut {phrase : List String} {front more rest : List Token} {whole : Bool}
    (h : Optional phrase (front ++ (more ++ rest)) whole rest) :
    ∃ words words', phrase = words ++ words' ∧ Phrase words front ∧ (words' = [] → whole = true) := by
  generalize hts : front ++ (more ++ rest) = ts at h
  rw [← List.append_assoc] at hts
  cases h with
  | all hp =>
    rw [← List.append_cancel_right hts] at hp
    obtain ⟨words, words', rfl, hfront, -⟩ := hp.of_append
    exact ⟨words, words', rfl, hfront, fun _ => rfl⟩
  | @part _ word words' taken t rest heq hp ht =>
    rw [← List.append_cancel_right hts] at hp
    obtain ⟨words₁, words₂, rfl, hfront, -⟩ := hp.of_append
    refine ⟨words₁, words₂ ++ word :: words', by rw [heq, List.append_assoc], hfront, ?_⟩
    simp

end Grammar

namespace OnePass

open Grammar

/-! ## Running out of tokens -/

/-- The reader fails at the end of the tokens, or has taken all of them. -/
def RunsOut {α : Type} (r : Except StatementError (α × List Token)) : Prop :=
  r = .error .endOfInput ∨ ∃ a, r = .ok (a, [])

theorem RunsOut.bind {α β : Type} {x : Except StatementError (α × List Token)}
    {f : α × List Token → Except StatementError (β × List Token)} (h : RunsOut x)
    (hf : ∀ a, x = .ok (a, []) → RunsOut (f (a, []))) : RunsOut (x >>= f) := by
  rcases h with rfl | ⟨a, rfl⟩
  · exact .inl rfl
  · exact hf a rfl

/-! ## Words and trials -/

theorem name_of_is {t : Token} {word : String} (ht : Token.is t word = true)
    (hw : Token.isMark word = false) : Name t := by
  by_cases hm : Token.isMark t = true
  · have hs : Token.is word t = true := by
      simp only [Token.is, beq_iff_eq] at ht ⊢
      exact ht.symm
    rw [← (is_mark_iff hm word).1 hs, hw] at hm
    cases hm
  · simpa [Name] using hm

theorem optional_at_end {words words' : List String} {ts : List Token} (h : Phrase words ts)
    (hw : words' ≠ []) : optional (words ++ words') ts = (false, ts.drop (ts.length - 1)) := by
  have hn : Token.matchLength (words ++ words') ts = ts.length := by
    have := matchLength_of_phrase h words' []
    rw [List.append_nil] at this
    rw [this, length_of_phrase h]
    cases words' <;> simp [Token.matchLength]
  have hlen := List.length_pos_iff.2 hw
  have hl := length_of_phrase h
  rw [optional, hn, List.length_append]
  simp [show ts.length ≠ words.length + words'.length by omega]

theorem optional_all {words : List String} {ts : List Token} (h : Phrase words ts) :
    optional words ts = (true, []) := by
  have := optional_of_grammar (.all h : Grammar.Optional words (ts ++ []) true [])
  rwa [List.append_nil] at this

/-- A token is compared with another word as the word is that it matches. -/
theorem is_eq_of_is {t : Token} {word : String} (ht : Token.is t word = true) (word' : String) :
    Token.is t word' = Token.is word word' := by
  simp only [Token.is, beq_iff_eq] at ht ⊢
  rw [ht]

/-- A cut is in front of two tokens, between them or behind both. -/
theorem cut_of_cons_cons {t t' : Token} {ts front back : List Token}
    (h : t :: t' :: ts = front ++ back) :
    front = [] ∨ front = [t] ∨ ∃ front', front = t :: t' :: front' ∧ ts = front' ++ back := by
  rcases List.cons_eq_append_iff.1 h with ⟨hnil, -⟩ | ⟨front₁, rfl, h₁⟩
  · exact .inl hnil
  · rcases List.cons_eq_append_iff.1 h₁ with ⟨rfl, -⟩ | ⟨front₂, rfl, h₂⟩
    · exact .inr (.inl rfl)
    · exact .inr (.inr ⟨front₂, rfl, h₂⟩)

theorem eq_nil_of_eq_append {left more rest : List Token} (h : rest = left ++ (more ++ rest)) :
    left = [] ∧ more = [] := by
  rw [← List.append_assoc] at h
  exact List.append_eq_nil_iff.1 (List.self_eq_append_left.1 h)

/-! ## Types and key clauses -/

theorem typeArguments_of_cut {depth : Nat} {ts front more : List Token} (h : Closing depth ts)
    (hts : ts = front ++ more) (hmore : more ≠ []) (text : String) :
    typeArguments depth text front = .error .endOfInput := by
  induction h generalizing front text with
  | nil =>
    have := List.append_eq_nil_iff.1 hts.symm
    exact absurd this.2 hmore
  | less _ ih =>
    cases front with
    | nil => rfl
    | cons t front =>
      cases hts
      simpa [typeArguments] using ih rfl _
  | greater _ ih =>
    cases front with
    | nil => rfl
    | cons t front =>
      cases hts
      simpa [typeArguments] using ih rfl _
  | other h1 h2 _ ih =>
    cases front with
    | nil => rfl
    | cons t front =>
      cases hts
      simpa [typeArguments, h1, h2] using ih rfl _

theorem dataType_of_cut {front more rest : List Token} {text : String}
    (h : TypeText (front ++ (more ++ rest)) text rest) : RunsOut (dataType front) := by
  generalize hts : front ++ (more ++ rest) = ts at h
  rw [← List.append_assoc] at hts
  have hone {n : Token} (hn : Name n) : RunsOut (dataType [n]) := by
    refine .inr ⟨{ name := n }, ?_⟩
    simp only [dataType, name_of_name hn, bind, Except.bind]
    rfl
  cases h with
  | @plain _ t rest hn ht =>
    rw [show text :: t :: rest = [text] ++ t :: rest from rfl] at hts
    have hfront := List.append_cancel_right hts
    rcases List.append_eq_singleton_iff.1 hfront with ⟨rfl, -⟩ | ⟨rfl, -⟩
    · exact .inl rfl
    · exact hone hn
  | @bracketed name taken rest hn hc =>
    have hfront := List.append_cancel_right hts
    rcases cut_of_cons_cons hfront.symm with rfl | rfl | ⟨front, rfl, htaken⟩
    · exact .inl rfl
    · exact hone hn
    · simp only [dataType, name_of_name hn, bind, Except.bind, optional_mark "<" rfl]
      by_cases hmore : more = []
      · rw [hmore, List.append_nil] at htaken
        have ha := typeArguments_of_closing hc (name ++ "<") []
        rw [List.append_nil, htaken] at ha
        rw [ha]
        exact .inr ⟨_, rfl⟩
      · rw [typeArguments_of_cut hc htaken hmore]
        exact .inl rfl

theorem moreKeyColumns_nil (declared : List Column) :
    moreKeyColumns declared [] = .ok ([], []) := by
  rw [moreKeyColumns_eq]
  rfl

theorem moreKeyColumns_of_cut {declared columns : List Column} {ts front more rest : List Token}
    {names : List String} (h : MoreNames ts names rest) (hts : ts = front ++ (more ++ rest))
    (hr : names.mapM (PrimaryKey.resolve declared) = .ok columns) :
    RunsOut (moreKeyColumns declared front) := by
  induction h generalizing front columns with
  | @nil t rest ht =>
    rw [(eq_nil_of_eq_append hts).1, moreKeyColumns_nil]
    exact .inr ⟨_, rfl⟩
  | @cons name ts names rest hn hm ih =>
    rw [List.mapM_cons] at hr
    obtain ⟨column, hc, hr⟩ := Except.exists_of_bind_eq_ok hr
    obtain ⟨columns', hcs, -⟩ := Except.exists_of_bind_eq_ok hr
    rcases cut_of_cons_cons hts with rfl | rfl | ⟨front, rfl, hfront⟩
    · rw [moreKeyColumns_nil]
      exact .inr ⟨_, rfl⟩
    · rw [moreKeyColumns_eq, optional_mark "," rfl]
      exact .inl rfl
    · rw [moreKeyColumns_eq, optional_mark "," rfl]
      dsimp only
      rw [keyColumn_of_name hn, hc]
      exact (ih hfront hcs).bind fun columns _ => .inr ⟨_, rfl⟩

theorem partitionColumns_of_cut {declared columns : List Column}
    {ts front more rest : List Token} {names : List String} (h : Partition ts names rest)
    (hts : ts = front ++ (more ++ rest))
    (hr : names.mapM (PrimaryKey.resolve declared) = .ok columns) :
    RunsOut (partitionColumns declared front) := by
  cases h with
  | @one name rest hn =>
    rw [List.mapM_cons] at hr
    obtain ⟨column, hc, -⟩ := Except.exists_of_bind_eq_ok hr
    rw [← List.append_assoc, show name :: rest = [name] ++ rest from rfl] at hts
    have hfront := List.append_cancel_right hts
    rcases List.singleton_eq_append_iff.1 hfront with ⟨rfl, -⟩ | ⟨rfl, -⟩
    · exact .inl rfl
    · rw [partitionColumns, optional_not_mark "(" rfl (ne_of_name hn rfl)]
      dsimp only
      rw [keyColumn_of_name hn, hc]
      exact .inr ⟨_, rfl⟩
  | @several name ts names rest hn hm =>
    rw [List.mapM_cons] at hr
    obtain ⟨column, hc, hr⟩ := Except.exists_of_bind_eq_ok hr
    obtain ⟨columns', hcs, -⟩ := Except.exists_of_bind_eq_ok hr
    rcases cut_of_cons_cons hts with rfl | rfl | ⟨front, rfl, hfront⟩
    · exact .inl rfl
    · rw [partitionColumns, optional_mark "(" rfl]
      exact .inl rfl
    · rcases hm.sees.cut hfront with ⟨more', hmore⟩ | ⟨t, left, hleft, hm'⟩
      · rw [hmore] at hfront
        rw [partitionColumns, optional_mark "(" rfl]
        dsimp only
        rw [keyColumn_of_name hn, hc]
        exact (moreKeyColumns_of_cut hm hfront hcs).bind fun columns _ => .inl rfl
      · -- the closing bracket is the last token in front of the cut
        obtain ⟨rfl, hrest⟩ := List.cons.inj hleft
        rw [(eq_nil_of_eq_append hrest).1] at hm'
        rw [partitionColumns_of_grammar (.several hn hm'), List.mapM_cons, hc]
        refine .inr ⟨column :: columns', ?_⟩
        simp only [bind, Except.bind, hcs]
        rfl

theorem keyClause_of_cut {declared columns columns' : List Column} {ts front more rest : List Token}
    {partition clustering : List String} (h : Clause ts (.key partition clustering) rest)
    (hts : ts = front ++ (more ++ rest))
    (hp : partition.mapM (PrimaryKey.resolve declared) = .ok columns)
    (hc : clustering.mapM (PrimaryKey.resolve declared) = .ok columns') :
    RunsOut (keyClause declared front) := by
  cases h with
  | @mk ts _ ts' _ rest hpart hclus =>
    rcases List.cons_eq_append_iff.1 hts with ⟨rfl, -⟩ | ⟨front, rfl, hfront⟩
    · exact .inl rfl
    · rw [keyClause, expect_mark "(" rfl]
      change RunsOut (partitionColumns declared front >>= _)
      rcases hpart.sees.cut hfront with ⟨more', hmore⟩ | ⟨t, left, hleft, hpart'⟩
      · rw [hmore] at hfront
        refine (partitionColumns_of_cut hpart hfront hp).bind fun columns _ => .inl ?_
        dsimp only
        rw [moreKeyColumns_nil]
        rfl
      · rw [partitionColumns_of_grammar hpart', hp]
        change RunsOut (moreKeyColumns declared (t :: left) >>= _)
        rcases hclus.sees.cut hleft with ⟨more', hmore⟩ | ⟨t', left', hleft', hclus'⟩
        · rw [hmore] at hleft
          exact (moreKeyColumns_of_cut hclus hleft hc).bind fun columns _ => .inl rfl
        · obtain ⟨rfl, hrest⟩ := List.cons.inj hleft'
          rw [(eq_nil_of_eq_append hrest).1] at hclus'
          rw [moreKeyColumns_of_grammar hclus', hc]
          refine .inr ⟨{ partition := columns, clustering := columns' }, ?_⟩
          simp only [bind, Except.bind, Except.map, expect_mark ")" rfl]

/-! ## Column definitions -/

theorem columnDefinition_of_trials {name : Token} {ts ts₂ ts₃ ts₄ : List Token} {t : DataType}
    {inlineKey isStatic : Bool} (hn : Name name) (ht : dataType ts = .ok (t, ts₂))
    (hk : optional ["PRIMARY", "KEY"] ts₂ = (inlineKey, ts₃))
    (hs : optional ["STATIC"] ts₃ = (isStatic, ts₄)) :
    columnDefinition (name :: ts) = .ok (({ name, dataType := t, isStatic }, inlineKey), ts₄) := by
  simp only [columnDefinition, name_of_name hn, ht, hk, hs, bind, Except.bind]

theorem optional_nil (word : String) (words : List String) :
    optional (word :: words) [] = (false, []) :=
  optional_at_end .nil (List.cons_ne_nil word words)

/-- `PRIMARY` alone is given back by the trial for a key, and is not taken for `STATIC`. -/
theorem trials_of_primary {t : Token} (ht : Token.is t "PRIMARY" = true) :
    optional ["PRIMARY", "KEY"] [t] = (false, [t]) ∧ optional ["STATIC"] [t] = (false, [t]) := by
  have hkey := optional_at_end (.cons ht .nil) (List.cons_ne_nil "KEY" [])
  have hstatic : Token.is t "STATIC" = false := (is_eq_of_is ht "STATIC").trans rfl
  refine ⟨hkey, ?_⟩
  rw [optional_singleton]
  simp [hstatic]

/-- Up to a cut the two trials behind a type find no more than they find in the whole. They leave
nothing, or `PRIMARY` where it is all that they are given. -/
theorem trials_of_cut {t : Token} {ts₂ ts₃ left more rest : List Token} {inlineKey isStatic : Bool}
    (hk : Grammar.Optional ["PRIMARY", "KEY"] ts₂ inlineKey ts₃)
    (hs : Grammar.Optional ["STATIC"] ts₃ isStatic rest)
    (hleft : ts₂ = t :: left ++ (more ++ rest)) :
    ∃ inlineKey' isStatic' ts₃' ts₄', optional ["PRIMARY", "KEY"] (t :: left) = (inlineKey', ts₃') ∧
      optional ["STATIC"] ts₃' = (isStatic', ts₄') ∧ (inlineKey' = true → inlineKey = true) ∧
      (isStatic' = true → isStatic = true) ∧
      (ts₄' = [] ∨ ts₄' = [t] ∧ left = [] ∧ Token.is t "PRIMARY" = true) := by
  rcases hk.sees.cut hleft with ⟨more', hmore⟩ | ⟨t', left', hleft', hk'⟩
  · rw [hleft, hmore] at hk
    obtain ⟨words, words', hphrase, hwords, hwhole⟩ := hk.phrase_of_cut
    match words, hphrase, hwords with
    | [_], hphrase, .cons ht .nil =>
      cases hphrase
      obtain ⟨hkey, hstatic⟩ := trials_of_primary ht
      exact ⟨_, _, _, _, hkey, hstatic, by simp, by simp, .inr ⟨rfl, rfl, ht⟩⟩
    | [_, _], hphrase, hwords =>
      cases hphrase
      exact ⟨_, _, _, _, optional_all hwords, optional_nil _ _, fun _ => hwhole rfl, by simp,
        .inl rfl⟩
  · rw [hleft'] at hs
    obtain ⟨words, words', hphrase, hwords, hwhole⟩ := hs.phrase_of_cut
    match words, hphrase, hwords with
    | [_], hphrase, hwords =>
      cases hphrase
      exact ⟨_, _, _, _, optional_of_grammar hk', optional_all hwords, id, fun _ => hwhole rfl,
        .inl rfl⟩

/-- A column definition that the cut goes through declares no more than the whole one. It leaves
nothing, or `PRIMARY` behind its type. -/
theorem columnDefinition_of_cut {name : Token} {ts₁ ts₂ ts₃ front more rest : List Token}
    {text : String} {inlineKey isStatic : Bool} (hn : Name name) (ht : TypeText ts₁ text ts₂)
    (hk : Grammar.Optional ["PRIMARY", "KEY"] ts₂ inlineKey ts₃)
    (hs : Grammar.Optional ["STATIC"] ts₃ isStatic rest)
    (hts : name :: ts₁ = front ++ (more ++ rest)) :
    columnDefinition front = .error .endOfInput ∨ ∃ c inlineKey' left,
      columnDefinition front = .ok ((c, inlineKey'), left) ∧
      (inlineKey' = true → inlineKey = true) ∧ (c.isStatic = true → isStatic = true) ∧
      (left = [] ∨ ∃ t, left = [t] ∧ Token.is t "PRIMARY" = true ∧ ts₂ = t :: (more ++ rest)) := by
  rcases List.cons_eq_append_iff.1 hts with ⟨rfl, -⟩ | ⟨front, rfl, hfront⟩
  · exact .inl rfl
  · rcases ht.sees.cut hfront with ⟨more', hmore⟩ | ⟨t, left, hleft, ht'⟩
    · rw [hfront, hmore] at ht
      rcases dataType_of_cut ht with hd | ⟨t, hd⟩
      · refine .inl ?_
        simp only [columnDefinition, name_of_name hn, hd, bind, Except.bind]
      · have hcolumn := columnDefinition_of_trials hn hd (optional_nil _ _) (optional_nil _ _)
        exact .inr ⟨_, _, _, hcolumn, by simp, by simp, .inl rfl⟩
    · obtain ⟨_, _, _, _, hkey, hstatic, hle, hle', hend⟩ := trials_of_cut hk hs hleft
      have hcolumn := columnDefinition_of_trials hn (dataType_of_grammar ht') hkey hstatic
      refine .inr ⟨_, _, _, hcolumn, hle, hle', ?_⟩
      rcases hend with hnil | ⟨hone, rfl, hprimary⟩
      · exact .inl hnil
      · exact .inr ⟨t, hone, hprimary, hleft⟩

/-- Whether a key is accepted does not depend on the key. -/
theorem exists_setPrimaryKey {d d' : Declarations} {k : PrimaryKey}
    (h : d.setPrimaryKey k = .ok d') (k' : PrimaryKey) : ∃ d'', d.setPrimaryKey k' = .ok d'' := by
  unfold Declarations.setPrimaryKey at h ⊢
  cases hk : d.primaryKey with
  | some _ => simp [hk] at h
  | none => exact ⟨_, rfl⟩

theorem exists_define {d d' : Declarations} {c c' : Column} {inlineKey inlineKey' : Bool}
    (h : d.define c inlineKey = .ok d') (hkey : inlineKey' = true → inlineKey = true)
    (hstatic : c'.isStatic = true → c.isStatic = true) :
    ∃ d'', d.define c' inlineKey' = .ok d'' := by
  cases inlineKey' with
  | false => exact ⟨d.addColumn c', rfl⟩
  | true =>
    rw [hkey rfl, Declarations.define, if_pos rfl] at h
    rw [Declarations.define, if_pos rfl]
    cases hc : c.isStatic with
    | true => simp [hc] at h
    | false =>
      have hc' : c'.isStatic = false := by simpa [hc] using hstatic
      cases hk : d.setPrimaryKey { partition := [c] } with
      | error err => simp [hc, hk, Except.map] at h
      | ok d₁ =>
        obtain ⟨d₂, hk'⟩ := exists_setPrimaryKey hk { partition := [c'] }
        exact ⟨d₂.addColumn c', by simp [hc', hk', Except.map]⟩

end OnePass
end PartitionSize
