import PartitionSize.Proofs.Statement.Sentence
import PartitionSize.Proofs.Token.Slices

/-!
# The grammar looks one token ahead

Which tokens a rule of the grammar takes is decided by these tokens and by the one behind them
(`Grammar.Sees`): `Optional.sees`, `TypeText.sees`, `EntryText.sees` and so on. A sentence ends with
a semicolon that nothing has to be seen behind (`Sentence.replace_rest`).

* **Cutting** (`Sees.cut`): where tokens are cut into two parts, a rule takes no more than the first
  part, and then it reads the first part alone in the same way, or it needs the second one.
* **Going on** (`parse_append`): a text that is accepted is accepted with the same schema when
  anything is written behind it. The semicolon is a token whatever character follows.
-/

namespace PartitionSize

namespace Grammar

/-- The rule takes the tokens in front of `rest`, and takes the same in front of all other tokens
that begin as `rest` does. -/
def Sees (R : List Token → List Token → Prop) (ts rest : List Token) : Prop :=
  ∃ taken, ts = taken ++ rest ∧ ∀ rest', rest'.head? = rest.head? → R (taken ++ rest') rest'

namespace Sees

variable {R R₁ R₂ : List Token → List Token → Prop} {ts mid rest : List Token}

theorem mono (h : Sees R₁ ts rest) (hR : ∀ ts rest, R₁ ts rest → R₂ ts rest) : Sees R₂ ts rest := by
  obtain ⟨taken, hts, hother⟩ := h
  exact ⟨taken, hts, fun rest' hr => hR _ _ (hother rest' hr)⟩

theorem token (t : Token) (rest : List Token) : Sees (fun ts rest => ts = t :: rest) (t :: rest) rest :=
  ⟨[t], rfl, fun _ _ => rfl⟩

/-- What the first rule sees of the second one's tokens stays when these stay. -/
theorem comp (h₁ : Sees R₁ ts mid) (h₂ : Sees R₂ mid rest) :
    Sees (fun ts rest => ∃ mid, R₁ ts mid ∧ R₂ mid rest) ts rest := by
  obtain ⟨taken₁, rfl, hother₁⟩ := h₁
  obtain ⟨taken₂, rfl, hother₂⟩ := h₂
  refine ⟨taken₁ ++ taken₂, by simp, fun rest' hr => ⟨taken₂ ++ rest', ?_, hother₂ rest' hr⟩⟩
  rw [List.append_assoc]
  exact hother₁ _ (by rw [List.head?_append, List.head?_append, hr])

theorem head_eq {t : Token} (h : Sees R ts (t :: rest)) :
    ∃ taken, ts = taken ++ t :: rest ∧ ∀ rest', R (taken ++ t :: rest') (t :: rest') := by
  obtain ⟨taken, hts, hother⟩ := h
  exact ⟨taken, hts, fun rest' => hother _ rfl⟩

theorem of_head {t : Token}
    (h : ∃ taken, ts = taken ++ t :: rest ∧ ∀ rest', R (taken ++ t :: rest') (t :: rest')) :
    Sees R ts (t :: rest) := by
  obtain ⟨taken, hts, hother⟩ := h
  refine ⟨taken, hts, fun rest' hr => ?_⟩
  cases rest' with
  | nil => cases hr
  | cons t' rest' =>
    cases hr
    exact hother rest'

/-- A rule on tokens that are cut in two needs the second part, or reads the first part as it reads
both and leaves some of it. -/
theorem cut {front back : List Token} (h : Sees R ts rest) (hts : ts = front ++ back) :
    (∃ more, back = more ++ rest) ∨
      ∃ t left, rest = t :: left ++ back ∧ R front (t :: left) := by
  obtain ⟨taken, hrest, hother⟩ := h
  rw [hts, List.append_eq_append_iff] at hrest
  rcases hrest with ⟨more, -, hback⟩ | ⟨left, hfront, hrest⟩
  · exact .inl ⟨more, hback⟩
  · cases left with
    | nil => exact .inl ⟨[], hrest.symm⟩
    | cons t left =>
      refine .inr ⟨t, left, hrest, ?_⟩
      rw [hfront]
      exact hother _ (by rw [hrest]; rfl)

end Sees

/-! ## The rules -/

variable {ts rest : List Token}

theorem Optional.sees {phrase : List String} {whole : Bool} (h : Optional phrase ts whole rest) :
    Sees (Optional phrase · whole ·) ts rest := by
  cases h with
  | @all taken rest hp => exact ⟨taken, rfl, fun rest' _ => .all hp⟩
  | @part word words words' taken t rest heq hp ht =>
    exact .of_head ⟨taken, rfl, fun rest' => .part heq hp ht⟩

theorem TypeText.sees {text : String} (h : TypeText ts text rest) :
    Sees (TypeText · text ·) ts rest := by
  cases h with
  | @plain _ t rest hn ht => exact .of_head ⟨[text], rfl, fun rest' => .plain hn ht⟩
  | @bracketed name taken rest hn hc =>
    exact ⟨name :: "<" :: taken, rfl, fun rest' _ => .bracketed hn hc⟩

theorem MoreNames.sees {names : List String} (h : MoreNames ts names rest) :
    Sees (MoreNames · names ·) ts rest := by
  induction h with
  | nil ht => exact .of_head ⟨[], rfl, fun rest' => .nil ht⟩
  | cons hn _ ih =>
    refine (((Sees.token _ _).comp (.token _ _)).comp ih).mono ?_
    rintro _ _ ⟨_, ⟨_, rfl, rfl⟩, hm⟩
    exact .cons hn hm

theorem Partition.sees {names : List String} (h : Partition ts names rest) :
    Sees (Partition · names ·) ts rest := by
  cases h with
  | one hn => exact (Sees.token _ _).mono fun _ _ hts => hts ▸ .one hn
  | several hn hm =>
    refine ((((Sees.token _ _).comp (.token _ _)).comp hm.sees).comp (.token _ _)).mono ?_
    rintro _ _ ⟨_, ⟨_, ⟨_, rfl, rfl⟩, hm⟩, rfl⟩
    exact .several hn hm

theorem Clause.sees {e : Entry} (h : Clause ts e rest) : Sees (Clause · e ·) ts rest := by
  cases h with
  | mk hp hm =>
    refine ((((Sees.token _ _).comp hp.sees).comp hm.sees).comp (.token _ _)).mono ?_
    rintro _ _ ⟨_, ⟨_, ⟨_, rfl, hp⟩, hm⟩, rfl⟩
    exact .mk hp hm

theorem EntryText.sees {e : Entry} (h : EntryText ts e rest) : Sees (EntryText · e ·) ts rest := by
  cases h with
  | key ho hc =>
    refine (ho.sees.comp hc.sees).mono ?_
    rintro _ _ ⟨_, ho, hc⟩
    exact .key ho hc
  | column ho hn ht hk hs =>
    refine ((((ho.sees.comp (.token _ _)).comp ht.sees).comp hk.sees).comp hs.sees).mono ?_
    rintro _ _ ⟨_, ⟨_, ⟨_, ⟨_, ho, rfl⟩, ht⟩, hk⟩, hs⟩
    exact .column ho hn ht hk hs

theorem Entries.sees {es : List Entry} (h : Entries ts es rest) : Sees (Entries · es ·) ts rest := by
  induction h with
  | last he ht =>
    obtain ⟨taken, hts, hother⟩ := he.sees.head_eq
    exact .of_head ⟨taken, hts, fun rest' => .last (hother rest') ht⟩
  | cons he _ ih =>
    refine ((he.sees.comp (.token _ _)).comp ih).mono ?_
    rintro _ _ ⟨_, ⟨_, he, rfl⟩, hes⟩
    exact .cons he hes

/-- Nothing is seen of what follows a sentence. -/
theorem Sentence.replace_rest {o : Outline} (h : Sentence ts o rest) :
    ∃ taken, ts = taken ++ ";" :: rest ∧ ∀ rest', Sentence (taken ++ ";" :: rest') o rest' := by
  cases h with
  | @mk create table ts whole tableName ts' es rest hp ho hn hes =>
    obtain ⟨taken, rfl, hother⟩ := (((ho.sees.comp (.token _ _)).comp (.token _ _)).comp hes.sees)
    refine ⟨create :: table :: taken ++ [")"], by simp, fun rest' => ?_⟩
    obtain ⟨_, ⟨_, ⟨_, ho, rfl⟩, rfl⟩, hes⟩ := hother (")" :: ";" :: rest') rfl
    simpa using Sentence.mk hp ho hn hes

end Grammar

/-! ## What follows a statement -/

/-- On a sentence the reader declares the entries of its outline. -/
theorem Schema.parse_of_sentence {text : String} {o : Outline} {rest : List Token}
    (h : Grammar.Sentence (Token.scan text.toList) o rest) :
    Schema.parse text = (Entry.declareAll {} o.entries).map fun d => d.toSchema o.tableName := by
  rw [parse_eq_onePass, OnePass.statement_eq_declareAll h]

theorem Schema.exists_declared {text : String} {s : Schema} {o : Outline} {rest : List Token}
    (h : Schema.parse text = .ok s) (ho : Grammar.Sentence (Token.scan text.toList) o rest) :
    ∃ d, Entry.declareAll {} o.entries = .ok d := by
  rw [Schema.parse_of_sentence ho] at h
  cases hd : Entry.declareAll {} o.entries with
  | error err =>
    rw [hd] at h
    cases h
  | ok d => exact ⟨d, rfl⟩

/-- **Text behind a statement is ignored**, whatever characters it begins with. -/
theorem Schema.parse_append {text : String} {s : Schema} (h : Schema.parse text = .ok s)
    (more : String) : Schema.parse (text ++ more) = .ok s := by
  obtain ⟨o, rest, d, ho, hd, rfl⟩ := Schema.exists_declareAll h
  obtain ⟨slices, hs⟩ := exists_sliced text.toList
  obtain ⟨taken, hscan, hother⟩ := ho.replace_rest
  rw [hs.scan_eq, List.map_eq_append_iff] at hscan
  obtain ⟨before, _, rfl, rfl, hend⟩ := hscan
  obtain ⟨semicolon, behind, rfl, hsemicolon, -⟩ := List.map_eq_cons_iff.1 hend
  have hmark : semicolon.lexeme = [';'] := by
    have := congrArg String.toList hsemicolon
    simpa [Slice.token] using this
  obtain ⟨behind', hs'⟩ := hs.append_of_mark hmark rfl more.toList
  have ho' : Grammar.Sentence (Token.scan (text ++ more).toList) o (behind'.map Slice.token) := by
    rw [String.toList_append, hs'.scan_eq, List.map_append, List.map_cons, hsemicolon]
    exact hother _
  rw [Schema.parse_of_sentence ho', hd]
  rfl

/-- A letter right behind the semicolon begins a token of its own. -/
theorem Schema.parse_append_letter :
    let s : Schema := ⟨"t", [⟨"a", ⟨"int"⟩, false, none⟩], ⟨[⟨"a", ⟨"int"⟩, false, none⟩], []⟩⟩
    Schema.parse "create table t(a int primary key);" = .ok s ∧
      Schema.parse ("create table t(a int primary key);" ++ "x, ;y") = .ok s := by
  intro s
  have h : Schema.parse "create table t(a int primary key);" = .ok s := by decide +kernel
  exact ⟨h, Schema.parse_append h "x, ;y"⟩

end PartitionSize
