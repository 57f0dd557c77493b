import PartitionSize.Proofs.Schema.Bare
import PartitionSize.Proofs.Statement.Lookahead

/-!
# Type names

The name of a type is glued from tokens, and is read again from characters. What both have in common
is the depth of the open brackets: as the rules count it token by token (`Grammar.Closing`) and as a
text shows it character by character (`Closes`).

* **Brackets** (`Grammar.Closing.closes`, `Sliced.closing`): tokens that close the open brackets
  with the last of them are glued to a text that does, and a text without blanks that does is
  divided into such tokens. The tokens may be others than before: neighbours that are glued can be
  one token now.
* **Type names** (`TypeName`): a run, or a run with brackets behind it. Every type that a statement
  declares has such a name, as tables and columns have runs for names (`Schema.names_of_parse`), and
  every such name is read as a type (`TypeName.parse_eq`).
-/

namespace PartitionSize

open Text

/-! ## Brackets -/

/-- What a character adds to the number of open brackets. -/
def bracketWeight (c : Char) : Int := if c = '<' then 1 else if c = '>' then -1 else 0

@[simp] theorem bracketWeight_less : bracketWeight '<' = 1 := rfl

@[simp] theorem bracketWeight_greater : bracketWeight '>' = -1 := rfl

/-- The brackets opened and not closed. -/
def bracketDepth : List Char → Int
  | [] => 0
  | c :: cs => bracketWeight c + bracketDepth cs

/-- Where `depth` brackets are open, the last of them closes with the last character. -/
structure Closes (depth : Int) (cs : List Char) : Prop where
  total : depth + bracketDepth cs = 0
  positive : ∀ front back, cs = front ++ back → back ≠ [] → 0 < depth + bracketDepth front

@[simp] theorem bracketDepth_append (a b : List Char) :
    bracketDepth (a ++ b) = bracketDepth a + bracketDepth b := by
  induction a with
  | nil => simp [bracketDepth]
  | cons c a ih => simp [bracketDepth, ih]; omega

theorem bracketDepth_eq_zero {cs : List Char} (h : ∀ c ∈ cs, bracketWeight c = 0) :
    bracketDepth cs = 0 := by
  induction cs with
  | nil => rfl
  | cons c cs ih =>
    rw [List.forall_mem_cons] at h
    simp [bracketDepth, h.1, ih h.2]

theorem closes_nil_iff {depth : Int} : Closes depth [] ↔ depth = 0 := by
  constructor
  · intro h
    simpa [bracketDepth] using h.total
  · rintro rfl
    refine ⟨rfl, fun front back h hne => ?_⟩
    exact absurd (List.nil_eq_append_iff.1 h).2 hne

theorem closes_cons_iff {depth : Int} {c : Char} {cs : List Char} :
    Closes depth (c :: cs) ↔ 0 < depth ∧ Closes (depth + bracketWeight c) cs := by
  constructor
  · intro h
    refine ⟨by simpa [bracketDepth] using h.positive [] (c :: cs) rfl (by simp), ?_, ?_⟩
    · have := h.total
      simp only [bracketDepth] at this
      omega
    · rintro front back rfl hne
      have := h.positive (c :: front) back rfl hne
      simp only [bracketDepth] at this
      omega
  · rintro ⟨h0, h⟩
    refine ⟨?_, fun front back heq hne => ?_⟩
    · have := h.total
      simp only [bracketDepth]
      omega
    · cases front with
      | nil => simpa [bracketDepth] using h0
      | cons d front =>
        simp only [List.cons_append, List.cons.injEq] at heq
        obtain ⟨rfl, rfl⟩ := heq
        have := h.positive front back rfl hne
        simp only [bracketDepth]
        omega

theorem closes_less_iff {depth : Nat} {cs : List Char} :
    Closes (depth + 1 : Nat) ('<' :: cs) ↔ Closes (depth + 2 : Nat) cs := by
  have hopened : ((depth + 1 : Nat) : Int) + bracketWeight '<' = (depth + 2 : Nat) := by
    rw [bracketWeight_less]
    omega
  rw [closes_cons_iff, hopened]
  exact and_iff_right (by omega)

theorem closes_greater_iff {depth : Nat} {cs : List Char} :
    Closes (depth + 1 : Nat) ('>' :: cs) ↔ Closes depth cs := by
  have hclosed : ((depth + 1 : Nat) : Int) + bracketWeight '>' = depth := by
    rw [bracketWeight_greater]
    omega
  rw [closes_cons_iff, hclosed]
  exact and_iff_right (by omega)

/-- Characters that are no brackets leave the depth as it is; the first of them wants it open. -/
theorem closes_append_iff {depth : Int} {cs : List Char} (h : ∀ c ∈ cs, bracketWeight c = 0)
    (hne : cs ≠ []) (more : List Char) :
    Closes depth (cs ++ more) ↔ 0 < depth ∧ Closes depth more := by
  induction cs with
  | nil => exact absurd rfl hne
  | cons c cs ih =>
    rw [List.forall_mem_cons] at h
    rw [List.cons_append, closes_cons_iff, h.1, Int.add_zero]
    cases cs with
    | nil => rfl
    | cons d cs => rw [ih h.2 (by simp), ← and_assoc, and_self]

/-- Brackets that are open are closed by a bracket. -/
theorem Closes.eq_append {depth : Int} {cs : List Char} (h : Closes depth cs) (h0 : 0 < depth) :
    ∃ front, cs = front ++ ['>'] := by
  rcases List.eq_nil_or_concat cs with rfl | ⟨front, c, rfl⟩
  · have := closes_nil_iff.1 h
    omega
  · rw [List.concat_eq_append] at h ⊢
    have hpos := h.positive front [c] rfl (by simp)
    have htotal := h.total
    rw [bracketDepth_append] at htotal
    simp only [bracketDepth, bracketWeight] at htotal
    refine ⟨front, ?_⟩
    split at htotal
    · omega
    · split at htotal
      · next hc => rw [hc]
      · omega

/-! ## Tokens of a type -/

theorem Token.bracketWeight_of_endsRun {c : Char} (h : endsRun c = false) :
    bracketWeight c = 0 := by
  have h1 : c ≠ '<' := by rintro rfl; cases h
  have h2 : c ≠ '>' := by rintro rfl; cases h
  simp [bracketWeight, h1, h2]

theorem Token.Lexeme.bracketWeight_eq_zero {lexeme rest : List Char} (h : Lexeme lexeme rest)
    (h1 : lexeme ≠ ['<']) (h2 : lexeme ≠ ['>']) : ∀ c ∈ lexeme, bracketWeight c = 0 := by
  cases h with
  | @mark c _ hm =>
    have hc1 : c ≠ '<' := by rintro rfl; exact h1 rfl
    have hc2 : c ≠ '>' := by rintro rfl; exact h2 rfl
    simp [bracketWeight, hc1, hc2]
  | run _ hrun _ => exact fun c hc => bracketWeight_of_endsRun (hrun c hc)

theorem Token.toList_ne_iff {t : Token} (mark : Char) :
    t.toList ≠ [mark] ↔ t ≠ String.singleton mark := by
  rw [← String.toList_singleton, not_iff_not]
  exact String.toList_inj

theorem Grammar.Closing.closes {depth : Nat} {ts : List Token} (h : Closing depth ts)
    (hw : ∀ t ∈ ts, Token.Lexeme t.toList []) : Closes depth (String.join ts).toList := by
  induction h with
  | nil => exact closes_nil_iff.2 rfl
  | @less depth ts _ ih =>
    rw [List.forall_mem_cons] at hw
    rw [String.join_cons, String.toList_append]
    exact closes_less_iff.2 (ih hw.2)
  | @greater depth ts _ ih =>
    rw [List.forall_mem_cons] at hw
    rw [String.join_cons, String.toList_append]
    exact closes_greater_iff.2 (ih hw.2)
  | @other depth t ts h1 h2 _ ih =>
    rw [List.forall_mem_cons] at hw
    have hzero := hw.1.bracketWeight_eq_zero ((Token.toList_ne_iff '<').2 h1) ((Token.toList_ne_iff '>').2 h2)
    rw [String.join_cons, String.toList_append, closes_append_iff hzero hw.1.ne_nil]
    exact ⟨by omega, ih hw.2⟩

theorem eq_nil_of_isBlank {blanks text : List Char} (h : ∀ c ∈ blanks, isBlank c = true)
    (hb : ∀ c ∈ text, isBlank c = false) (hsub : blanks ⊆ text) : blanks = [] := by
  rw [List.eq_nil_iff_forall_not_mem]
  intro c hc
  have := h c hc
  rw [hb c (hsub hc)] at this
  cases this

theorem Sliced.closing {text : List Char} {slices : List Slice} (h : Sliced text slices)
    (hb : ∀ c ∈ text, isBlank c = false) {depth : Nat} (hc : Closes depth text) :
    Grammar.Closing depth (slices.map Slice.token) := by
  induction h generalizing depth with
  | @nil blanks hblanks =>
    obtain rfl := eq_nil_of_isBlank hblanks hb (List.Subset.refl _)
    have : (depth : Int) = 0 := closes_nil_iff.1 hc
    obtain rfl : depth = 0 := by omega
    exact .nil
  | @cons s rest slices hblanks hl _ ih =>
    obtain ⟨blanks, lexeme⟩ := s
    obtain rfl := eq_nil_of_isBlank hblanks hb (by simp [Slice.chars])
    have hrest : ∀ c ∈ rest, isBlank c = false := fun c hm => hb c (List.mem_append_right _ hm)
    have hpos : 0 < depth := by
      have := hc.positive [] _ rfl (by simp [Slice.chars, hl.ne_nil])
      simp only [bracketDepth] at this
      omega
    obtain ⟨outer, rfl⟩ := Nat.exists_eq_add_one.2 hpos
    simp only [Slice.chars, List.nil_append] at hc
    rw [List.map_cons]
    by_cases h1 : lexeme = ['<']
    · subst h1
      exact .less (ih hrest (closes_less_iff.1 hc))
    · by_cases h2 : lexeme = ['>']
      · subst h2
        exact .greater (ih hrest (closes_greater_iff.1 hc))
      · have hzero := hl.bracketWeight_eq_zero h1 h2
        rw [closes_append_iff hzero hl.ne_nil] at hc
        refine .other ((Token.toList_ne_iff '<').1 ?_) ((Token.toList_ne_iff '>').1 ?_)
          (ih hrest hc.2)
        · rwa [Slice.token, String.toList_ofList]
        · rwa [Slice.token, String.toList_ofList]

/-! ## Type names -/

/-- A run of characters that are neither blanks nor marks, but for a semicolon behind the first. -/
structure Token.IsRun (cs : List Char) : Prop where
  ne_nil : cs ≠ []
  head : ∀ c ∈ cs.head?, isMarkChar c = false
  all : ∀ c ∈ cs, endsRun c = false

theorem Token.IsRun.lexeme {cs rest : List Char} (h : IsRun cs)
    (hrest : ∀ d after, rest = d :: after → endsRun d = true) : Lexeme cs rest := by
  obtain ⟨hne, hhead, hall⟩ := h
  cases cs with
  | nil => exact absurd rfl hne
  | cons c cs => exact .run (hhead c rfl) hall hrest

theorem Token.IsRun.isBlank_eq_false {cs : List Char} (h : IsRun cs) :
    ∀ c ∈ cs, isBlank c = false := by
  have hl : Lexeme cs [] := h.lexeme (by simp)
  exact hl.isBlank_eq_false

theorem Token.isRun_of_name {t : Token} (h : Lexeme t.toList []) (hn : Grammar.Name t) :
    IsRun t.toList := by
  generalize ht : t.toList = cs at h
  obtain rfl : t = String.ofList cs := by rw [← ht, String.ofList_toList]
  cases h with
  | @mark c _ hm =>
    have : Token.isMark (String.ofList [c]) = true := by
      simp only [isMarkChar, Bool.or_eq_true, beq_iff_eq] at hm
      rcases hm with ((((rfl | rfl) | rfl) | rfl) | rfl) | rfl <;> rfl
    rw [Grammar.Name, this] at hn
    cases hn
  | run hm hrun _ => exact ⟨by simp, by simpa using hm, hrun⟩

/-- A run, or a run with brackets behind it that close with the last character and not before. -/
inductive TypeName : List Char → Prop where
  | plain {base} : Token.IsRun base → TypeName base
  | bracketed {base arguments} : Token.IsRun base → (∀ c ∈ arguments, isBlank c = false) →
      Closes 1 arguments → TypeName (base ++ '<' :: arguments)

theorem TypeName.of_grammar {ts rest : List Token} {text : String}
    (h : Grammar.TypeText ts text rest) (hw : ∀ t ∈ ts, Token.Lexeme t.toList []) :
    TypeName text.toList := by
  cases h with
  | plain hn _ => exact .plain (Token.isRun_of_name (hw _ (by simp)) hn)
  | @bracketed name ts rest hn hc =>
    have hts : ∀ t ∈ ts, Token.Lexeme t.toList [] := fun t hm => hw t (by simp [hm])
    rw [String.join_cons, String.join_cons, String.toList_append, String.toList_append]
    refine .bracketed (Token.isRun_of_name (hw _ (by simp)) hn) ?_ (hc.closes hts)
    intro c hm
    simp only [String.toList_join, List.append_eq, List.nil_append, List.mem_flatMap] at hm
    obtain ⟨t, ht, hm⟩ := hm
    exact (hts t ht).isBlank_eq_false c hm

namespace TypeName

variable {cs : List Char} (h : TypeName cs)
include h

theorem ne_nil : cs ≠ [] := by
  cases h with
  | plain hr => exact hr.ne_nil
  | bracketed hr _ _ => simp

theorem isBlank_eq_false : ∀ c ∈ cs, isBlank c = false := by
  cases h with
  | plain hr => exact hr.isBlank_eq_false
  | @bracketed base arguments hr hb _ =>
    intro c hm
    rcases List.mem_append.1 hm with hm | hm
    · exact hr.isBlank_eq_false c hm
    · rcases List.mem_cons.1 hm with rfl | hm
      · rfl
      · exact hb c hm

end TypeName

/-- A base and brackets behind it, of which one is open until the last character closes it. -/
structure Balanced (cs : List Char) : Prop where
  form : ∃ base arguments, cs = base ++ '<' :: arguments ++ ['>'] ∧ base ≠ [] ∧
    ∀ c ∈ base, c ≠ '<' ∧ c ≠ '>'
  positive : ∀ front back, cs = front ++ back → '<' ∈ front → back ≠ [] → 0 < bracketDepth front
  total : bracketDepth cs = 0

theorem Token.IsRun.ne_bracket {cs : List Char} (h : IsRun cs) : ∀ c ∈ cs, c ≠ '<' ∧ c ≠ '>' := by
  intro c hc
  have hend := h.all c hc
  constructor
  · rintro rfl; cases hend
  · rintro rfl; cases hend

theorem TypeName.balanced {cs : List Char} (h : TypeName cs) :
    (∀ c ∈ cs, c ≠ '<' ∧ c ≠ '>') ∨ Balanced cs := by
  cases h with
  | plain hr => exact .inl hr.ne_bracket
  | @bracketed base arguments hr _ hc =>
    have hbase : bracketDepth base = 0 :=
      bracketDepth_eq_zero fun c hm => Token.bracketWeight_of_endsRun (hr.all c hm)
    obtain ⟨inner, rfl⟩ := hc.eq_append (by omega)
    refine .inr ⟨⟨base, inner, by simp, hr.ne_nil, hr.ne_bracket⟩, ?_, ?_⟩
    · intro front back heq hm hne
      -- A part of the base holds no bracket, so the cut is behind the bracket that opens.
      rcases List.append_eq_append_iff.1 heq with ⟨more, rfl, hmore⟩ | ⟨more, rfl, hmore⟩
      · cases more with
        | nil =>
          rw [List.append_nil] at hm
          exact absurd rfl (hr.ne_bracket _ hm).1
        | cons c more =>
          simp only [List.cons_append, List.cons.injEq] at hmore
          obtain ⟨rfl, hmore⟩ := hmore
          have hpos := hc.positive more back hmore hne
          rw [bracketDepth_append, hbase]
          simp only [bracketDepth, bracketWeight_less]
          omega
      · exact absurd rfl (hr.ne_bracket _ (List.mem_append_left _ hm)).1
    · have htotal := hc.total
      rw [bracketDepth_append, hbase]
      simp only [bracketDepth, bracketWeight_less]
      omega

/-! ## Statements -/

/-- The name of a column definition is a run, and its type is glued from the tokens of a type. -/
def Entry.HasNames : Entry → Prop
  | .column name dataType _ _ => Token.IsRun name.toList ∧ TypeName dataType.toList
  | .key .. => True

namespace Grammar

theorem Sees.subset {R : List Token → List Token → Prop} {ts rest : List Token}
    (h : Sees R ts rest) : rest ⊆ ts := by
  obtain ⟨taken, rfl, -⟩ := h
  exact List.subset_append_right _ _

theorem EntryText.hasNames {ts rest : List Token} {e : Entry} (h : EntryText ts e rest)
    (hw : ∀ t ∈ ts, Token.Lexeme t.toList []) : e.HasNames := by
  cases h with
  | key _ hc =>
    cases hc
    trivial
  | column ho hn ht _ _ =>
    have hbehind := ho.sees.subset
    refine ⟨Token.isRun_of_name (hw _ (hbehind List.mem_cons_self)) hn, ?_⟩
    exact .of_grammar ht fun t hm => hw t (hbehind (List.mem_cons_of_mem _ hm))

/-- Every entry of a list is that of some of its tokens. -/
theorem Entries.exists_entryText {ts rest : List Token} {es : List Entry}
    (h : Entries ts es rest) : ∀ e ∈ es, ∃ ts' rest', ts' ⊆ ts ∧ EntryText ts' e rest' := by
  induction h with
  | @last ts e t rest he _ => simpa using ⟨ts, List.Subset.refl _, _, he⟩
  | @cons ts e ts' es rest he _ ih =>
    refine List.forall_mem_cons.2 ⟨⟨ts, _, List.Subset.refl _, he⟩, fun e' hm => ?_⟩
    obtain ⟨ts'', rest'', hsub, he'⟩ := ih e' hm
    have hbehind : ts' ⊆ ts := fun t ht => he.sees.subset (List.mem_cons_of_mem _ ht)
    exact ⟨ts'', rest'', List.Subset.trans hsub hbehind, he'⟩

theorem Sentence.exists_entryText {ts rest : List Token} {o : Outline} (h : Sentence ts o rest) :
    ∀ e ∈ o.entries, ∃ ts' rest', ts' ⊆ ts ∧ EntryText ts' e rest' := by
  cases h with
  | mk _ ho _ hes =>
    intro e hm
    obtain ⟨ts', rest', hsub, he⟩ := hes.exists_entryText e hm
    refine ⟨ts', rest', fun t ht => ?_, he⟩
    have hbehind := ho.sees.subset (List.mem_cons_of_mem _ (List.mem_cons_of_mem _ (hsub ht)))
    exact List.mem_cons_of_mem _ (List.mem_cons_of_mem _ hbehind)

theorem Sentence.tableName_mem {ts rest : List Token} {o : Outline} (h : Sentence ts o rest) :
    o.tableName ∈ ts ∧ Name o.tableName := by
  cases h with
  | mk _ ho hn _ =>
    have hbehind := ho.sees.subset List.mem_cons_self
    exact ⟨List.mem_cons_of_mem _ (List.mem_cons_of_mem _ hbehind), hn⟩

end Grammar

theorem Schema.exists_outline {text : String} {s : Schema} (h : Schema.parse text = .ok s) :
    ∃ o rest, Grammar.Sentence (Token.scan text.toList) o rest ∧ s = o.schema := by
  rw [parse_eq_onePass] at h
  obtain ⟨o, rest, ho⟩ := OnePass.exists_sentence h
  rw [OnePass.statement_of_sentence ho] at h
  split at h
  · cases h
  · cases h
    exact ⟨o, rest, ho, rfl⟩

/-- The names and types that are read. -/
theorem Schema.names_of_parse {text : String} {s : Schema} (h : Schema.parse text = .ok s) :
    Token.IsRun s.tableName.toList ∧
      ∀ c ∈ s.columns, Token.IsRun c.name.toList ∧ TypeName c.dataType.name.toList := by
  obtain ⟨o, rest, ho, rfl⟩ := Schema.exists_outline h
  obtain ⟨htable, hname⟩ := ho.tableName_mem
  refine ⟨Token.isRun_of_name (Token.lexeme_of_mem_scan htable) hname, fun c hc => ?_⟩
  obtain ⟨e, he, hcol⟩ := List.mem_filterMap.1 hc
  obtain ⟨ts, rest', hsub, hentry⟩ := ho.exists_entryText e he
  have hnames := hentry.hasNames fun t ht => Token.lexeme_of_mem_scan (hsub ht)
  cases e with
  | column name dataType inlineKey isStatic => cases hcol; exact hnames
  | key partition clustering => cases hcol

theorem Schema.typeName_of_parse {text : String} {s : Schema} (h : Schema.parse text = .ok s) :
    ∀ c ∈ s.columns, TypeName c.dataType.name.toList :=
  fun c hc => ((Schema.names_of_parse h).2 c hc).2

/-! ## Reading a type again -/

theorem Token.IsRun.name {name : String} (h : IsRun name.toList) : Grammar.Name name := by
  cases hm : Token.isMark name with
  | false => exact hm
  | true =>
    simp only [isMark, Bool.or_eq_true, beq_iff_eq] at hm
    rcases hm with ((((rfl | rfl) | rfl) | rfl) | rfl) | rfl <;> cases h.head _ rfl

/-- The tokens of a type name are those of a type, in front of anything but a bracket. -/
theorem TypeName.exists_typeText {name : String} (h : TypeName name.toList) :
    ∃ slices, Sliced name.toList slices ∧ ∀ t rest, t ≠ "<" →
      Grammar.TypeText (slices.map Slice.token ++ t :: rest) name (t :: rest) := by
  generalize hname : name.toList = cs at h
  obtain rfl : name = String.ofList cs := by rw [← hname, String.ofList_toList]
  cases h with
  | plain hr =>
    have hname : Grammar.Name (String.ofList cs) := Token.IsRun.name (by simpa using hr)
    have hall : Sliced (cs ++ []) [⟨[], cs⟩] :=
      .cons (s := ⟨[], cs⟩) (by simp) (hr.lexeme (by simp)) (.nil (by simp))
    exact ⟨[⟨[], cs⟩], by simpa using hall, fun t rest ht => .plain hname ht⟩
  | @bracketed base arguments hr hb hc =>
    obtain ⟨slices, hs⟩ := exists_sliced arguments
    have hless : Sliced ('<' :: arguments) (⟨[], ['<']⟩ :: slices) :=
      .cons (s := ⟨[], ['<']⟩) (by simp) (.mark rfl) hs
    have hall : Sliced (base ++ '<' :: arguments) (⟨[], base⟩ :: ⟨[], ['<']⟩ :: slices) := by
      refine .cons (s := ⟨[], base⟩) (by simp) (hr.lexeme ?_) hless
      rintro d after ⟨⟩
      rfl
    refine ⟨_, hall, fun t rest _ => ?_⟩
    have hjoin : String.join (slices.map Slice.token) = String.ofList arguments := by
      rw [hs.join_tokens, List.filter_eq_self.2 fun c hm => by simp [hb c hm]]
    have hbase : Grammar.Name (String.ofList base) := Token.IsRun.name (by simpa using hr)
    have htext : String.ofList (base ++ '<' :: arguments) =
        String.join (String.ofList base :: "<" :: slices.map Slice.token) := by
      rw [String.join_cons, String.join_cons, hjoin]
      apply String.toList_injective
      simp
    rw [htext]
    exact .bracketed hbase (hs.closing hb hc)

/-- The name is read from the characters again, where its tokens may differ from those that it was
glued from. -/
theorem TypeName.parse_eq {name : String} (h : TypeName name.toList) :
    Schema.parse ("CREATE TABLE t(x " ++ name ++ ");") =
      .ok ⟨"t", [⟨"x", ⟨name⟩, false, none⟩], {}⟩ := by
  obtain ⟨slices, hs, htype⟩ := h.exists_typeText
  have hclose : Sliced (name.toList ++ [')', ';']) (slices ++ [⟨[], [')']⟩, ⟨[], [';']⟩]) := by
    refine hs.append (hs.flatMap_chars h.isBlank_eq_false) (by decide) ?_
    rintro d after ⟨⟩
    rfl
  obtain ⟨slices', hs', htokens⟩ := hclose.cons_blank (c := ' ') rfl
  have hopen : Sliced "CREATE TABLE t(x".toList
      [⟨[], "CREATE".toList⟩, ⟨[' '], "TABLE".toList⟩, ⟨[' '], ['t']⟩, ⟨[], ['(']⟩,
        ⟨[], ['x']⟩] := by
    decide
  have hall := hopen.append rfl hs' (by rintro d after ⟨⟩; rfl)
  have hscan : Token.scan ("CREATE TABLE t(x " ++ name ++ ");").toList =
      "CREATE" :: "TABLE" :: "t" :: "(" :: "x" :: (slices.map Slice.token ++ [")", ";"]) := by
    have htext : ("CREATE TABLE t(x " ++ name ++ ");").toList =
        "CREATE TABLE t(x".toList ++ ' ' :: (name.toList ++ [')', ';']) := by simp
    rw [htext, hall.scan_eq, List.map_append, htokens, List.map_append]
    rfl
  have hsentence : Grammar.Sentence (Token.scan ("CREATE TABLE t(x " ++ name ++ ");").toList)
      ⟨"t", [.column "x" name false false]⟩ [] := by
    rw [hscan]
    refine .mk (.cons rfl (.cons rfl .nil)) (.absent rfl) rfl (.last ?_ (by decide))
    exact .column (.absent rfl) rfl (htype ")" [";"] (by decide)) (.absent rfl) (.absent rfl)
  rw [Schema.parse_of_sentence hsentence]
  rfl

/-- **Type names are balanced normal forms.** -/
theorem Schema.balanced_of_parse {text : String} {s : Schema} (h : Schema.parse text = .ok s) :
    ∀ c ∈ s.columns ++ (s.primaryKey.partition ++ s.primaryKey.clustering),
      c.dataType.name ≠ "" ∧ (∀ d ∈ c.dataType.name.toList, isBlank d = false) ∧
      ((∀ d ∈ c.dataType.name.toList, d ≠ '<' ∧ d ≠ '>') ∨ Balanced c.dataType.name.toList) ∧
      Schema.parse ("CREATE TABLE t(x " ++ c.dataType.name ++ ");") =
        .ok ⟨"t", [⟨"x", ⟨c.dataType.name⟩, false, none⟩], ⟨[], []⟩⟩ := by
  intro c hc
  have hm : c ∈ s.columns := by
    rcases List.mem_append.1 hc with hc | hc
    · exact hc
    · exact (Schema.sound_of_parse h).key_mem c hc
  have hname := Schema.typeName_of_parse h c hm
  refine ⟨?_, hname.isBlank_eq_false, hname.balanced, hname.parse_eq⟩
  intro h0
  exact hname.ne_nil (by rw [h0]; rfl)

/-- A semicolon in the brackets stays in front of the name behind it, and blanks go. -/
theorem Schema.balanced_of_parse_nested :
    let statement := "CREATE TABLE t(k int PRIMARY KEY, v map < text ;x, frozen<list<(a, b)>> >);"
    let name := "map<text;x,frozen<list<(a,b)>>>"
    Schema.parse statement = .ok ⟨"t", [⟨"k", ⟨"int"⟩, false, none⟩, ⟨"v", ⟨name⟩, false, none⟩],
      ⟨[⟨"k", ⟨"int"⟩, false, none⟩], []⟩⟩ ∧
    Balanced name.toList ∧
    Schema.parse ("CREATE TABLE t(x " ++ name ++ ");") =
      .ok ⟨"t", [⟨"x", ⟨name⟩, false, none⟩], ⟨[], []⟩⟩ := by
  intro statement name
  have hparse : Schema.parse statement = .ok ⟨"t", [⟨"k", ⟨"int"⟩, false, none⟩,
      ⟨"v", ⟨name⟩, false, none⟩], ⟨[⟨"k", ⟨"int"⟩, false, none⟩], []⟩⟩ := by
    decide +kernel
  obtain ⟨-, -, hform, hagain⟩ :=
    Schema.balanced_of_parse hparse ⟨"v", ⟨name⟩, false, none⟩ (by simp)
  refine ⟨hparse, hform.resolve_left fun h => ?_, hagain⟩
  exact (h '<' (by decide)).1 rfl

end PartitionSize
