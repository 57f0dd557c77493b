import PartitionSize.Statement.Grammar
import PartitionSize.Statement.OnePass

/-!
# Marks, phrases and names, read and in the grammar

The words of the one-pass reader against those of `PartitionSize.Grammar`, in both directions.

* **Marks** (`is_mark_iff`): letters are compared without case, and a mark has none, so nothing but
  the mark matches it.
* **Trials**: a trial takes what the grammar's `opt` takes (`optional_of_grammar`). The other way it
  may have met the end of the tokens, which is no rule of the grammar: it gives one token back then,
  and so leaves at most one (`optional_grammar` asks for two).
* **Words and names**: `expect_of_phrase` and `exists_phrase_of_expect`, `name_of_name` and
  `eq_of_name`.
-/

namespace PartitionSize.OnePass

open Grammar

/-! ## Marks -/

/-- Only capital letters change when letters are made small, and they become small letters. -/
theorem eq_of_toLower_eq {c m : Char} (hm : m.isLower = false) (h : c.toLower = m) : c = m := by
  unfold Char.toLower at h
  split at h
  · next hc =>
    subst h
    obtain ⟨h1, h2⟩ := hc
    unfold Char.isLower at hm
    simp only [Bool.and_eq_false_iff, decide_eq_false_iff_not, UInt32.le_iff_toNat_le,
      ge_iff_le, UInt32.toNat_add] at hm h1 h2
    change 65 ≤ c.val.toNat at h1
    change c.val.toNat ≤ 90 at h2
    change ¬ 97 ≤ (c.val.toNat + 32) % 2 ^ 32 ∨ ¬ (c.val.toNat + 32) % 2 ^ 32 ≤ 122 at hm
    omega
  · exact h

theorem is_singleton_iff {m : Char} (hl : m.isLower = false) (hm : m.toLower = m) (t : Token) :
    Token.is t (String.singleton m) = true ↔ t = String.singleton m := by
  simp only [Token.is, String.toList_singleton, List.map_cons, List.map_nil, hm, beq_iff_eq,
    List.map_eq_singleton_iff]
  constructor
  · rintro ⟨c, hc, he⟩
    rw [← eq_of_toLower_eq hl he]
    apply String.toList_injective
    rw [hc, String.toList_singleton]
  · rintro rfl
    exact ⟨m, by simp, hm⟩

/-- A mark is matched by nothing but itself. -/
theorem is_mark_iff {mark : String} (hm : Token.isMark mark = true) (t : Token) :
    Token.is t mark = true ↔ t = mark := by
  simp only [Token.isMark, Bool.or_eq_true, beq_iff_eq] at hm
  rcases hm with ((((rfl | rfl) | rfl) | rfl) | rfl) | rfl
  · exact is_singleton_iff (m := '(') rfl rfl t
  · exact is_singleton_iff (m := ')') rfl rfl t
  · exact is_singleton_iff (m := '<') rfl rfl t
  · exact is_singleton_iff (m := '>') rfl rfl t
  · exact is_singleton_iff (m := ',') rfl rfl t
  · exact is_singleton_iff (m := ';') rfl rfl t

theorem phrase_of_marks {marks : List String} (hm : ∀ m ∈ marks, Token.isMark m = true) :
    Phrase marks marks := by
  induction marks with
  | nil => exact .nil
  | cons m marks ih =>
    rw [List.forall_mem_cons] at hm
    exact .cons ((is_mark_iff hm.1 m).2 rfl) (ih hm.2)

theorem eq_of_phrase_marks {marks : List String} {ts : List Token} (h : Phrase marks ts)
    (hm : ∀ m ∈ marks, Token.isMark m = true) : ts = marks := by
  induction h with
  | nil => rfl
  | cons ht _ ih =>
    rw [List.forall_mem_cons] at hm
    rw [(is_mark_iff hm.1 _).1 ht, ih hm.2]

/-! ## Phrases and trials -/

theorem matchLength_of_phrase {words : List String} {ts : List Token} (h : Phrase words ts)
    (words' : List String) (ts' : List Token) :
    Token.matchLength (words ++ words') (ts ++ ts') =
      words.length + Token.matchLength words' ts' := by
  induction h with
  | nil => simp
  | cons ht _ ih => simp [Token.matchLength, ht, ih]; omega

theorem length_of_phrase {words : List String} {ts : List Token} (h : Phrase words ts) :
    ts.length = words.length := by
  induction h with
  | nil => rfl
  | cons _ _ ih => simp [ih]

theorem optional_of_grammar {phrase : List String} {ts rest : List Token} {whole : Bool}
    (h : Grammar.Optional phrase ts whole rest) : optional phrase ts = (whole, rest) := by
  cases h with
  | all hp =>
    have hn := matchLength_of_phrase hp [] rest
    simp only [List.append_nil, Token.matchLength] at hn
    simp [optional, hn, ← length_of_phrase hp]
  | @part words word words' taken t rest heq hp ht =>
    subst heq
    have hn := matchLength_of_phrase hp (word :: words') (t :: rest)
    simp only [Token.matchLength, ht] at hn
    simp [optional, hn, ← length_of_phrase hp]

/-- How far a phrase matches: to its end, to the end of the tokens, or to a token that differs. -/
theorem exists_phrase (phrase : List String) (ts : List Token) :
    ∃ words words' taken rest, phrase = words ++ words' ∧ ts = taken ++ rest ∧
      Phrase words taken ∧ Token.matchLength phrase ts = words.length ∧
      ∀ word words'' t rest', words' = word :: words'' → rest = t :: rest' →
        Token.is t word = false := by
  induction phrase generalizing ts with
  | nil => exact ⟨[], [], [], ts, rfl, rfl, .nil, by simp [Token.matchLength], by simp⟩
  | cons word phrase ih =>
    cases ts with
    | nil => exact ⟨[], word :: phrase, [], [], rfl, rfl, .nil, rfl, by simp⟩
    | cons t ts =>
      by_cases ht : Token.is t word
      · obtain ⟨words, words', taken, rest, h1, h2, h3, h4, h5⟩ := ih ts
        exact ⟨word :: words, words', t :: taken, rest, by rw [h1]; rfl, by rw [h2]; rfl,
          .cons ht h3, by simp [Token.matchLength, ht, h4], h5⟩
      · refine ⟨[], word :: phrase, [], t :: ts, rfl, rfl, .nil, ?_, ?_⟩
        · simp [Token.matchLength, ht]
        · rintro _ _ _ _ ⟨⟩ ⟨⟩
          simpa using ht

/-- A trial that leaves two tokens has not met the end of the tokens. -/
theorem optional_grammar {phrase : List String} {ts rest : List Token} {whole : Bool}
    (h : optional phrase ts = (whole, rest)) (hr : 2 ≤ rest.length) :
    Grammar.Optional phrase ts whole rest := by
  obtain ⟨words, words', taken, left, rfl, rfl, hp, hn, hd⟩ := exists_phrase phrase ts
  have hl := length_of_phrase hp
  unfold optional at h
  rw [hn, ← hl] at h
  dsimp only at h
  split at h
  · next hw =>
    simp only [List.drop_left, Prod.mk.injEq] at h
    obtain ⟨rfl, rfl⟩ := h
    have hw' : words' = [] := by
      rw [List.length_append] at hw
      exact List.eq_nil_of_length_eq_zero (by omega)
    subst hw'
    exact .all (by simpa using hp)
  · next hw =>
    split at h
    · next hlt =>
      simp only [List.drop_left, Prod.mk.injEq] at h
      obtain ⟨rfl, rfl⟩ := h
      match words', left, hd with
      | [], _, _ => simp [hl] at hw
      | _ :: _, [], _ => simp at hr
      | word :: words'', t :: left', hd => exact .part rfl hp (hd word words'' t left' rfl rfl)
    · next hlt =>
      cases h
      simp only [List.length_drop, List.length_append] at hr hlt
      omega

/-- A trial of one word looks at one token. -/
theorem optional_singleton (word : String) (ts : List Token) :
    optional [word] ts = match ts with
      | [] => (false, [])
      | t :: ts => if Token.is t word then (true, ts) else (false, t :: ts) := by
  cases ts with
  | nil => rfl
  | cons t ts => by_cases ht : Token.is t word <;> simp [optional, Token.matchLength, ht]

theorem optional_mark (mark : String) (hm : Token.isMark mark = true) (ts : List Token) :
    optional [mark] (mark :: ts) = (true, ts) := by
  simp [optional_singleton, (is_mark_iff hm mark).2 rfl]

theorem optional_not_mark (mark : String) (hm : Token.isMark mark = true) {t : Token}
    (ht : t ≠ mark) (ts : List Token) : optional [mark] (t :: ts) = (false, t :: ts) := by
  simp [optional_singleton, is_mark_iff hm, ht]

/-- A mark that is found is the first token. -/
theorem eq_of_mark_found (mark : String) (hm : Token.isMark mark = true) {ts rest : List Token}
    (h : optional [mark] ts = (true, rest)) : ts = mark :: rest := by
  rw [optional_singleton] at h
  cases ts with
  | nil => cases h
  | cons t ts =>
    dsimp only at h
    split at h
    · next ht =>
      cases h
      rw [(is_mark_iff hm t).1 ht]
    · cases h

theorem eq_of_mark_missing (mark : String) (hm : Token.isMark mark = true) {ts rest : List Token}
    (h : optional [mark] ts = (false, rest)) :
    ts = rest ∧ ∀ t behind, rest = t :: behind → t ≠ mark := by
  rw [optional_singleton] at h
  cases ts with
  | nil => cases h; exact ⟨rfl, by simp⟩
  | cons t ts =>
    dsimp only at h
    split at h
    · cases h
    · next ht =>
      cases h
      refine ⟨rfl, ?_⟩
      rintro _ _ ⟨⟩ rfl
      exact ht ((is_mark_iff hm _).2 rfl)

/-! ## Words and names -/

theorem expect_of_phrase {words : List String} {ts : List Token} (h : Phrase words ts)
    (rest : List Token) : expect words (ts ++ rest) = .ok rest := by
  induction h with
  | nil => rfl
  | cons ht _ ih => simp [expect, ht, ih]

theorem exists_phrase_of_expect {words : List String} {ts rest : List Token}
    (h : expect words ts = .ok rest) : ∃ taken, ts = taken ++ rest ∧ Phrase words taken := by
  fun_induction expect words ts with
  | case1 ts => cases h; exact ⟨[], rfl, .nil⟩
  | case2 => cases h
  | case3 word words t ts ht ih =>
    obtain ⟨taken, rfl, hp⟩ := ih h
    exact ⟨t :: taken, rfl, .cons ht hp⟩
  | case4 => cases h

theorem expect_marks (marks : List String) (hm : ∀ m ∈ marks, Token.isMark m = true)
    (rest : List Token) : expect marks (marks ++ rest) = .ok rest :=
  expect_of_phrase (phrase_of_marks hm) rest

theorem eq_of_expect_marks (marks : List String) (hm : ∀ m ∈ marks, Token.isMark m = true)
    {ts rest : List Token} (h : expect marks ts = .ok rest) : ts = marks ++ rest := by
  obtain ⟨taken, rfl, ht⟩ := exists_phrase_of_expect h
  rw [eq_of_phrase_marks ht hm]

theorem expect_mark (mark : String) (hm : Token.isMark mark = true) (rest : List Token) :
    expect [mark] (mark :: rest) = .ok rest :=
  expect_marks [mark] (by simpa using hm) rest

theorem eq_of_expect_mark (mark : String) (hm : Token.isMark mark = true) {ts rest : List Token}
    (h : expect [mark] ts = .ok rest) : ts = mark :: rest :=
  eq_of_expect_marks [mark] (by simpa using hm) h

theorem name_of_name {t : Token} (ht : Name t) (role : NameRole) (rest : List Token) :
    name role (t :: rest) = .ok (t, rest) := by
  unfold Name at ht
  simp [name, ht]

theorem ne_of_name {t mark : Token} (ht : Name t) (hm : Token.isMark mark = true) : t ≠ mark := by
  rintro rfl
  rw [Name, hm] at ht
  cases ht

theorem eq_of_name {role : NameRole} {ts rest : List Token} {n : String}
    (h : name role ts = .ok (n, rest)) : Name n ∧ ts = n :: rest := by
  cases ts with
  | nil => cases h
  | cons t ts =>
    rw [name] at h
    split at h
    · cases h
    · next ht => cases h; exact ⟨by simpa [Name] using ht, rfl⟩

end PartitionSize.OnePass
