import PartitionSize.Token

/-!
# A text cut into tokens

Which pieces of a text are its tokens, said of the text as it lies there and not by reading it:
`Sliced text slices` holds when the text is blanks, a token, blanks, a token, and so on, with blanks
at the end, and each token is a token in front of what follows it (`Token.Lexeme`).
-/

namespace PartitionSize

open Text

/-- The characters of a token that `rest` follows: one mark, or a run that nothing continues. -/
inductive Token.Lexeme : List Char → List Char → Prop where
  | mark {c rest} : isMarkChar c = true → Lexeme [c] rest
  | run {c cs rest} : isMarkChar c = false → (∀ d ∈ c :: cs, endsRun d = false) →
      (∀ d after, rest = d :: after → endsRun d = true) → Lexeme (c :: cs) rest

theorem Token.lexeme_cons_iff {c : Char} {cs rest : List Char} :
    Lexeme (c :: cs) rest ↔ isMarkChar c = true ∧ cs = [] ∨ isMarkChar c = false ∧
      (c :: cs).all (!endsRun ·) = true ∧ rest.head?.all endsRun = true := by
  constructor
  · intro h
    cases h with
    | mark hm => exact .inl ⟨hm, rfl⟩
    | run hm hrun hrest =>
      have hall : (c :: cs).all (!endsRun ·) = true := by simpa using hrun
      refine .inr ⟨hm, hall, ?_⟩
      cases rest with
      | nil => rfl
      | cons d after => exact hrest d after rfl
  · rintro (⟨hm, rfl⟩ | ⟨hm, hrun, hrest⟩)
    · exact .mark hm
    · refine .run hm (by simpa using hrun) ?_
      rintro d after rfl
      exact hrest

instance Token.decidableLexeme : (lexeme rest : List Char) → Decidable (Token.Lexeme lexeme rest)
  | [], _ => isFalse nofun
  | _ :: _, _ => decidable_of_iff' _ lexeme_cons_iff

/-- A token of a text with the blanks in front of it. -/
structure Slice where
  blanks : List Char
  lexeme : List Char
deriving Repr, DecidableEq

namespace Slice

/-- The token. -/
def token (s : Slice) : Token := String.ofList s.lexeme

/-- The piece of the text, blanks and token. -/
def chars (s : Slice) : List Char := s.blanks ++ s.lexeme

/-- The tokens of slices that begin at an offset, each with the offset of its end in UTF-8 bytes. -/
def ends (offset : Nat) : List Slice → List (Token × Nat)
  | [] => []
  | s :: slices =>
    let stop := offset + byteLength s.chars
    (s.token, stop) :: ends stop slices

end Slice

/-- The text is the slices in order, with blanks behind the last one. -/
inductive Sliced : List Char → List Slice → Prop where
  | nil {blanks} : (∀ c ∈ blanks, isBlank c = true) → Sliced blanks []
  | cons {s rest slices} : (∀ c ∈ s.blanks, isBlank c = true) → Token.Lexeme s.lexeme rest →
      Sliced rest slices → Sliced (s.chars ++ rest) (s :: slices)

namespace Sliced

theorem nil_iff {text : List Char} : Sliced text [] ↔ text.all isBlank = true := by
  rw [List.all_eq_true]
  constructor
  · rintro ⟨hb⟩
    exact hb
  · exact .nil

theorem cons_iff {text : List Char} {s : Slice} {slices : List Slice} :
    Sliced text (s :: slices) ↔ s.chars ++ text.drop s.chars.length = text ∧
      s.blanks.all isBlank = true ∧ Token.Lexeme s.lexeme (text.drop s.chars.length) ∧
      Sliced (text.drop s.chars.length) slices := by
  rw [List.all_eq_true]
  constructor
  · rintro (_ | ⟨hb, hl, hs⟩)
    rw [List.drop_left]
    exact ⟨rfl, hb, hl, hs⟩
  · rintro ⟨htext, hb, hl, hs⟩
    rw [← htext]
    exact .cons hb hl hs

instance decidable : (text : List Char) → (slices : List Slice) → Decidable (Sliced text slices)
  | _, [] => decidable_of_iff' _ nil_iff
  | text, s :: slices =>
    have := decidable (text.drop s.chars.length) slices
    decidable_of_iff' _ cons_iff

end Sliced

end PartitionSize
