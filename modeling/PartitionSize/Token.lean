import PartitionSize.Text.Blank
import PartitionSize.Text.Spot

/-!
# Tokens

A token is one of the six marks `( ) < > , ;` or a run of other characters. A run starts with a
character that is neither blank nor a mark and goes on to the next blank or to one of `( ) < > ,`:
a semicolon inside a run belongs to it.

* `Spot.token?` reads the token at a place, and what it reads is never empty
  (`length_rest_lt_of_token?`).
* `Token.scan` lists all tokens of a text. Their texts, joined, are the text without its blanks,
  for blanks are all that is skipped.
-/

namespace PartitionSize

open Text

/-- The text of a token. -/
abbrev Token := String

namespace Token

/-- A character that is a token by itself. -/
def isMarkChar (c : Char) : Bool :=
  c == '(' || c == ')' || c == '<' || c == '>' || c == ',' || c == ';'

/-- A character that ends a run. The semicolon is no such character. -/
def endsRun (c : Char) : Bool :=
  isBlank c || c == ',' || c == '(' || c == ')' || c == '<' || c == '>'

/-- A character that goes on a run. -/
def continuesRun (c : Char) : Bool := !endsRun c

/-- Whether a token is one of the six marks. -/
def isMark (t : Token) : Bool :=
  t == "(" || t == ")" || t == "<" || t == ">" || t == "," || t == ";"

/-- Whether a token is the given keyword or mark, whatever the case of its ASCII letters. -/
def is (t : Token) (keyword : String) : Bool :=
  t.toList.map Char.toLower == keyword.toList.map Char.toLower

/-- How many words of a phrase stand at the front of the tokens. -/
def matchLength : List String → List String → Nat
  | word :: words, t :: ts => if Token.is t word then matchLength words ts + 1 else 0
  | _, _ => 0

/-- The number of characters of the token at the start of a text, none at a blank or at the end. -/
def lexemeLength (cs : List Char) : Nat :=
  match cs with
  | [] => 0
  | c :: _ => if isMarkChar c then 1 else (cs.takeWhile continuesRun).length

end Token

/-- The place before the next character that is not blank. -/
def Text.Spot.skipBlanks (s : Spot) : Spot := s.skipWhile isBlank

/-- The token that starts at a place, and the place after it. There is none at the end of the text
or before a blank. -/
def Text.Spot.token? (s : Spot) : Option (Token × Spot) :=
  match Token.lexemeLength s.rest with
  | 0 => none
  | n + 1 => some (String.ofList (s.rest.take (n + 1)), s.advance (n + 1))

theorem length_rest_lt_of_token? {s s' : Spot} {t : Token} (h : s.token? = some (t, s')) :
    s'.rest.length < s.rest.length := by
  unfold Spot.token? at h
  split at h
  · simp at h
  · next n hn =>
    cases h
    have : s.rest ≠ [] := by rintro h0; simp [h0, Token.lexemeLength] at hn
    have := List.length_pos_iff.2 this
    simp only [Spot.advance, List.length_drop]; omega

/-- All tokens of a text from a place on, each with the place after it. -/
def Text.Spot.tokens (s : Spot) : List (Token × Spot) :=
  match _h : s.skipBlanks.token? with
  | none => []
  | some (t, after) => (t, after) :: after.tokens
termination_by s.rest.length
decreasing_by
  exact Nat.lt_of_lt_of_le (length_rest_lt_of_token? ‹_›) (length_rest_skipWhile_le ..)

/-- The tokens of a text, in order. -/
def Token.scan (text : List Char) : List Token := ((Spot.start text).tokens).map (·.1)

/-! ## Unfolding the scan -/

theorem Text.Spot.tokens_of_none {s : Spot} (h : s.skipBlanks.token? = none) : s.tokens = [] := by
  rw [Spot.tokens]; split
  · rfl
  · next h' => rw [h] at h'; cases h'

theorem Text.Spot.tokens_of_some {s s' : Spot} {t : Token}
    (h : s.skipBlanks.token? = some (t, s')) : s.tokens = (t, s') :: s'.tokens := by
  conv => lhs; rw [Spot.tokens]
  split
  · next h' => rw [h] at h'; cases h'
  · next h' => rw [h] at h'; cases h'; rfl

end PartitionSize
