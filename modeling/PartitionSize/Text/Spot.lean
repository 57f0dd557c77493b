/-!
# Places in a text

A `Spot` is a place between two characters: its offset in UTF-8 bytes and the text that follows.
Readers move spots forward by whole characters, so an offset is always the size of what was passed
and never falls inside a character.
-/

namespace PartitionSize.Text

/-- The number of UTF-8 bytes of a text. -/
def byteLength : List Char → Nat
  | [] => 0
  | c :: cs => c.utf8Size + byteLength cs

/-- A place in a text. -/
structure Spot where
  /-- The UTF-8 bytes before the place. -/
  offset : Nat
  /-- The text after the place. -/
  rest : List Char
deriving Repr, DecidableEq

namespace Spot

/-- The place before the first character. -/
def start (text : List Char) : Spot := ⟨0, text⟩

/-- The place `n` characters further on, at most the end of the text. -/
def advance (s : Spot) (n : Nat) : Spot :=
  ⟨s.offset + byteLength (s.rest.take n), s.rest.drop n⟩

/-- The place after the characters at `s` that satisfy `p`. -/
def skipWhile (p : Char → Bool) (s : Spot) : Spot :=
  ⟨s.offset + byteLength (s.rest.takeWhile p), s.rest.dropWhile p⟩

end Spot

/-! ## Laws -/

@[simp] theorem byteLength_nil : byteLength [] = 0 := rfl

@[simp] theorem byteLength_cons (c : Char) (cs : List Char) :
    byteLength (c :: cs) = c.utf8Size + byteLength cs := rfl

@[simp] theorem byteLength_append (a b : List Char) :
    byteLength (a ++ b) = byteLength a + byteLength b := by
  induction a with
  | nil => simp
  | cons c a ih => simp [ih, Nat.add_assoc]

/-- No character is empty, so a text has at least as many bytes as characters. -/
theorem length_le_byteLength (cs : List Char) : cs.length ≤ byteLength cs := by
  induction cs with
  | nil => simp
  | cons c cs ih => have := c.utf8Size_pos; simp; omega

theorem length_rest_skipWhile_le (p : Char → Bool) (s : Spot) :
    (s.skipWhile p).rest.length ≤ s.rest.length :=
  (List.dropWhile_suffix p).length_le

end PartitionSize.Text
