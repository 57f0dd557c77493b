/-!
# Blank characters

`Text.isBlank` is the Unicode property White_Space: what separates tokens and what is trimmed from
the ends of a quantity. No digit, letter or punctuation mark of ASCII has it.

* `trimChars` cuts blanks off both ends: what is left starts with no blank
  (`head_dropBlanks`) and is a piece of the text (`dropBlanks_suffix`).
-/

namespace PartitionSize.Text

/-- The characters with the property White_Space. -/
def isBlank (c : Char) : Bool :=
  let n := c.toNat
  (0x09 ≤ n && n ≤ 0x0d) || n == 0x20 || n == 0x85 || n == 0xa0 || n == 0x1680 ||
    (0x2000 ≤ n && n ≤ 0x200a) || n == 0x2028 || n == 0x2029 || n == 0x202f || n == 0x205f ||
    n == 0x3000

/-- The text after its leading blanks. -/
def dropBlanks (cs : List Char) : List Char := cs.dropWhile isBlank

/-- The text without the blanks at its two ends. -/
def trimChars (cs : List Char) : List Char := (dropBlanks (dropBlanks cs).reverse).reverse

/-- `trimChars` on strings. -/
def trim (s : String) : String := String.ofList (trimChars s.toList)

/-! ## Laws -/

theorem head_dropBlanks {cs : List Char} {c : Char} {rest : List Char}
    (h : dropBlanks cs = c :: rest) : isBlank c = false := by
  induction cs with
  | nil => simp [dropBlanks] at h
  | cons a cs ih =>
    simp only [dropBlanks, List.dropWhile_cons] at h ih
    split at h
    · exact ih h
    · next ha => cases h; simpa using ha

theorem dropBlanks_suffix (cs : List Char) : dropBlanks cs <:+ cs := List.dropWhile_suffix _

theorem length_dropBlanks_le (cs : List Char) : (dropBlanks cs).length ≤ cs.length :=
  (dropBlanks_suffix cs).length_le

theorem dropBlanks_cons {c : Char} (h : isBlank c = false) (cs : List Char) :
    dropBlanks (c :: cs) = c :: cs := by
  simp [dropBlanks, h]

end PartitionSize.Text
