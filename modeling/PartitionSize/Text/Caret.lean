/-!
# Pointing into a text

A message about a short text shows the text with a caret under the character where reading stopped.
A text of one line stands by itself; of a text of several lines the first is shown, with the line
and the column in front, for that is where a quantity ends.
-/

namespace PartitionSize.Text

/-- `n` spaces. -/
def spaces (n : Nat) : String := String.ofList (List.replicate n ' ')

/-- The text before its first line break. -/
def firstLine (text : String) : String := String.ofList (text.toList.takeWhile (· != '\n'))

/-- A text and a caret under its character `offset`. -/
def caretUnder (text : String) (offset : Nat) : String :=
  if text.toList.contains '\n' then
    "parse error at line 1, column " ++ toString (offset + 1) ++ "\n  |\n1 | " ++ firstLine text ++
      "\n  | " ++ spaces offset ++ "^\n"
  else text ++ "\n" ++ spaces offset ++ "^\n"

end PartitionSize.Text
