import PartitionSize.Toml.Value
import PartitionSize.Text.Caret
import PartitionSize.Text.Spot

/-!
# Showing a place in a document

An error about a value is shown with the line that the value starts on and carets under it:

    TOML parse error at line 2, column 6
      |
    2 | rows="z"
      |      ^^^
    message

The column counts characters. There is a caret for each byte of the value on that line, and at least
one.
-/

namespace PartitionSize.Toml

open Text

/-- The lines of a text, without their line feeds. -/
def splitLines : List Char → List (List Char)
  | [] => [[]]
  | '\n' :: cs => [] :: splitLines cs
  | c :: cs =>
    match splitLines cs with
    | [] => [[c]]
    | line :: lines => (c :: line) :: lines

/-- The line of the byte offset `n` and the characters before it on the line, both from zero. -/
def position : List Char → Nat → Nat × Nat
  | [], _ => (0, 0)
  | c :: cs, n =>
    if n = 0 then (0, 0)
    else
      let (line, column) := position cs (n - c.utf8Size)
      if c = '\n' then (line + 1, column)
      else if line = 0 then (0, column + 1)
      else (line, column)

/-- The message with the place of its cause in the document. -/
def excerpt (text : String) (span : Span) (message : String) : String :=
  let (line, column) := position text.toList span.start
  let content := (splitLines text.toList).getD line []
  let number := toString (line + 1)
  let gutter := spaces (number.length + 1) ++ "|"
  let carets := max 1 (min (span.stop - span.start) (byteLength content - column))
  "TOML parse error at line " ++ number ++ ", column " ++ toString (column + 1) ++ "\n" ++
    gutter ++ "\n" ++ number ++ " | " ++ String.ofList content ++ "\n" ++
    gutter ++ spaces (column + 1) ++ String.ofList (List.replicate carets '^') ++ "\n" ++
    message ++ "\n"

end PartitionSize.Toml
