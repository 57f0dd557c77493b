import PartitionSize.Text.Visible

/-!
# Quoted text

`Text.quote` writes a text between double quotes so that a reader sees every character of it: the
quote and the backslash are escaped, the common controls have a letter, and whatever does not show
(`Text.isVisible`) is written by its number, as `\u` and the hexadecimal digits between braces.
-/

namespace PartitionSize.Text

/-- The lowercase hexadecimal digits of a number, without leading zeros. -/
def hexDigits (n : Nat) : List Char := Nat.toDigits 16 n

/-- One character as it stands inside quotes. -/
def quoteChar (c : Char) : List Char :=
  match c with
  | '"' => ['\\', '"']
  | '\\' => ['\\', '\\']
  | '\n' => ['\\', 'n']
  | '\r' => ['\\', 'r']
  | '\t' => ['\\', 't']
  | '\x00' => ['\\', '0']
  | c => if isVisible c then [c] else ['\\', 'u', '{'] ++ hexDigits c.toNat ++ ['}']

/-- A text between double quotes. -/
def quote (s : String) : String :=
  String.ofList (['"'] ++ s.toList.flatMap quoteChar ++ ['"'])

end PartitionSize.Text
