import PartitionSize.Text.Blank
import PartitionSize.Text.Caret
import PartitionSize.Text.Quoted

/-!
# Numbers with a unit

A quantity is written as digits, which may be separated by underscores after the first, and at most
one unit. `Number.read` gives the number, or the place where reading stopped: digits and product
have to fit into 64 bits without a sign, and nothing may follow the unit.

A number that is read still has to fit into 64 bits with a sign to be a quantity
(`QuantityError.tooLarge`).
-/

namespace PartitionSize

namespace Number

/-- The numbers below this fit into 64 bits without a sign. -/
def unsignedBound : Nat := 0x10000000000000000

/-- The numbers below this fit into 64 bits with a sign. -/
def signedBound : Nat := 0x8000000000000000

/-- A character of the digit part after its first. -/
def isDigitPart (c : Char) : Bool := c.isDigit || c == '_'

/-- The digit part at the start of a text: digits and underscores, the first a digit. -/
def digitPart : List Char → List Char
  | [] => []
  | c :: cs => if c.isDigit then c :: cs.takeWhile isDigitPart else []

/-- The number that a digit part stands for. -/
def valueOf (digits : List Char) : Nat := Nat.ofDigitChars 10 (digits.filter Char.isDigit) 0

/-- The length and the factor of the unit at the start of a text: the first of the units whose name
stands there. Without a unit the factor is one. -/
def unitAt (units : List (String × Nat)) (cs : List Char) : Nat × Nat :=
  match units.find? fun u => u.1.toList.isPrefixOf cs with
  | some (name, factor) => (name.toList.length, factor)
  | none => (0, 1)

/-- The number that is written, or the number of characters read when something was wrong. -/
def read (units : List (String × Nat)) (cs : List Char) : Except Nat Nat :=
  let digits := digitPart cs
  if digits = [] then .error 0
  else if unsignedBound ≤ valueOf digits then .error digits.length
  else
    let unit := unitAt units (cs.drop digits.length)
    let n := valueOf digits * unit.2
    let length := digits.length + unit.1
    if unsignedBound ≤ n then .error length
    else if cs.length ≤ length then .ok n
    else .error length

end Number

/-- A number or a text, as a settings file or a JSON document may write a quantity; any other value
is no quantity. -/
inductive Scalar where
  | number (n : Int)
  | text (s : String)
  | other
deriving Repr, DecidableEq

/-- Why something is no quantity. -/
inductive QuantityError where
  /-- There is nothing but blanks. -/
  | empty
  /-- The text, without blanks around it, could not be read beyond `stop` characters. -/
  | malformed (text : String) (stop : Nat)
  /-- The number does not fit into 64 bits with a sign. -/
  | tooLarge (n : Nat)
  /-- The value is neither a number nor a text. -/
  | notScalar
deriving Repr, DecidableEq

/-- The text of `QuantityError.notScalar`, whatever quantity was wanted. -/
def QuantityError.notScalarMessage : String :=
  "data did not match any variant of untagged enum NumberOrString"

end PartitionSize
