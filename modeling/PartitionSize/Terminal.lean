/-!
# Control sequences of a terminal

A message for people is composed in the styles of a terminal, such as `styled yellow "x"`. Where it
goes to no terminal, `plain` leaves out every control sequence: those of the styles, and those that
stand in the arguments that the message quotes.

A control sequence starts with an escape character. What may follow is told by a `State`; the one
after a character is `State.next`. Line breaks and tabs inside a control sequence are still shown,
and all that shows behind them is, up to the next control character: only then does the sequence go
on. A character above ASCII that is shown ends it.
-/

namespace PartitionSize.Terminal

/-! ## Styles -/

/-- The character that starts a control sequence. -/
def escape : String := "\x1b"

/-- Heavy letters. -/
def bold : String := escape ++ "[1m"

/-- Red letters. -/
def red : String := escape ++ "[31m"

/-- Yellow letters. -/
def yellow : String := escape ++ "[33m"

/-- A text in a style, which ends behind it. -/
def styled (style text : String) : String := style ++ text ++ escape ++ "[0m"

/-! ## States -/

/-- Where in a control sequence a character stands. -/
inductive State where
  /-- In none. -/
  | ground
  /-- After the escape character. -/
  | escape
  /-- After it and some punctuation. -/
  | escapeIntermediate
  /-- After `ESC [`. -/
  | control
  /-- After `ESC ]`: a command to the terminal, up to a bell. -/
  | command
  /-- After `ESC P`: parameters, punctuation, and then a string for the device. -/
  | device
  | deviceParameters
  | deviceIntermediate
  /-- In a string, up to a byte that ends it. -/
  | string
deriving Repr, DecidableEq

/-- Whether a character shows where no control sequence stands. -/
def isShown (c : Char) : Bool :=
  let n := c.toNat
  (0x20 ≤ n && n != 0x7f) || c == '\t' || c == '\n' || c == '\x0c' || c == '\r'

/-- Whether the last byte of a string is among the bytes of a character. -/
def endsString (c : Char) : Bool := (String.singleton c).toUTF8.toList.contains 0x9c

namespace State

/-- The state after a character that does not show. An escape character starts a sequence anywhere,
and two control characters break off any. -/
def next (s : State) (c : Char) : State :=
  let n := c.toNat
  let isIn (first last : Nat) : Bool := first ≤ n && n ≤ last
  if n = 0x1b then .escape
  else if n = 0x18 ∨ n = 0x1a then .ground
  else
    match s with
    | .ground => .ground
    | .escape =>
      if isIn 0x20 0x2f then .escapeIntermediate
      else if c = '[' then .control
      else if c = ']' then .command
      else if c = 'P' then .device
      else if c = 'X' ∨ c = '^' ∨ c = '_' then .string
      else if isIn 0x30 0x7e then .ground
      else .escape
    | .escapeIntermediate => if isIn 0x30 0x7e then .ground else s
    | .control => if isIn 0x40 0x7e then .ground else s
    | .command => if n = 0x07 then .ground else s
    | .device =>
      if isIn 0x20 0x2f then .deviceIntermediate
      else if isIn 0x30 0x3f then .deviceParameters
      else if isIn 0x40 0x7e then .string
      else s
    | .deviceParameters =>
      if isIn 0x20 0x2f then .deviceIntermediate
      else if isIn 0x3c 0x7e then .string
      else s
    | .deviceIntermediate => if isIn 0x30 0x7e then .string else s
    | .string => if endsString c then .ground else s

/-- Whether a character shows. In a sequence that is no string, line breaks and tabs do. After a
character that shows, which `showing` says, all do that would show on their own. -/
def shows (s : State) (showing : Bool) (c : Char) : Bool :=
  isShown c &&
    (showing ||
      match s with
      | .ground => true
      | .escape | .escapeIntermediate | .control => c.toNat < 0x20
      | _ => false)

end State

/-! ## Plain texts -/

/-- What shows of a text. -/
def plainFrom (s : State) (showing : Bool) : List Char → List Char
  | [] => []
  | c :: cs =>
    if s.shows showing c then
      c :: plainFrom (if c.toNat < 0x80 then s else .ground) true cs
    else plainFrom (s.next c) false cs

/-- A text without control sequences. -/
def plain (text : String) : String := String.ofList (plainFrom .ground false text.toList)

end PartitionSize.Terminal
