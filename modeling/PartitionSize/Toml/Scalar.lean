import PartitionSize.Toml.Value
import PartitionSize.Text.Hex
import PartitionSize.Text.Spot

/-!
# Strings, numbers and dates of TOML

Readers over the characters of a document. A reader of a string gets the text after the opening
quotes and returns what the string means and the text after the closing quotes; a reader of a bare
word gets the whole word and says which value it is, if it is one.
-/

namespace PartitionSize.Toml

open Text (hexDigit? charOfHex?)

/-! ## Characters -/

/-- A space or a tab. -/
def isInlineBlank (c : Char) : Bool := c == ' ' || c == '\t'

/-- A control character other than the tab. -/
def isControl (c : Char) : Bool := (c.toNat < 0x20 && c != '\t') || c.toNat == 0x7f

/-- A character of a key without quotes. -/
def isBareKey (c : Char) : Bool := c.isAlphanum || c == '_' || c == '-'

/-- A character of a number, a date or a word. -/
def isBareWord (c : Char) : Bool := isBareKey c || c == '+' || c == '.' || c == ':'

/-- The character that a backslash and a letter stand for. -/
def escape? : Char → Option Char
  | 'b' => some '\x08'
  | 't' => some '\t'
  | 'n' => some '\n'
  | 'f' => some '\x0c'
  | 'r' => some '\r'
  | 'e' => some '\x1b'
  | '"' => some '"'
  | '\\' => some '\\'
  | _ => none

/-- What was read, with one more character in front. -/
def push (c : Char) (r : List Char × List Char) : List Char × List Char := (c :: r.1, r.2)

/-! ## Strings -/

/-- A string in double quotes. -/
def basicString : List Char → Option (List Char × List Char)
  | [] => none
  | '"' :: rest => some ([], rest)
  | '\\' :: 'x' :: a :: b :: rest => do
    let c ← charOfHex? [a, b]
    push c <$> basicString rest
  | '\\' :: 'u' :: a :: b :: c :: d :: rest => do
    let c ← charOfHex? [a, b, c, d]
    push c <$> basicString rest
  | '\\' :: 'U' :: a :: b :: c :: d :: e :: f :: g :: h :: rest => do
    let c ← charOfHex? [a, b, c, d, e, f, g, h]
    push c <$> basicString rest
  | '\\' :: c :: rest => do
    let c ← escape? c
    push c <$> basicString rest
  | c :: rest => if c == '\\' || isControl c then none else push c <$> basicString rest

/-- A string in single quotes: nothing is escaped. -/
def literalString : List Char → Option (List Char × List Char)
  | [] => none
  | '\'' :: rest => some ([], rest)
  | c :: rest => if isControl c then none else push c <$> literalString rest

/-- Whether a line ends here, but for spaces and tabs. -/
def endsLine (cs : List Char) : Bool :=
  match cs.dropWhile isInlineBlank with
  | '\n' :: _ => true
  | '\r' :: '\n' :: _ => true
  | _ => false

/-- A string in three double quotes. At most two quotes stand for themselves before the closing
ones. A backslash at the end of a line drops all blanks up to the next character, which `joining`
says. -/
def basicBlock (joining : Bool) : List Char → Option (List Char × List Char)
  | [] => none
  | '"' :: '"' :: '"' :: '"' :: '"' :: rest => some (['"', '"'], rest)
  | '"' :: '"' :: '"' :: '"' :: rest => some (['"'], rest)
  | '"' :: '"' :: '"' :: rest => some ([], rest)
  | '\r' :: '\n' :: rest =>
    if joining then basicBlock true rest
    else (fun r => push '\r' (push '\n' r)) <$> basicBlock false rest
  | '\\' :: 'x' :: a :: b :: rest => do
    let c ← charOfHex? [a, b]
    push c <$> basicBlock false rest
  | '\\' :: 'u' :: a :: b :: c :: d :: rest => do
    let c ← charOfHex? [a, b, c, d]
    push c <$> basicBlock false rest
  | '\\' :: 'U' :: a :: b :: c :: d :: e :: f :: g :: h :: rest => do
    let c ← charOfHex? [a, b, c, d, e, f, g, h]
    push c <$> basicBlock false rest
  | '\\' :: c :: rest =>
    if endsLine (c :: rest) then basicBlock true (c :: rest)
    else do
      let c ← escape? c
      push c <$> basicBlock false rest
  | c :: rest =>
    if joining && (isInlineBlank c || c == '\n') then basicBlock true rest
    else if c == '\\' || (isControl c && c != '\n') then none
    else push c <$> basicBlock false rest

/-- A string in three single quotes. -/
def literalBlock : List Char → Option (List Char × List Char)
  | [] => none
  | '\'' :: '\'' :: '\'' :: '\'' :: '\'' :: rest => some (['\'', '\''], rest)
  | '\'' :: '\'' :: '\'' :: '\'' :: rest => some (['\''], rest)
  | '\'' :: '\'' :: '\'' :: rest => some ([], rest)
  | '\r' :: '\n' :: rest => (fun r => push '\r' (push '\n' r)) <$> literalBlock rest
  | c :: rest => if isControl c && c != '\n' then none else push c <$> literalBlock rest

/-- The text of a block of several lines: a line break right after the opening quotes does not
belong to it. -/
def dropFirstBreak : List Char → List Char
  | '\n' :: rest => rest
  | '\r' :: '\n' :: rest => rest
  | rest => rest

/-- The string at the start of a text, in whichever quotes it stands. -/
def anyString : List Char → Option (List Char × List Char)
  | '"' :: '"' :: '"' :: rest => basicBlock false (dropFirstBreak rest)
  | '"' :: rest => basicString rest
  | '\'' :: '\'' :: '\'' :: rest => literalBlock (dropFirstBreak rest)
  | '\'' :: rest => literalString rest
  | _ => none

/-! ## Numbers -/

/-- Digits with single underscores between them, as numbers. -/
def digits? (digit? : Char → Option Nat) : List Char → Option (List Nat)
  | [] => none
  | [c] => (digit? c).map ([·])
  | c :: '_' :: d :: rest => do
    let n ← digit? c
    let ns ← digits? digit? (d :: rest)
    some (n :: ns)
  | c :: d :: rest => do
    let n ← digit? c
    let ns ← digits? digit? (d :: rest)
    some (n :: ns)

/-- The number that digits write in a base. -/
def ofDigits (base : Nat) (ds : List Nat) : Nat := ds.foldl (fun n d => base * n + d) 0

/-- The value of a digit of a base up to sixteen. -/
def digitBelow? (base : Nat) (c : Char) : Option Nat := (hexDigit? c).filter (· < base)

/-- Decimal digits with single underscores between them. -/
def decimalDigits? (cs : List Char) : Option (List Nat) := digits? (digitBelow? 10) cs

/-- Decimal digits without a needless zero in front. -/
def wholeDigits? (cs : List Char) : Option (List Nat) := do
  let ds ← decimalDigits? cs
  if cs.length ≠ 1 ∧ ds.head? = some 0 then none else some ds

/-- The sign of a number and the rest of it. -/
def splitSign : List Char → Bool × List Char
  | '+' :: cs => (false, cs)
  | '-' :: cs => (true, cs)
  | cs => (false, cs)

/-- An integer. Only decimal ones have a sign. -/
def integer? (cs : List Char) : Option Int :=
  match cs with
  | '0' :: 'x' :: ds => (fun ds => Int.ofNat (ofDigits 16 ds)) <$> digits? (digitBelow? 16) ds
  | '0' :: 'o' :: ds => (fun ds => Int.ofNat (ofDigits 8 ds)) <$> digits? (digitBelow? 8) ds
  | '0' :: 'b' :: ds => (fun ds => Int.ofNat (ofDigits 2 ds)) <$> digits? (digitBelow? 2) ds
  | cs =>
    let (negative, cs) := splitSign cs
    (fun ds => let n := Int.ofNat (ofDigits 10 ds); if negative then -n else n) <$>
      wholeDigits? cs

/-- The exponent of a number: nothing, or `e` and digits that may have a sign. -/
def exponent? : List Char → Option Int
  | [] => some 0
  | _ :: cs =>
    let (negative, cs) := splitSign cs
    (fun ds => let n := Int.ofNat (ofDigits 10 ds); if negative then -n else n) <$>
      decimalDigits? cs

/-- A floating-point number: a fraction, an exponent or both after the whole part. -/
def real? (cs : List Char) : Option Real :=
  let (negative, cs) := splitSign cs
  if cs = ['i', 'n', 'f'] then some (.infinite negative)
  else if cs = ['n', 'a', 'n'] then some .notANumber
  else
    let isE (c : Char) : Bool := c == 'e' || c == 'E'
    let mantissa := cs.takeWhile fun c => !isE c
    let power := cs.dropWhile fun c => !isE c
    let whole := mantissa.takeWhile (· != '.')
    let fraction := mantissa.dropWhile (· != '.')
    if power = [] ∧ fraction = [] then none
    else do
      let ws ← wholeDigits? whole
      let fs ← if fraction = [] then some [] else decimalDigits? (fraction.drop 1)
      let e ← exponent? power
      some (.finite ⟨negative, ofDigits 10 (ws ++ fs), e - fs.length⟩)

/-! ## Dates and times -/

/-- The number that exactly `n` decimal digits at the start write, and what follows. -/
def fixedDigits? (n : Nat) (cs : List Char) : Option (Nat × List Char) :=
  let ds := cs.take n
  if ds.length = n ∧ ds.all Char.isDigit then
    some (ofDigits 10 (ds.map fun c => c.toNat - '0'.toNat), cs.drop n)
  else none

/-- The text after a character. -/
def after? (c : Char) : List Char → Option (List Char)
  | [] => none
  | d :: cs => if d = c then some cs else none

/-- The days of a month. -/
def daysIn (year month : Nat) : Nat :=
  if month = 2 then
    if year % 4 = 0 ∧ (year % 100 ≠ 0 ∨ year % 400 = 0) then 29 else 28
  else if month = 4 ∨ month = 6 ∨ month = 9 ∨ month = 11 then 30
  else 31

/-- Checks a date at the start and returns what follows. -/
def afterDate? (cs : List Char) : Option (List Char) := do
  let (year, cs) ← fixedDigits? 4 cs
  let cs ← after? '-' cs
  let (month, cs) ← fixedDigits? 2 cs
  let cs ← after? '-' cs
  let (day, cs) ← fixedDigits? 2 cs
  if 1 ≤ month ∧ month ≤ 12 ∧ 1 ≤ day ∧ day ≤ daysIn year month then some cs else none

/-- The fraction of a second as it is written back: nine digits at most, no zeros at the end. -/
def fractionText (ds : List Char) : List Char :=
  match ((ds.take 9).reverse.dropWhile (· == '0')).reverse with
  | [] => []
  | ds => '.' :: ds

/-- A time at the start, as it is written back, and what follows. Seconds may be left out; zero
seconds are written then. -/
def time? (cs : List Char) : Option (List Char × List Char) := do
  let (hour, cs₁) ← fixedDigits? 2 cs
  let cs₁ ← after? ':' cs₁
  let (minute, cs₁) ← fixedDigits? 2 cs₁
  if 23 < hour ∨ 59 < minute then none
  else
    let head := cs.take 5
    match cs₁ with
    | ':' :: cs₂ =>
      let (second, cs₃) ← fixedDigits? 2 cs₂
      if 60 < second then none
      else
        match cs₃ with
        | '.' :: cs₄ =>
          let ds := cs₄.takeWhile Char.isDigit
          if ds = [] then none
          else some (head ++ ':' :: cs₂.take 2 ++ fractionText ds, cs₄.dropWhile Char.isDigit)
        | _ => some (head ++ ':' :: cs₂.take 2, cs₃)
    | _ => some (head ++ [':', '0', '0'], cs₁)

/-- A distance from universal time, as it is written back; the whole text has to be one. No
distance at all is positive. -/
def offset? : List Char → Option (List Char)
  | [] => some []
  | ['Z'] => some ['Z']
  | ['z'] => some ['Z']
  | sign :: cs => do
    let (hour, cs₁) ← fixedDigits? 2 cs
    let cs₁ ← after? ':' cs₁
    let (minute, cs₁) ← fixedDigits? 2 cs₁
    if (sign = '+' ∨ sign = '-') ∧ hour ≤ 23 ∧ minute ≤ 59 ∧ cs₁ = [] then
      some ((if hour = 0 ∧ minute = 0 then '+' else sign) :: cs)
    else none

/-- A date, a time, or both, as it is written back. -/
def datetime? (cs : List Char) : Option String :=
  match afterDate? cs with
  | some [] => some (String.ofList cs)
  | some (c :: rest) =>
    if c = 'T' ∨ c = 't' ∨ c = ' ' then do
      let (time, rest) ← time? rest
      let offset ← offset? rest
      some (String.ofList (cs.take 10 ++ 'T' :: time ++ offset))
    else none
  | none =>
    match time? cs with
    | some (time, []) => some (String.ofList time)
    | _ => none

/-- The value of a word without quotes. -/
def bareValue? (cs : List Char) : Option Value :=
  if cs = "true".toList then some (.boolean true)
  else if cs = "false".toList then some (.boolean false)
  else
    match integer? cs with
    | some n => some (.integer n)
    | none =>
      match real? cs with
      | some x => some (.real x)
      | none => (datetime? cs).map .datetime

end PartitionSize.Toml
