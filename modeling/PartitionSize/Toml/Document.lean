import PartitionSize.Toml.Table
import PartitionSize.Toml.Scalar

/-!
# TOML documents

`Toml.parse` reads a whole document into its top table, or says that the text is no TOML. A reader
is a function on the place it has reached, and fails without a message. Readers of nested values
count down from twice the number of characters that are left; a level of nesting and an item take
two steps each, and at least two characters, so the count never stops a reader.
-/

namespace PartitionSize.Toml

open Text

/-- A reader of a part of a document. -/
abbrev Reader := StateT Spot Option

namespace Reader

/-- Fails. -/
def fail {α : Type} : Reader α := fun _ => none

/-- The place that was reached, in bytes. -/
def offset : Reader Nat := return (← get).offset

/-- The next character. -/
def peek : Reader (Option Char) := return (← get).rest.head?

/-- The number of characters that are left. -/
def left : Reader Nat := return (← get).rest.length

/-- Moves over `n` characters. -/
def skip (n : Nat) : Reader Unit := modify (·.advance n)

/-- Reads a character that has to be there. -/
def char (c : Char) : Reader Unit := do
  if (← peek) = some c then skip 1 else fail

/-- Reads a character if it is there. -/
def tryChar (c : Char) : Reader Bool := do
  if (← peek) = some c then
    skip 1
    return true
  else return false

/-- The characters that satisfy `p`. -/
def takeWhile (p : Char → Bool) : Reader (List Char) := do
  let s ← get
  set (s.skipWhile p)
  return s.rest.takeWhile p

/-- Reads what a function on the remaining text reads. -/
def ofRest {α : Type} (f : List Char → Option (α × List Char)) : Reader α := fun s =>
  match f s.rest with
  | none => none
  | some (a, rest) => some (a, s.advance (s.rest.length - rest.length))

/-- The value of a reader and the piece of the document that it read. -/
def spanned {α : Type} (r : Reader α) : Reader (α × Span) := do
  let start ← offset
  let a ← r
  return (a, ⟨start, ← offset⟩)

end Reader

open Reader

/-! ## Between values -/

/-- The text after blanks, line breaks and comments. In a comment, which `inComment` says, a control
character is an error, as is a carriage return without a line feed anywhere. -/
def dropTrivia (inComment : Bool) : List Char → Option (Unit × List Char)
  | [] => some ((), [])
  | '\r' :: '\n' :: rest => dropTrivia false rest
  | c :: rest =>
    if c == '\n' then dropTrivia false rest
    else if inComment then if isControl c then none else dropTrivia true rest
    else if isInlineBlank c then dropTrivia false rest
    else if c == '#' then dropTrivia true rest
    else some ((), c :: rest)

/-- Spaces and tabs. -/
def inlineBlanks : Reader Unit := do
  let _ ← takeWhile isInlineBlank

/-- Blanks, line breaks and comments. -/
def trivia : Reader Unit := ofRest (dropTrivia false)

/-- The end of a line: blanks, a comment, and then a line break or the end of the document. -/
def lineEnd : Reader Unit := do
  inlineBlanks
  if ← tryChar '#' then
    let _ ← takeWhile fun c => !isControl c
  match (← get).rest with
  | [] => return
  | '\n' :: _ => skip 1
  | '\r' :: '\n' :: _ => skip 2
  | _ => fail

/-! ## Keys -/

/-- One part of a key: a bare word, or a string on one line. -/
def keyPart : Reader Key := do
  let (name, span) ← spanned do
    match (← get).rest with
    | '"' :: _ => skip 1; ofRest basicString
    | '\'' :: _ => skip 1; ofRest literalString
    | _ =>
      let name ← takeWhile isBareKey
      if name = [] then fail else return name
  return ⟨String.ofList name, span⟩

/-- Further parts of a key, each after a point; `n` bounds their number. -/
def moreKeyParts : Nat → Reader (List Key)
  | 0 => return []
  | n + 1 => do
    inlineBlanks
    if ← tryChar '.' then
      inlineBlanks
      let k ← keyPart
      let ks ← moreKeyParts n
      return k :: ks
    else return []

/-- The greatest number of parts of a key, and of arrays and tables in braces inside each other. -/
def maxDepth : Nat := 80

/-- A key: all parts but the last, and the last. -/
def key : Reader (List Key × Key) := do
  let k ← keyPart
  let ks ← moreKeyParts (← left)
  let parts := k :: ks
  if maxDepth < parts.length then fail else return (parts.dropLast, parts.getLastD k)

/-! ## Values -/

/-- A word without quotes. A date may be followed by one space and a time. -/
def bareWord : Reader Value := do
  let word ← takeWhile isBareWord
  match afterDate? word, (← get).rest with
  | some [], ' ' :: c :: _ =>
    if c.isDigit then
      skip 1
      let time ← takeWhile isBareWord
      (datetime? (word ++ ' ' :: time)).elim fail fun text => return .datetime text
    else (bareValue? word).elim fail pure
  | _, _ => (bareValue? word).elim fail pure

mutual

/-- A value inside `depth` arrays and tables. -/
def value (depth : Nat) : Nat → Reader Node
  | 0 => fail
  | n + 1 => do
    let (v, span) ← spanned do
      match ← peek with
      | some '"' => return .string (String.ofList (← ofRest anyString))
      | some '\'' => return .string (String.ofList (← ofRest anyString))
      | some '[' =>
        if maxDepth ≤ depth then fail
        else
          skip 1
          return .array false (← items (depth + 1) n)
      | some '\x7b' =>
        if maxDepth ≤ depth then fail
        else
          skip 1
          return .table .braces (← fields (depth + 1) [] n)
      | _ => bareWord
    return .mk span v

/-- The items of an array up to its closing bracket. -/
def items (depth : Nat) : Nat → Reader (List Node)
  | 0 => fail
  | n + 1 => do
    trivia
    if ← tryChar ']' then return []
    let v ← value depth n
    trivia
    if ← tryChar ',' then return v :: (← items depth n)
    char ']'
    return [v]

/-- The entries of a table in braces up to the closing brace, added to the given ones. -/
def fields (depth : Nat) (es : Entries) : Nat → Reader Entries
  | 0 => fail
  | n + 1 => do
    trivia
    if ← tryChar '\x7d' then return es
    let (parts, last) ← key
    trivia
    char '='
    trivia
    let v ← value depth n
    match es.addDotted last v parts with
    | none => fail
    | some es =>
      trivia
      if ← tryChar ',' then return ← fields depth es n
      char '\x7d'
      return es

end

/-! ## Documents -/

/-- A document as far as it is read: its top table, and the parts of the header read last. -/
structure Progress where
  top : Entries := []
  header : List Key := []

/-- A header `[key]` or `[[key]]`. -/
def headerLine (p : Progress) : Reader Progress := do
  let ((parts, last, ofArray), span) ← spanned do
    char '['
    let ofArray ← tryChar '['
    inlineBlanks
    let (parts, last) ← key
    inlineBlanks
    char ']'
    if ofArray then char ']'
    return (parts, last, ofArray)
  lineEnd
  let change := if ofArray then Entries.openItem span last else Entries.openTable span last
  match p.top.changeAt change parts with
  | none => fail
  | some top => return { top, header := parts ++ [last] }

/-- A line `key = value`. -/
def entryLine (p : Progress) : Reader Progress := do
  let (parts, last) ← key
  inlineBlanks
  char '='
  inlineBlanks
  let v ← value 0 (2 * (← left))
  lineEnd
  match p.top.changeAt (fun es => es.addDotted last v parts) p.header with
  | none => fail
  | some top => return { p with top }

/-- The lines of a document; `n` bounds their number. -/
def lines (p : Progress) : Nat → Reader Entries
  | 0 => fail
  | n + 1 => do
    trivia
    match ← peek with
    | none => return p.top
    | some '[' => lines (← headerLine p) n
    | some _ => lines (← entryLine p) n

/-- The top table of a document, unless the text is no TOML. A byte order mark in front is
skipped. -/
def parse (text : String) : Option Entries :=
  let start := Spot.start text.toList
  let start := if start.rest.head? = some '\ufeff' then start.advance 1 else start
  ((lines {} (start.rest.length + 1)).run start).map (·.1)

end PartitionSize.Toml
