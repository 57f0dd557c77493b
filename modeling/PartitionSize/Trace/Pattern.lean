import PartitionSize.Text.Blank
import PartitionSize.Text.Hex
import PartitionSize.Text.Letters

/-!
# Patterns

The value of a field in a trace directive is a truth value, a number or a regular expression. There
are no spans here that could have the field, so nothing is ever matched: `Pattern.error?` says
whether a text can be made into a pattern at all, and if not, why.

A pattern is made of characters, classes `[…]`, groups `(…)`, anchors and repetitions, separated by
`|`. Flags such as `(?i)` change the `Mode` up to the end of the group around them. What needs to
know the cases, digits or word characters of all scripts is refused, for there are no tables of
them: outside the bytes mode `(?-u)` there is no `(?i)` before a character, and no `\d`.

The readers count down from the number of characters, and each step passes at least one, so the
count never stops a reader.
-/

namespace PartitionSize.Trace

open Text

/-- Why a text is no pattern. -/
inductive PatternError where
  /-- It is not well formed, or needs to know more of characters than their numbers. -/
  | malformed
  /-- It asks for the ends of words of any script. -/
  | wordBoundary
deriving Repr, DecidableEq

/-- The text of the error. -/
def PatternError.message : PatternError → String
  | .malformed => "error building NFA"
  | .wordBoundary =>
    "unsupported regex feature for DFAs: cannot build DFAs for regexes with Unicode word " ++
      "boundaries; switch to ASCII word boundaries, or heuristically enable Unicode word " ++
      "boundaries or use a different regex engine"

namespace Pattern

/-! ## Modes -/

/-- How the characters that follow are read. -/
structure Mode where
  /-- Whether letters stand for both of their cases. -/
  caseless : Bool := false
  /-- Whether blanks, and what follows a `#` on its line, are passed over. -/
  spaced : Bool := false
  /-- Whether characters are read, not bytes. -/
  unicode : Bool := true
deriving Repr, DecidableEq

/-- The text after blanks and comments; `inComment` says where it starts. -/
def dropRemarks (inComment : Bool) : List Char → List Char
  | [] => []
  | c :: cs =>
    if inComment then dropRemarks (c != '\n') cs
    else if isBlank c then dropRemarks false cs
    else if c = '#' then dropRemarks true cs
    else c :: cs

namespace Mode

/-- The text from the next character that counts. -/
def skip (m : Mode) (cs : List Char) : List Char := if m.spaced then dropRemarks false cs else cs

/-- The next character, seen from the hyphen before it. Of a comment only the first sign is passed
over here. -/
def ahead? (m : Mode) (cs : List Char) : Option Char :=
  if m.spaced then
    match dropBlanks cs with
    | '#' :: cs => (dropBlanks cs).head?
    | cs => cs.head?
  else cs.head?

/-- Whether a character can stand for itself; `byNumber` if two hexadecimal digits write it, which
in the bytes mode makes it a byte and no character. -/
def allows (m : Mode) (c : Char) (byNumber : Bool) : Bool :=
  if m.unicode then !m.caseless else !byNumber || c.toNat < 0x80

/-- The same in a class, where the bytes mode has ASCII only. -/
def allowsInClass (m : Mode) (c : Char) : Bool :=
  if m.unicode then !m.caseless else c.toNat < 0x80

/-- Whether a named class can stand in a class. What is left over by one is no text in bytes. -/
def allowsNamed (m : Mode) (negated : Bool) : Bool := if m.unicode then !m.caseless else !negated

/-- Whether digits, blanks or word characters can be asked for. -/
def allowsKind (m : Mode) (negated : Bool) : Bool := !m.unicode && !negated

end Mode

/-! ## Escapes -/

/-- What a backslash and the characters after it stand for. -/
inductive Escape where
  | literal (c : Char) (byNumber : Bool)
  /-- Digits, blanks or word characters, or all but them. -/
  | kind (negated : Bool)
  /-- An end of the text. -/
  | anchor
  /-- An end of a word, or no end of one. -/
  | wordEnd
deriving Repr, DecidableEq

/-- The next `n` hexadecimal digits, and the text from the next character that counts. -/
def hexDigits (m : Mode) : Nat → List Char → Option (List Char × List Char)
  | 0, cs => some ([], m.skip cs)
  | n + 1, cs =>
    match m.skip cs with
    | [] => none
    | c :: cs => do
      let _ ← hexDigit? c
      let (ds, cs) ← hexDigits m n cs
      some (c :: ds, cs)

/-- The character that `n` hexadecimal digits write. -/
def hexLiteral (m : Mode) (n : Nat) (cs : List Char) : Option (Escape × List Char) := do
  let (ds, cs) ← hexDigits m n cs
  let c ← charOfHex? ds
  some (.literal c (n == 2), cs)

/-- The escape whose backslash was just read, and what follows. Punctuation stands for itself. -/
def escape (m : Mode) : List Char → Option (Escape × List Char)
  | [] => none
  | 'x' :: cs => hexLiteral m 2 cs
  | 'u' :: cs => hexLiteral m 4 cs
  | 'U' :: cs => hexLiteral m 8 cs
  | c :: cs =>
    if "dsw".toList.contains c then some (.kind false, cs)
    else if "DSW".toList.contains c then some (.kind true, cs)
    else if "Az".toList.contains c then some (.anchor, cs)
    else if "bB<>".toList.contains c then some (.wordEnd, cs)
    else if "aftnrv".toList.contains c then some (.literal c false, cs)
    else if c.toNat < 0x80 && !c.isAlphanum then some (.literal c false, cs)
    else none

/-! ## Classes -/

/-- The names of classes inside a class, as in `[[:alpha:]]`. -/
def classNames : List String :=
  ["alnum", "alpha", "ascii", "blank", "cntrl", "digit", "graph", "lower", "print", "punct",
    "space", "upper", "word", "xdigit"]

/-- The named class whose opening bracket was just read: whether it is negated, and what follows. -/
def namedClass? : List Char → Option (Bool × List Char)
  | ':' :: cs =>
    let (negated, cs) := match cs with
      | '^' :: cs => (true, cs)
      | cs => (false, cs)
    match cs.dropWhile (· != ':') with
    | ':' :: ']' :: rest =>
      if classNames.contains (String.ofList (cs.takeWhile (· != ':'))) then some (negated, rest)
      else none
    | _ => none
  | _ => none

/-- One character of a class, which may be escaped. -/
def classItem (m : Mode) : List Char → Option (Escape × List Char)
  | [] => none
  | '\\' :: cs => escape m cs
  | c :: cs => some (.literal c false, cs)

/-- A character of a class, or a range of them, and what follows. A hyphen in front of another one
or of the closing bracket makes no range. -/
def classRange (m : Mode) (cs : List Char) : Option (List Char) := do
  let (first, cs) ← classItem m cs
  match m.skip cs with
  | '-' :: rest =>
    if m.ahead? rest = some ']' ∨ m.ahead? rest = some '-' then
      single first ('-' :: rest)
    else
      match first, ← classItem m (m.skip rest) with
      | .literal a _, (.literal b _, rest) =>
        if m.allowsInClass a ∧ m.allowsInClass b ∧ a ≤ b then some rest else none
      | _, _ => none
  | cs => single first cs
where
  /-- What follows a character that stands alone. -/
  single (item : Escape) (rest : List Char) : Option (List Char) :=
    let allowed := match item with
      | .literal c _ => m.allowsInClass c
      | .kind negated => m.allowsKind negated
      | _ => false
    if allowed then some rest else none

/-- How far a class has been read: a closing bracket that comes first stands for itself, and so do
all hyphens in front. -/
inductive ClassPart where
  | first
  | hyphens
  | later
deriving Repr, DecidableEq

/-- What follows the opening bracket of a class, and the caret that negates it. -/
def classStart (m : Mode) (cs : List Char) : Option (List Char) :=
  match m.skip cs with
  | '^' :: cs => if m.unicode then some cs else none
  | cs => some cs

/-- What follows a class that stands in `depth` others. -/
def classRest (m : Mode) (part : ClassPart) (depth : Nat) : Nat → List Char → Option (List Char)
  | 0, _ => none
  | n + 1, cs =>
    match part, m.skip cs with
    | .first, ']' :: cs =>
      if m.allowsInClass ']' then classRest m .later depth n cs else none
    | .first, '-' :: cs | .hyphens, '-' :: cs =>
      if m.allowsInClass '-' then classRest m .hyphens depth n cs else none
    | _, ']' :: cs =>
      match depth with
      | 0 => some cs
      | depth + 1 => classRest m .later depth n cs
    | _, '[' :: cs =>
      match namedClass? cs with
      | some (negated, cs) =>
        if m.allowsNamed negated then classRest m .later depth n cs else none
      | none => do classRest m .first (depth + 1) n (← classStart m cs)
    | _, '&' :: '&' :: cs | _, '-' :: '-' :: cs | _, '~' :: '~' :: cs =>
      classRest m .later depth n cs
    | _, cs => do classRest m .later depth n (← classRange m cs)

/-- What follows the class whose opening bracket was just read. -/
def afterClass (m : Mode) (cs : List Char) : Option (List Char) := do
  let cs ← classStart m cs
  classRest m .first 0 (cs.length + 1) cs

/-! ## Groups -/

/-- What has been read of a pattern. -/
structure Reading where
  mode : Mode := {}
  /-- The modes around the groups that are open, the innermost first. -/
  outer : List Mode := []
  /-- The names of the groups. -/
  names : List (List Char) := []
  /-- Whether there is something in front that can be repeated. -/
  repeatable : Bool := false
  /-- Whether the ends of words of any script were asked for. -/
  wordEnds : Bool := false
deriving Repr, DecidableEq

/-- The mode after some flags, of which those behind a hyphen are taken away. -/
def Mode.withFlags (m : Mode) (flags : List Char) : Mode :=
  let on := flags.takeWhile (· != '-')
  let off := flags.dropWhile (· != '-')
  let set (flag : Char) (before : Bool) : Bool := (before || on.contains flag) && !off.contains flag
  { caseless := set 'i' m.caseless, spaced := set 'x' m.spaced, unicode := set 'u' m.unicode }

/-- Whether flags are well formed: none is repeated, nor is the hyphen, which is not the last. -/
def areFlags (flags : List Char) : Bool :=
  flags.all "ismRUux-".toList.contains && decide flags.Nodup && flags.getLast? != some '-'

/-- Whether a group can have a name. -/
def isGroupName : List Char → Bool
  | [] => false
  | c :: cs =>
    (c == '_' || isLetter c) && cs.all fun c => "_.[]".toList.contains c || isAlphanumeric c

namespace Reading

/-- The reading inside one more group. -/
def openGroup (r : Reading) (inside : Mode) : Reading :=
  { r with mode := inside, outer := r.mode :: r.outer, repeatable := false }

/-- The reading with a group of the name that the text starts with, and what follows. -/
def namedGroup (r : Reading) (cs : List Char) : Option (Reading × List Char) :=
  let name := cs.takeWhile (· != '>')
  match cs.dropWhile (· != '>') with
  | [] => none
  | _ :: cs =>
    if isGroupName name && !r.names.contains name then
      some ({ r.openGroup r.mode with names := name :: r.names }, cs)
    else none

/-- The reading after flags, for the rest of the group around them or for a group of their own. -/
def flagged (r : Reading) (cs : List Char) : Option (Reading × List Char) :=
  let isFlag (c : Char) : Bool := c != ':' && c != ')'
  let flags := cs.takeWhile isFlag
  let mode := r.mode.withFlags flags
  if !areFlags flags then none
  else
    match cs.dropWhile isFlag with
    | ':' :: cs => some (r.openGroup mode, cs)
    | ')' :: cs => if flags = [] then none else some ({ r with mode, repeatable := false }, cs)
    | _ => none

/-- The reading after an opening bracket and what belongs to it. -/
def group (r : Reading) (cs : List Char) : Option (Reading × List Char) :=
  match r.mode.skip cs with
  | '?' :: 'P' :: '<' :: cs => r.namedGroup cs
  | '?' :: '<' :: cs => r.namedGroup cs
  | '?' :: cs => r.flagged cs
  | cs => some (r.openGroup r.mode, cs)

/-! ## Patterns -/

/-- The reading after something that can be repeated, if it is allowed. -/
def item (r : Reading) (allowed : Bool) (cs : List Char) : Option (Reading × List Char) :=
  if allowed then some ({ r with repeatable := true }, cs) else none

/-- The reading after an escape. -/
def escaped (r : Reading) (cs : List Char) : Option (Reading × List Char) := do
  let (e, cs) ← escape r.mode cs
  match e with
  | .literal c byNumber => r.item (r.mode.allows c byNumber) cs
  | .kind negated => r.item (r.mode.allowsKind negated) cs
  | .anchor => r.item true cs
  | .wordEnd => item { r with wordEnds := r.wordEnds || r.mode.unicode } true cs

/-- The reading after the next part of a pattern, which starts with the given character, and what
follows. A number of repetitions in braces cannot be told from the end of the field. -/
def step (r : Reading) (c : Char) (cs : List Char) : Option (Reading × List Char) :=
  match c with
  | '(' => r.group cs
  | ')' =>
    match r.outer with
    | [] => none
    | mode :: outer => some ({ r with mode, outer, repeatable := true }, cs)
  | '|' => some ({ r with repeatable := false }, cs)
  | '[' => do r.item true (← afterClass r.mode cs)
  | '?' | '*' | '+' => r.item r.repeatable cs
  | '\x7b' => none
  | '.' => r.item r.mode.unicode cs
  | '^' | '$' => r.item true cs
  | '\\' => r.escaped cs
  | c => r.item (r.mode.allows c false) cs

/-- The reading after a whole pattern. -/
def steps (r : Reading) : Nat → List Char → Option Reading
  | 0, _ => none
  | n + 1, cs =>
    match r.mode.skip cs with
    | [] => if r.outer = [] then some r else none
    | c :: cs => do
      let (r, cs) ← r.step c cs
      steps r n cs

end Reading

/-- What is wrong with a pattern, if anything is. -/
def error? (pattern : List Char) : Option PatternError :=
  match Reading.steps {} (pattern.length + 1) pattern with
  | none => some .malformed
  | some r => if r.wordEnds then some .wordBoundary else none

/-! ## Values -/

/-- Whether a text is digits, and then an exponent if there is one: `e` and a whole number. -/
def isScaled (digits : List Char) : Bool :=
  let isE (c : Char) : Bool := c == 'e' || c == 'E'
  let isNumber (ds : List Char) : Bool := ds != [] && ds.all Char.isDigit
  (digits.takeWhile fun c => !isE c).all Char.isDigit &&
    match digits.dropWhile fun c => !isE c with
    | [] => true
    | _ :: '+' :: ds => isNumber ds
    | _ :: '-' :: ds => isNumber ds
    | _ :: ds => isNumber ds

/-- Whether a text is a number: digits with a point anywhere and an exponent, or a word for what no
digits write; either may have a sign. -/
def isNumber (text : List Char) : Bool :=
  let unsigned := match text with
    | '+' :: cs => cs
    | '-' :: cs => cs
    | cs => cs
  let words := ["inf", "infinity", "nan"]
  let whole := unsigned.takeWhile Char.isDigit
  words.contains (String.ofList (unsigned.map Char.toLower)) ||
    match unsigned.dropWhile Char.isDigit with
    | '.' :: rest => (whole != [] || (rest.head?.any Char.isDigit)) && isScaled rest
    | rest => whole != [] && isScaled rest

/-- What is wrong with the value of a field, if anything is: a number needs no pattern. -/
def valueError? (value : List Char) : Option PatternError :=
  if isNumber value then none else error? value

end Pattern

end PartitionSize.Trace
