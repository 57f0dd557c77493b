import PartitionSize.Settings
import PartitionSize.Toml.Document
import PartitionSize.Toml.Excerpt

/-!
# Settings from TOML

`Settings.parse` reads a document and takes the settings out of it. Sections and keys that are not
known are passed over. A section may also be an array of its values in the order of its keys. The
entries of a table are visited in increasing order of their keys, so of several bad values the first
in that order is reported, with the place where it stands.
-/

namespace PartitionSize

open Text (quote)
open Toml (Key Node Value Span Entries)

/-- A value that does not fit, where it stands, and why. -/
structure ValueError where
  span : Span
  message : String
deriving Repr, DecidableEq

namespace ValueError

/-- The text for a number of more than 128 bits. -/
def hugeInteger : String := "integer number overflowed"

/-- The text for a number beyond the largest of 64 binary digits. -/
def hugeReal : String := "floating-point number overflowed"

/-- An integer of at most 64 bits, with or without a sign. -/
def isShort (n : Int) : Bool := -0x8000000000000000 ≤ n && n < 0x10000000000000000

/-- An integer as an error names it; wider ones with their width, unless they are too wide. -/
def integerWord? (n : Int) : Option String :=
  let word := "integer `" ++ toString n ++ "`"
  if isShort n then some word
  else if -0x80000000000000000000000000000000 ≤ n ∧ n < 0x80000000000000000000000000000000 then
    some (word ++ " as i128")
  else if 0 ≤ n ∧ n < 0x100000000000000000000000000000000 then some (word ++ " as u128")
  else none

/-- A value as an error names it, or why it cannot be read at all. -/
def word : Value → Except String String
  | .string s => .ok ("string " ++ quote s)
  | .integer n => (integerWord? n).elim (.error hugeInteger) .ok
  | .real x => x.text?.elim (.error hugeReal) fun text => .ok ("floating point `" ++ text ++ "`")
  | .boolean b => .ok ("boolean `" ++ (if b then "true" else "false") ++ "`")
  | .datetime _ => .ok "map"
  | .array .. => .ok "sequence"
  | .table .. => .ok "map"

/-- The error for a value of another kind than wanted. -/
def mismatch (v : Node) (wanted : String) : ValueError :=
  { span := v.span
    message :=
      match word v.value with
      | .error message => message
      | .ok word => "invalid type: " ++ word ++ ", expected " ++ wanted }

/-- The error for an integer that is passed over, or kept for later when `kept` says so. Only
integers of 64 bits can be kept. -/
def integer? (kept : Bool) (n : Int) : Option String :=
  match integerWord? n with
  | none => some hugeInteger
  | some word =>
    if kept && !isShort n then some ("invalid type: " ++ word ++ ", expected any value") else none

mutual

/-- What is wrong with a value that is passed over or kept for later: the first number in it that is
too large. -/
def inside? (kept : Bool) : Node → Option ValueError
  | .mk span (.integer n) => (integer? kept n).map (⟨span, ·⟩)
  | .mk span (.real x) => if x.text?.isNone then some ⟨span, hugeReal⟩ else none
  | .mk _ (.array _ items) => insideItems? kept items
  | .mk _ (.table _ entries) => (insideEntries? kept entries).map (·.2)
  | .mk _ _ => none

/-- The same for the items of an array, in order. -/
def insideItems? (kept : Bool) : List Node → Option ValueError
  | [] => none
  | v :: vs => (inside? kept v).or (insideItems? kept vs)

/-- The same for the entries of a table, in order of their keys: the error and the key. -/
def insideEntries? (kept : Bool) : List (Key × Node) → Option (String × ValueError)
  | [] => none
  | (k, v) :: es =>
    match inside? kept v, insideEntries? kept es with
    | none, found => found
    | some e, none => some (k.name, e)
    | some e, some (k', e') => some (if k.name < k' then (k.name, e) else (k', e'))

end

end ValueError

namespace Settings

/-! ## Single values -/

/-- A string. -/
def stringOf (wanted : String) (v : Node) : Except ValueError String :=
  match v.value with
  | .string s => .ok s
  | _ => .error (.mismatch v wanted)

/-- A quantity, from a number or a text. An error of the quantity itself stands at `place`. -/
def quantityOf {α : Type} (ofScalar : Scalar → Except QuantityError α)
    (message : QuantityError → String) (place : Span) (v : Node) : Except ValueError α :=
  match ValueError.inside? true v with
  | some e => .error e
  | none =>
    let scalar : Scalar :=
      match v.value with
      | .integer n => .number n
      | .string s => .text s
      | _ => .other
    match ofScalar scalar with
    | .error e => .error ⟨place, message e⟩
    | .ok a => .ok a

/-- The key under which a date or a time shows as a table of one entry. -/
def datetimeKey : String := "$__toml_private_datetime"

/-- The entries in increasing order of their keys. -/
def sorted (es : Entries) : Entries :=
  (sortByName (es.map fun e => (e.1.name, e))).map (·.2)

/-- The entries of a table in increasing order of the keys. -/
def entriesOf (v : Node) : Except ValueError Entries :=
  match v.value with
  | .table _ es => .ok (sorted es)
  | .datetime text => .ok [(⟨datetimeKey, v.span⟩, .mk v.span (.string text))]
  | _ => .error (.mismatch v "a map")

/-- A table whose values are all read by `f`. -/
def mapOf {α : Type} (f : Node → Except ValueError α) (v : Node) :
    Except ValueError (List (String × α)) := do
  let es ← entriesOf v
  es.mapM fun e => do return (e.1.name, ← f e.2)

/-- The kind of a value in the words of an error. -/
def kindWord : Value → String
  | .string _ => "string"
  | .integer _ => "integer"
  | .real _ => "float"
  | .boolean _ => "boolean"
  | .datetime _ => "datetime"
  | .array .. => "array"
  | .table .. => "table"

/-- The format of a name. -/
def formatOfName (span : Span) (name : String) : Except ValueError OutputFormat :=
  match OutputFormat.ofName? name with
  | some f => .ok f
  | none => .error ⟨span, "unknown variant `" ++ name ++ "`, expected `plain` or `json`"⟩

/-- A format: its name, or a table whose only key is its name and whose value there is empty. -/
def formatOf (v : Node) : Except ValueError OutputFormat :=
  match v.value with
  | .string name => formatOfName v.span name
  | .table _ [] => .error ⟨v.span, "wanted exactly 1 element, found 0 elements"⟩
  | .table _ [(key, inner)] => do
    let format ← formatOfName key.span key.name
    match inner.value with
    | .array _ [] => .ok format
    | .array _ _ => .error ⟨inner.span, "expected empty array"⟩
    | .table _ [] => .ok format
    | .table _ _ => .error ⟨inner.span, "expected empty table"⟩
    | other => .error ⟨inner.span, "expected table, found " ++ kindWord other⟩
  | .table _ _ => .error ⟨v.span, "wanted exactly 1 element, more than 1 element"⟩
  | _ => .error ⟨v.span, "wanted string or table"⟩

/-! ## Sections -/

/-- The result of a key that is not known: nothing changes, if the value can be passed over. -/
def passOver {α : Type} (a : α) (v : Node) : Except ValueError α :=
  match ValueError.inside? false v with
  | some e => .error e
  | none => .ok a

/-- A section: a table, or an array of the values of the given keys. Each value is put in by `put`,
which also gets the place of a bad quantity: the value in a table, but the whole array. -/
def sectionOf {α : Type} (wanted : String) (keys : List String) (initial : α)
    (put : α → String → Span → Node → Except ValueError α) (v : Node) : Except ValueError α :=
  match v.value with
  | .table _ es => (sorted es).foldlM (fun a e => put a e.1.name e.2.span e.2) initial
  | .datetime _ => .ok initial
  | .array _ items => (keys.zip items).foldlM (fun a e => put a e.1 v.span e.2) initial
  | _ => .error (.mismatch v wanted)

/-- A value of the section `estimate`. -/
def putEstimate (s : EstimateSettings) (key : String) (place : Span) (v : Node) :
    Except ValueError EstimateSettings :=
  match key with
  | "rows" => do
    return { s with rows := ← quantityOf RowCount.ofScalar RowCount.errorMessage place v }
  | "sizes" => do
    let size (v : Node) := quantityOf ByteSize.ofScalar ByteSize.errorMessage v.span v
    return { s with sizes := ← mapOf size v }
  | _ => passOver s v

/-- A value of the section `output`. -/
def putOutput (s : OutputSettings) (key : String) (_ : Span) (v : Node) :
    Except ValueError OutputSettings :=
  match key with
  | "format" => do return { s with format := ← formatOf v }
  | _ => passOver s v

/-- A value of the section `logging`. -/
def putLogging (s : LoggingSettings) (key : String) (_ : Span) (v : Node) :
    Except ValueError LoggingSettings :=
  match key with
  | "level" => do return { s with level := ← stringOf "a string" v }
  | "modules" => do return { s with modules := ← mapOf (stringOf "a string") v }
  | "file" => do return { s with file := some (← stringOf "path string" v) }
  | "format" => do return { s with format := ← formatOf v }
  | _ => passOver s v

/-- A section of the settings. -/
def put (s : Settings) (key : String) (v : Node) : Except ValueError Settings :=
  match key with
  | "estimate" => do
    return { s with
      estimate := ← sectionOf "struct EstimateConfig" ["rows", "sizes"] s.estimate putEstimate v }
  | "output" => do
    return { s with output := ← sectionOf "struct OutputConfig" ["format"] s.output putOutput v }
  | "logging" => do
    return { s with
      logging := ← sectionOf "struct LoggingConfig" ["level", "modules", "file", "format"]
        s.logging putLogging v }
  | _ => passOver s v

/-- The settings in the top table of a document. -/
def ofEntries (es : Entries) : Except ValueError Settings :=
  (sorted es).foldlM (fun s e => s.put e.1.name e.2) {}

end Settings

/-! ## Documents -/

/-- Why a text holds no settings. -/
inductive SettingsError where
  /-- It is no TOML. -/
  | syntaxError
  /-- A value does not fit. -/
  | value (e : ValueError)
  /-- The values fit, but not together. -/
  | invalid (i : Settings.Invalid)
deriving Repr, DecidableEq

namespace SettingsError

/-- What is wrong, without the place. -/
def message : SettingsError → String
  | .syntaxError => "invalid TOML"
  | .value e => e.message
  | .invalid i => i.message

/-- What is wrong, with the place in the document where a value does not fit. -/
def report (text : String) : SettingsError → String
  | .value e => Toml.excerpt text e.span e.message
  | e => e.message

end SettingsError

/-- The settings that a text writes. -/
def Settings.parse (text : String) : Except SettingsError Settings :=
  match Toml.parse text with
  | none => .error .syntaxError
  | some es =>
    match Settings.ofEntries es with
    | .error e => .error (.value e)
    | .ok s =>
      match s.invalid? with
      | some i => .error (.invalid i)
      | none => .ok s

end PartitionSize
