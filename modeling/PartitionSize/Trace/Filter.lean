import PartitionSize.Text.Blank
import PartitionSize.Text.Letters
import PartitionSize.Trace
import PartitionSize.Trace.Pattern

/-!
# Trace filters

A filter is a list of directives separated by commas, each a level, a target, or `target=level`. The
level of an event is judged by the most specific directive for it: the one with the longest target
that the event's target begins with, of two with the same target the later one. An event that no
directive is for does not pass; without any directive only errors do.

A directive may also name a span and a field, as `target[span{field=value}]=level`. There are
no spans here, so a directive with a span, or with the value of a field, is for no event; one with
the name of a field alone is for the events that have it. The value has to make sense all the same.
-/

namespace PartitionSize.Trace

open Text

/-- Why a text is no directive. -/
inductive FilterError where
  | invalidDirective
  | invalidLevel
  /-- The value of a field is no pattern. -/
  | invalidField (e : PatternError)
deriving Repr, DecidableEq

/-- The text of the error. -/
def FilterError.message : FilterError → String
  | .invalidDirective => "invalid filter directive"
  | .invalidLevel =>
    "error parsing level filter: expected one of \"off\", \"error\", \"warn\", \"info\", " ++
      "\"debug\", \"trace\", or a number 0-5"
  | .invalidField e => "invalid field filter: " ++ e.message

/-- A directive. The greatest rank that passes is zero when nothing does. -/
structure Directive where
  target : Option String := none
  /-- The fields that an event has to have. -/
  fields : List String := []
  /-- Whether it is for spans only. -/
  forSpans : Bool := false
  rank : Nat
deriving Repr, DecidableEq

/-- The greatest rank that a level lets through: its name in any case, or a number up to five. An
empty name stands for errors. -/
def rankOf? (level : String) : Option Nat :=
  let digits := match level.toList with | '+' :: ds => ds | ds => ds
  if digits ≠ [] ∧ digits.all Char.isDigit then
    let n := Nat.ofDigitChars 10 digits 0
    if n ≤ 5 then some n else none
  else
    [("", 1), ("error", 1), ("warn", 2), ("info", 3), ("debug", 4), ("trace", 5), ("off", 0)].lookup
      level.toLower

/-- What is read of a directive, character by character. -/
inductive DirectiveState where
  | start
  | levelOrTarget
  | span (start : Nat)
  | field (start : Nat)
  | fields
  | afterSpan
  | level (start : Nat)
deriving Repr, DecidableEq

namespace Directive

/-- The text after its first `n` bytes. -/
def dropBytes : Nat → List Char → List Char
  | 0, cs => cs
  | _, [] => []
  | n, c :: cs => dropBytes (n - c.utf8Size) cs

/-- The text of the first `n` bytes. -/
def takeBytes : Nat → List Char → List Char
  | 0, _ => []
  | _, [] => []
  | n, c :: cs => c :: takeBytes (n - c.utf8Size) cs

/-- The piece of a text from one byte offset to another. -/
def slice (text : List Char) (start stop : Nat) : String :=
  String.ofList (takeBytes (stop - start) (dropBytes start text))

/-- The directive with one more field, written `name` or `name=value`; something has to be written.
A field with a value is for spans only. What follows another equals sign does not matter. -/
def addField (d : Directive) (field : String) : Except FilterError Directive :=
  let fields := d.fields ++ [String.ofList (field.toList.takeWhile (· != '='))]
  if field = "" then .error .invalidDirective
  else
    match field.toList.dropWhile (· != '=') with
    | [] => .ok { d with fields }
    | _ :: rest =>
      match Pattern.valueError? (rest.takeWhile (· != '=')) with
      | some e => .error (.invalidField e)
      | none => .ok { d with fields, forSpans := true }

/-- One more character, at the byte offset `i`. Pieces of the directive are taken out of `text`. -/
def step (text : List Char) (i : Nat) (c : Char) :
    DirectiveState × Directive → Except FilterError (DirectiveState × Directive)
  | (.start, d) =>
    if c = '[' then .ok (.span (i + 1), d)
    else if c = '-' ∨ c = ':' ∨ c = '_' ∨ isAlphanumeric c then .ok (.levelOrTarget, d)
    else .error .invalidDirective
  | (.levelOrTarget, d) =>
    if c = '=' then .ok (.level (i + 1), { d with target := some (slice text 0 i) })
    else if c = '[' then .ok (.span (i + 1), { d with target := some (slice text 0 i) })
    else .ok (.levelOrTarget, d)
  | (.span start, d) =>
    if c = ']' then .ok (.afterSpan, { d with forSpans := true })
    else if c = '\x7b' then
      .ok (.field (i + 1), { d with forSpans := d.forSpans || slice text start i != "" })
    else .ok (.span start, d)
  | (.field start, d) =>
    if c = '\x7d' then (d.addField (slice text start i)).map (DirectiveState.fields, ·)
    else .ok (.field start, d)
  | (.fields, d) => if c = ']' then .ok (.afterSpan, d) else .error .invalidDirective
  | (.afterSpan, d) => if c = '=' then .ok (.level (i + 1), d) else .error .invalidDirective
  | (.level start, d) => .ok (.level start, d)

/-- All characters, the first at the byte offset `i`. -/
def steps (text : List Char) (i : Nat) (s : DirectiveState × Directive) :
    List Char → Except FilterError (DirectiveState × Directive)
  | [] => .ok s
  | c :: cs => do steps text (i + c.utf8Size) (← step text i c s) cs

/-- The directive that a text writes; without a level everything passes. Blanks around it are not
read, but count as part of its pieces: only a directive without blanks means what it seems to. -/
def parse (directive : String) : Except FilterError Directive := do
  let text := directive.toList
  let everything := 5
  match ← steps text 0 (.start, { rank := everything }) (trimChars text) with
  | (.levelOrTarget, d) =>
    match rankOf? directive with
    | some rank => .ok { d with rank }
    | none => .ok { d with target := some directive }
  | (.level start, d) =>
    let level := String.ofList (dropBytes start text)
    if level = "" then .ok d
    else
      match rankOf? level with
      | some rank => .ok { d with rank }
      | none => .error .invalidLevel
  | (.afterSpan, d) => .ok d
  | _ => .error .invalidDirective

/-- Whether a directive is for an event. -/
def isFor (d : Directive) (e : Event) : Bool :=
  !d.forSpans &&
    (match d.target with
      | none => true
      | some target => target.toList.isPrefixOf e.target.toList) &&
    d.fields.all fun f =>
      f == "message" || f == "domain" || e.fields.any fun g => g.1 == f

/-- The length of the target, longer than of no target at all. -/
def targetLength (d : Directive) : Nat :=
  match d.target with
  | none => 0
  | some target => target.utf8ByteSize + 1

/-- Whether a directive is at least as specific as another. -/
def atLeastAsSpecific (d d' : Directive) : Bool :=
  if d.targetLength ≠ d'.targetLength then d'.targetLength < d.targetLength
  else if d.fields.length ≠ d'.fields.length then d'.fields.length < d.fields.length
  else !(decide (d.fields < d'.fields))

end Directive

/-- A trace filter. -/
abbrev Filter := List Directive

namespace Filter

/-- The filter that lets errors pass. -/
def errorsOnly : Filter := [{ rank := 1 }]

/-- The filter of some directives. -/
def ofDirectives (ds : List Directive) : Filter := if ds.isEmpty then errorsOnly else ds

/-- The pieces of a text between commas. -/
def splitCommas : List Char → List (List Char)
  | [] => [[]]
  | c :: cs =>
    if c = ',' then [] :: splitCommas cs
    else
      match splitCommas cs with
      | [] => [[c]]
      | piece :: pieces => (c :: piece) :: pieces

/-- The directives of a text, not yet read; empty ones are passed over. -/
def pieces (text : String) : List String :=
  ((splitCommas text.toList).map String.ofList).filter (· != "")

/-- The filter that a text writes. -/
def parse (text : String) : Except FilterError Filter := do
  let ds ← (pieces text).mapM Directive.parse
  return ofDirectives ds

/-- The filter of the directives that can be read, and a complaint about each that cannot. -/
def parseLenient (text : String) : Filter × List String :=
  let read := (pieces text).map fun piece => (piece, Directive.parse piece)
  (ofDirectives (read.filterMap fun r => r.2.toOption),
    read.filterMap fun r =>
      match r.2 with
      | .ok _ => none
      | .error e => some ("ignoring `" ++ r.1 ++ "`: " ++ e.message))

/-- The most specific directive for an event, of equally specific ones the last. -/
def directiveFor? (f : Filter) (e : Event) : Option Directive :=
  (f.filter (·.isFor e)).foldl
    (fun best d =>
      match best with
      | none => some d
      | some b => if d.atLeastAsSpecific b then some d else some b)
    none

/-- Whether an event passes. -/
def passes (f : Filter) (e : Event) : Bool :=
  match f.directiveFor? e with
  | none => false
  | some d => e.level.rank ≤ d.rank

end Filter

end PartitionSize.Trace
