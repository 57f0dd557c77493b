import PartitionSize.Json
import PartitionSize.Settings

/-!
# Trace events

An event says what happens while a command runs. It has a level, the target that emits it, a domain
(what it is about), a message, and further fields in order. `Event.line` writes it as one line,
plain or as JSON; the time stands in front as it is given.
-/

namespace PartitionSize.Trace

/-- How much an event matters. -/
inductive Level where
  | error
  | warn
  | info
  | debug
  | trace
deriving Repr, DecidableEq

namespace Level

/-- The place of a level among all, the most important first; a filter that lets a level through
also lets those of lower rank through. -/
def rank : Level → Nat
  | .error => 1
  | .warn => 2
  | .info => 3
  | .debug => 4
  | .trace => 5

/-- The name of a level. -/
def name : Level → String
  | .error => "ERROR"
  | .warn => "WARN"
  | .info => "INFO"
  | .debug => "DEBUG"
  | .trace => "TRACE"

/-- The number of its colour on a terminal. -/
def colour : Level → String
  | .error => "31"
  | .warn => "33"
  | .info => "32"
  | .debug => "34"
  | .trace => "35"

end Level

/-- The value of a field. -/
inductive FieldValue where
  | number (n : Int)
  | text (s : String)
deriving Repr, DecidableEq

/-- What an event is about. -/
inductive Domain where
  /-- The settings. -/
  | conf
  /-- The statement. -/
  | parse
  /-- The estimate. -/
  | est
deriving Repr, DecidableEq

/-- The name of a domain. -/
def Domain.name : Domain → String
  | .conf => "conf"
  | .parse => "parse"
  | .est => "est"

/-- Something that happened. -/
structure Event where
  level : Level
  target : String
  domain : Domain
  message : String
  fields : List (String × FieldValue)
deriving Repr, DecidableEq

namespace Event

/-- The level, five characters wide, in colour if `coloured`. -/
def levelText (coloured : Bool) (l : Level) : String :=
  let padded := String.ofList (List.replicate (5 - l.name.toList.length) ' ') ++ l.name
  if coloured then "\x1b[" ++ l.colour ++ "m" ++ padded ++ "\x1b[0m" else padded

/-- A field as `name=value`. -/
def fieldText (f : String × FieldValue) : String :=
  f.1 ++ "=" ++ match f.2 with | .number n => toString n | .text s => s

/-- The event as a plain line. -/
def plainLine (coloured : Bool) (time : String) (e : Event) : String :=
  time ++ " " ++ levelText coloured e.level ++ " [" ++ e.domain.name ++ "] " ++
    " ".intercalate (e.message :: e.fields.map fieldText) ++ "\n"

/-- The event as an object. -/
def toJson (time : String) (e : Event) : Json :=
  .obj
    [("timestamp", .str time), ("level", .str e.level.name),
      ("fields", .obj ([("message", .str e.message), ("domain", .str e.domain.name)] ++
        e.fields.map fun f =>
          (f.1, match f.2 with | .number n => Json.int n | .text s => Json.str s)))]

/-- The event as a line of a format. Only plain lines have colours. -/
def line (format : OutputFormat) (coloured : Bool) (time : String) (e : Event) : String :=
  match format with
  | .plain => e.plainLine coloured time
  | .json => (e.toJson time).compact ++ "\n"

end Event

end PartitionSize.Trace
