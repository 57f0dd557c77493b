import PartitionSize.Quantity.RowCount
import PartitionSize.Quantity.SizeOverride
import PartitionSize.Terminal

/-!
# Command line arguments

    pcalc [-c CONFIG] [--json] parse FILE
    pcalc [-c CONFIG] [--json] evaluate FILE [-r ROWS] [-s COLUMN=SIZE]…
    pcalc help [COMMAND]

`Arguments.parse` reads the arguments from left to right. The value of an option may be attached to
it or be the next argument; after `--` there are no options. A value is judged when the next option
or file is read, or at the end, and what is missing is noticed last; an argument that fits nowhere
is an error at once. Options of the whole program may stand on either side of the subcommand, and
the one behind it wins.
-/

namespace PartitionSize

/-- An option. -/
inductive Opt where
  | config
  | json
  | rows
  | size
  | help
deriving Repr, DecidableEq

/-- An option as usage errors show it. -/
def Opt.label : Opt → String
  | .config => "--config <CONFIG>"
  | .json => "--json"
  | .rows => "--rows <ROWS>"
  | .size => "--size <SIZES>"
  | .help => "--help"

/-- What is being read: the program's own options, or those of a subcommand. -/
inductive Scope where
  | program
  | parse
  | evaluate
deriving Repr, DecidableEq

namespace Scope

/-- The subcommand of a name. -/
def ofName? (name : String) : Option Scope :=
  if name = "parse" then some .parse else if name = "evaluate" then some .evaluate else none

/-- The option of a long name. -/
def long? (scope : Scope) (name : String) : Option Opt :=
  if name = "config" then some .config
  else if name = "json" then some .json
  else if name = "help" then some .help
  else if scope = .evaluate then
    if name = "rows" then some .rows else if name = "size" then some .size else none
  else none

/-- The option of a letter. -/
def short? (scope : Scope) (letter : Char) : Option Opt :=
  if letter = 'c' then some .config
  else if letter = 'h' then some .help
  else if scope = .evaluate then
    if letter = 'r' then some .rows else if letter = 's' then some .size else none
  else none

end Scope

/-- What is wrong with the arguments. -/
inductive UsageError where
  /-- Help was asked for, or there are no arguments at all. -/
  | help (asked : Bool)
  | missingSubcommand
  | unknownSubcommand (name : String)
  /-- An argument that fits nowhere. -/
  | unexpectedArgument (argument : String)
  /-- A value for an option that has none. -/
  | unexpectedValue (value : String) (option : Opt)
  /-- A value that the option or the file does not accept. -/
  | invalidValue (value : String) (option : Opt) (message : String)
  /-- An option or a file without its value. -/
  | missingValue (label : String)
  /-- An option that is given twice. -/
  | repeated (option : Opt)
  | missingFile
deriving Repr, DecidableEq

/-- The label of the file in usage errors. -/
def fileLabel : String := "<FILE>"

/-- What the program is, in a line. -/
def about : String := "Partition size calculator for CQL tables"

/-- The summary of the arguments. -/
def usage : String :=
  "Usage: pcalc [OPTIONS] <COMMAND>\n\nCommands:\n" ++
    "  parse     Parse a CREATE TABLE statement and print the schema\n" ++
    "  evaluate  Estimate the on-disk size of one partition\n" ++
    "  help      Print this message or the help of the given subcommand(s)\n\nOptions:\n" ++
    "  -c, --config <CONFIG>  Path to a pcalc.toml config file\n" ++
    "      --json             Print results as JSON\n" ++
    "  -h, --help             Print help\n"

/-- An argument as a usage error quotes it. -/
def quoteArgument (argument : String) : String :=
  "'" ++ Terminal.styled Terminal.yellow argument ++ "'"

/-- An option or the file as a usage error names it. -/
def quoteLabel (label : String) : String := "'" ++ Terminal.styled Terminal.bold label ++ "'"

/-- What is wrong, in the styles of a terminal. -/
def UsageError.message : UsageError → String
  | .help _ => about
  | .missingSubcommand =>
    quoteLabel "pcalc" ++ " requires a subcommand but one was not provided\n" ++
      "  [subcommands: parse, evaluate, help]"
  | .unknownSubcommand name => "unrecognized subcommand " ++ quoteArgument name
  | .unexpectedArgument argument => "unexpected argument " ++ quoteArgument argument ++ " found"
  | .unexpectedValue value option =>
    "unexpected value " ++ quoteArgument value ++ " for " ++ quoteLabel option.label ++
      " found; no more were expected"
  | .invalidValue value option message =>
    "invalid value " ++ quoteArgument value ++ " for " ++ quoteLabel option.label ++ ": " ++ message
  | .missingValue label =>
    "a value is required for " ++ quoteLabel label ++ " but none was supplied"
  | .repeated option =>
    "the argument " ++ quoteLabel option.label ++ " cannot be used multiple times"
  | .missingFile =>
    "the following required arguments were not provided:\n  " ++
      Terminal.styled Terminal.bold fileLabel

/-- The text of the error and what to do about it. -/
def UsageError.report (e : UsageError) : String :=
  Terminal.plain
    (match e with
    | .help _ => e.message ++ "\n\n" ++ usage
    | e =>
      Terminal.styled (Terminal.bold ++ Terminal.red) "error:" ++ " " ++ e.message ++
        "\n\nFor more information, try " ++ quoteLabel "--help" ++ ".\n")

/-- What to do. -/
inductive Action where
  | parse (file : String)
  | evaluate (file : String) (rows : Option RowCount) (sizes : List SizeOverride)
deriving Repr

/-- The arguments, read. -/
structure Arguments where
  config : Option String := none
  json : Bool := false
  action : Action
deriving Repr

namespace Arguments

/-- An option or a file whose value has not been judged yet. -/
inductive Pending where
  | option (o : Opt) (value : Option String)
  | file (path : String)
deriving Repr, DecidableEq

/-- What has been read in a scope. -/
structure Reading where
  config : Option String := none
  json : Bool := false
  rows : Option RowCount := none
  sizes : List SizeOverride := []
  file : Option String := none
  /-- Whether an argument has been taken for the file. -/
  hasFile : Bool := false
  pending : Option Pending := none
deriving Repr

namespace Reading

/-- Whether an option is waiting for its value. -/
def isWaiting (r : Reading) : Bool :=
  match r.pending with
  | some (.option _ none) => true
  | _ => false

/-- The reading with the value of an option. Only sizes may be given more than once. -/
def setValue (r : Reading) (o : Opt) (value : String) : Except UsageError Reading :=
  match o with
  | .config =>
    if r.config.isSome then .error (.repeated o)
    else if value = "" then .error (.missingValue o.label)
    else .ok { r with config := some value }
  | .json | .help => .error (.unexpectedValue value o)
  | .rows =>
    if r.rows.isSome then .error (.repeated o)
    else
      match RowCount.parse value with
      | .error e => .error (.invalidValue value o (RowCount.errorMessage e))
      | .ok rows => .ok { r with rows := some rows }
  | .size =>
    match SizeOverride.parse value with
    | .error e => .error (.invalidValue value o e.message)
    | .ok size => .ok { r with sizes := r.sizes ++ [size] }

/-- The reading with the value judged that was pending. -/
def settle (r : Reading) : Except UsageError Reading :=
  let done := { r with pending := none }
  match r.pending with
  | none => .ok done
  | some (.option o none) => .error (.missingValue o.label)
  | some (.option o (some value)) => done.setValue o value
  | some (.file path) =>
    if path = "" then .error (.missingValue fileLabel) else .ok { done with file := some path }

/-- The reading with an option, and its value if that is attached. -/
def takeOption (r : Reading) (o : Opt) (attached : Option String) : Except UsageError Reading :=
  match o, attached with
  | .json, some value => .error (.unexpectedValue value .json)
  | .help, some value => .error (.unexpectedValue value .help)
  | .json, none => do
    let r ← r.settle
    if r.json then .error (.repeated .json) else .ok { r with json := true }
  | .help, none => do
    let _ ← r.settle
    .error (.help true)
  | o, some value => do (← r.settle).setValue o value
  | o, none => do
    let r ← r.settle
    .ok { r with pending := some (.option o none) }

/-- The reading with an argument that begins with two dashes; the dashes are left out. -/
def takeLong (scope : Scope) (r : Reading) (argument : String) : Except UsageError Reading :=
  let name := String.ofList (argument.toList.takeWhile (· != '='))
  let attached := match argument.toList.dropWhile (· != '=') with
    | [] => none
    | _ :: value => some (String.ofList value)
  match scope.long? name with
  | some o => r.takeOption o attached
  | none => .error (.unexpectedArgument ("--" ++ name))

/-- The reading with an argument that begins with one dash and then the given letter. Nothing is
read behind the letter that asks for help. -/
def takeShort (scope : Scope) (r : Reading) (letter : Char) (attached : List Char) :
    Except UsageError Reading :=
  match scope.short? letter with
  | some .help => r.takeOption .help none
  | some o =>
    let value := match attached with
      | [] => none
      | '=' :: value => some (String.ofList value)
      | value => some (String.ofList value)
    r.takeOption o value
  | none => .error (.unexpectedArgument (String.ofList ['-', letter]))

/-- The reading with an argument that is no option: the value of the option before it, or the
file. -/
def takeWord (r : Reading) (argument : String) : Except UsageError Reading :=
  match r.pending with
  | some (.option o none) => .ok { r with pending := some (.option o (some argument)) }
  | _ =>
    if r.hasFile then .error (.unexpectedArgument argument)
    else do
      let r ← r.settle
      .ok { r with pending := some (.file argument), hasFile := true }

/-- The arguments of a subcommand. After `--`, as `plain` says, all are words. -/
def takeAll (scope : Scope) (r : Reading) (plain : Bool) : List String → Except UsageError Reading
  | [] => r.settle
  | argument :: rest =>
    if plain then
      if r.hasFile then .error (.unexpectedArgument argument)
      else
        match r.settle with
        | .error e => .error e
        | .ok r =>
          takeAll scope { r with pending := some (.file argument), hasFile := true } true rest
    else
      match argument.toList with
      | ['-', '-'] => takeAll scope r true rest
      | '-' :: '-' :: _ =>
        match r.takeLong scope (String.ofList (argument.toList.drop 2)) with
        | .error e => .error e
        | .ok r => takeAll scope r false rest
      | '-' :: letter :: attached =>
        match r.takeShort scope letter attached with
        | .error e => .error e
        | .ok r => takeAll scope r false rest
      | _ =>
        match r.takeWord argument with
        | .error e => .error e
        | .ok r => takeAll scope r false rest

/-- What a subcommand is to do. -/
def action (r : Reading) (scope : Scope) : Except UsageError Action :=
  match r.file with
  | none => .error .missingFile
  | some file => .ok (if scope = .evaluate then .evaluate file r.rows r.sizes else .parse file)

end Reading

open Reading

/-- The subcommand and its arguments, after what was read before it. -/
def ofSubcommand (r : Reading) (scope : Scope) (rest : List String) : Except UsageError Arguments := do
  let inner ← takeAll scope {} false rest
  let action ← inner.action scope
  let r ← r.settle
  .ok { config := inner.config.or r.config, json := inner.json || r.json, action }

/-- The end of the arguments without a subcommand. -/
def withoutSubcommand (r : Reading) : Except UsageError Arguments := do
  let r ← r.settle
  if r.config.isSome || r.json then .error .missingSubcommand else .error (.help false)

/-- What the subcommand `help` says: it takes the name of a subcommand, itself included, and
subcommands have none of their own. -/
def help (topic : List String) : UsageError :=
  match topic with
  | [] => .help true
  | name :: rest =>
    if (Scope.ofName? name).isNone ∧ name ≠ "help" then .unknownSubcommand name
    else
      match rest with
      | [] => .help true
      | name :: _ => .unknownSubcommand name

/-- The program's own arguments, up to the subcommand and beyond. After `--`, as `plain` says, there
is no subcommand any more. -/
def takeProgram (r : Reading) (plain : Bool) : List String → Except UsageError Arguments
  | [] => withoutSubcommand r
  | argument :: rest =>
    if plain then
      if (Scope.ofName? argument).isSome || argument == "help" then
        .error (.unexpectedArgument argument)
      else .error (.unknownSubcommand argument)
    else if r.isWaiting && !(argument.toList.head? == some '-' && argument != "-") then
      match r.takeWord argument with
      | .error e => .error e
      | .ok r => takeProgram r false rest
    else
      match Scope.ofName? argument, argument.toList with
      | some scope, _ => ofSubcommand r scope rest
      | none, ['-', '-'] => takeProgram r true rest
      | none, '-' :: '-' :: _ =>
        match r.takeLong .program (String.ofList (argument.toList.drop 2)) with
        | .error e => .error e
        | .ok r => takeProgram r false rest
      | none, '-' :: letter :: attached =>
        match r.takeShort .program letter attached with
        | .error e => .error e
        | .ok r => takeProgram r false rest
      | none, _ =>
        if argument = "help" then .error (help rest) else .error (.unknownSubcommand argument)

/-- The arguments of the program. -/
def parse (arguments : List String) : Except UsageError Arguments := takeProgram {} false arguments

end Arguments

end PartitionSize
