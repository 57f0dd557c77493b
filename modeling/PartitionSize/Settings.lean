import PartitionSize.Quantity.RowCount
import PartitionSize.Quantity.ByteSize

/-!
# Settings

What a settings file can say: default inputs of an estimate, the output format, and what is traced.
Every part has a default.

* `Settings.sizeEstimates` are the sizes in increasing order of the columns' names.
* `LoggingSettings.directives` writes the level and then, in increasing order of their names,
  the levels of the modules; the order they were given in does not show.
-/

namespace PartitionSize

/-- How results, or trace lines, are written. -/
inductive OutputFormat where
  | plain
  | json
deriving Repr, DecidableEq, Inhabited

namespace OutputFormat

/-- The name of a format. -/
def name : OutputFormat → String
  | .plain => "plain"
  | .json => "json"

/-- The format of a name. -/
def ofName? (name : String) : Option OutputFormat :=
  if name = "plain" then some .plain else if name = "json" then some .json else none

end OutputFormat

/-- A list with one more pair, before the first whose name is larger and in place of one with the
same name. -/
def insertByName {α : Type} (name : String) (a : α) : List (String × α) → List (String × α)
  | [] => [(name, a)]
  | (k, b) :: rest =>
    if name < k then (name, a) :: (k, b) :: rest
    else if name = k then (k, a) :: rest
    else (k, b) :: insertByName name a rest

/-- The pairs in increasing order of their names; of two with the same name the later one. -/
def sortByName {α : Type} (pairs : List (String × α)) : List (String × α) :=
  pairs.foldl (fun sorted p => insertByName p.1 p.2 sorted) []

/-- The inputs of an estimate that the command line may replace or add to. -/
structure EstimateSettings where
  rows : RowCount := .one
  /-- Sizes of columns, by name. -/
  sizes : List (String × ByteSize) := []

/-- How results are written. -/
structure OutputSettings where
  format : OutputFormat := .plain

/-- What is traced, and where to. -/
structure LoggingSettings where
  /-- The level of everything that has no level of its own. -/
  level : String := "info"
  /-- Levels of modules, by name. -/
  modules : List (String × String) := []
  /-- A file that gets the trace as well, relative to the settings file. -/
  file : Option String := none
  format : OutputFormat := .plain

/-- All settings. -/
structure Settings where
  estimate : EstimateSettings := {}
  output : OutputSettings := {}
  logging : LoggingSettings := {}

namespace LoggingSettings

/-- The level, and `name=level` for each module, separated by commas. -/
def directives (l : LoggingSettings) : String :=
  ",".intercalate (l.level :: (sortByName l.modules).map fun m => m.1 ++ "=" ++ m.2)

end LoggingSettings

namespace Settings

/-- The sizes of columns as a schema takes them, in increasing order of the names. -/
def sizeEstimates (s : Settings) : List (String × Int) :=
  (sortByName s.estimate.sizes).map fun p => (p.1, (p.2.bytes : Int))

/-- What is wrong with the settings as a whole, if anything is. -/
inductive Invalid where
  | emptyColumnName
  | emptyLevel
deriving Repr, DecidableEq

/-- The text of it. -/
def Invalid.message : Invalid → String
  | .emptyColumnName => "estimate.sizes: empty column name"
  | .emptyLevel => "logging.level must not be empty"

/-- A size needs the name of a column, and the level must not be blank. -/
def invalid? (s : Settings) : Option Invalid :=
  if s.estimate.sizes.any fun p => Text.trim p.1 = "" then some .emptyColumnName
  else if Text.trim s.logging.level = "" then some .emptyLevel
  else none

end Settings

end PartitionSize
