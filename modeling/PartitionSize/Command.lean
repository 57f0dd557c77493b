import PartitionSize.Files
import PartitionSize.Report.SchemaJson
import PartitionSize.Report.SchemaText
import PartitionSize.Trace

/-!
# Commands

A command gets the path of a schema file and what reading it gave, and computes a report: the text
or the error to print, and the events on the way, in order. It does nothing else, so that what is
traced and what is printed can be reasoned about together. Where the text is a table that cannot be
printed, there is none, and the program ends at that.
-/

namespace PartitionSize

/-- What a command has to say. -/
structure Report (ε : Type) where
  events : List Trace.Event := []
  result : Except ε (Option String)

namespace Report

/-- The report with events in front. -/
def after {ε : Type} (events : List Trace.Event) (r : Report ε) : Report ε :=
  { r with events := events ++ r.events }

end Report

/-- The error of a file that cannot be read. -/
def unreadable (path : String) (e : FileError) : String :=
  "unable to read " ++ path ++ ": " ++ e.message

end PartitionSize
