import PartitionSize.Main
import PartitionSize.Files.Tree
import PartitionSize.Statement.OnePass
import PartitionSize.Statement.Grammar
import PartitionSize.Token.Zipper
import PartitionSize.Token.Slice
import PartitionSize.Trace.Pattern
import PartitionSize.Proofs.Token.Simulation
import PartitionSize.Proofs.Token.Slices
import PartitionSize.Proofs.Statement.Refinement
import PartitionSize.Proofs.Statement.Declared
import PartitionSize.Proofs.Statement.Phrase
import PartitionSize.Proofs.Statement.Sentence
import PartitionSize.Proofs.Statement.Leftmost
import PartitionSize.Proofs.Statement.Lookahead
import PartitionSize.Proofs.Statement.RunsOut
import PartitionSize.Proofs.Statement.Cut
import PartitionSize.Proofs.Schema.Sound
import PartitionSize.Proofs.Estimation.Exact
import PartitionSize.Proofs.Schema.Bare
import PartitionSize.Proofs.Schema.Split
import PartitionSize.Proofs.Schema.Sizes
import PartitionSize.Proofs.Schema.Reordering
import PartitionSize.Proofs.Estimation.Sensitivity
import PartitionSize.Proofs.Schema.TypeNames
import PartitionSize.Proofs.Command.Evaluate
import PartitionSize.Proofs.Quantity.Written
import PartitionSize.Proofs.Command.Outcomes
import PartitionSize.Proofs.Quantity.RoundTrip
import PartitionSize.Proofs.Report.Units
import PartitionSize.Proofs.Command.Warnings
import PartitionSize.Proofs.Report.Table
import PartitionSize.Proofs.Report.Unambiguous
import PartitionSize.Proofs.Statement.Trial
import PartitionSize.Proofs.Report.Grouping
import PartitionSize.Proofs.Settings.Directives
