import ScatterGather.Main
import ScatterGather.Text.Width
import ScatterGather.Proofs.Outcome
import ScatterGather.Proofs.Text.Name
import ScatterGather.Proofs.Value.Rank
import ScatterGather.Value.Serial
import ScatterGather.Proofs.Sharding.Target
import ScatterGather.Proofs.Sharding.Derivation
import ScatterGather.Proofs.Route.Coverage
import ScatterGather.Proofs.Sharding.Insertion
import ScatterGather.Proofs.Route.Insertion
import ScatterGather.Proofs.Merge.Queue
import ScatterGather.Proofs.Merge.OrderedStream
import ScatterGather.Proofs.Comparison
import ScatterGather.Proofs.Value.Variant
import ScatterGather.Proofs.Merge.SortKey
import ScatterGather.Proofs.Merge.Cursor
import ScatterGather.Proofs.Merge.Interleaving
import ScatterGather.Proofs.Merge.Pagination
import ScatterGather.Proofs.Value.WholeNumber
import ScatterGather.Proofs.Merge.Accumulator
import ScatterGather.Proofs.Merge.Group
import ScatterGather.Proofs.Merge.GroupAll
import ScatterGather.Proofs.Merge.GroupedStream
import ScatterGather.Proofs.Merge.Agreement
import ScatterGather.Proofs.Merge.Resolution
import ScatterGather.Proofs.Merge.GroupCursor
import ScatterGather.Proofs.Merge.Distribution
import ScatterGather.Proofs.Merge.GroupedPages
import ScatterGather.Proofs.Value.SameNumber
import ScatterGather.Proofs.Text.Numeral
import ScatterGather.Proofs.Sharding.Spelling
import ScatterGather.Proofs.Route.Clause
import ScatterGather.Proofs.Route.Redundancy
import ScatterGather.Proofs.Route.Membership
import ScatterGather.Proofs.Merge.Having
import ScatterGather.Proofs.Merge.Overflow
import ScatterGather.Proofs.Merge.Pattern
import ScatterGather.Proofs.Merge.SharedRows
import ScatterGather.Proofs.Merge.KeptGroups
import ScatterGather.Proofs.ReadWrite.Choice
import ScatterGather.Proofs.ReadWrite.Connection
import ScatterGather.Proofs.Merge.Failure
import ScatterGather.Proofs.Merge.AfterFailure
import ScatterGather.Proofs.Execution.Token
import ScatterGather.Proofs.Execution.Grouping
import ScatterGather.Proofs.Execution.Lexing
import ScatterGather.Proofs.Execution.Window
import ScatterGather.Proofs.Route.Renaming
import ScatterGather.Proofs.Sharding.Snowflake
import ScatterGather.Proofs.Route.Joins
import ScatterGather.Proofs.Settings.DataSources
import ScatterGather.Proofs.Merge.Pipeline
import ScatterGather.Proofs.Merge.Positions
import ScatterGather.Proofs.Session
import ScatterGather.Proofs.Route.LetterCase
import ScatterGather.Proofs.Ties
import ScatterGather.Proofs.Merge.DistinctPages
import ScatterGather.Proofs.Merge.Extreme
import ScatterGather.Proofs.Merge.ArrivalOrder
import ScatterGather.Proofs.Sharding.Partition
import ScatterGather.Proofs.Sharding.RangeTargets
import ScatterGather.Proofs.Route.DeclaredNodes
import ScatterGather.Proofs.Route.Groups
import ScatterGather.Proofs.Route.Alternatives
import ScatterGather.Proofs.Sharding.Timed
import ScatterGather.Proofs.Sharding.Pinning
import ScatterGather.Proofs.Route.OmittedKey
import ScatterGather.Proofs.Route.Reassignment
import ScatterGather.Proofs.Route.Pinned
import ScatterGather.Proofs.Merge.DistinctValues
import ScatterGather.Proofs.Statement.NormalForm
import ScatterGather.Proofs.Merge.Rejection
import ScatterGather.Proofs.Merge.Mean
import ScatterGather.Proofs.Text.Blank
import ScatterGather.Proofs.Inline.Grammar
import ScatterGather.Proofs.Inline.Segments
import ScatterGather.Proofs.Inline.Parsing
import ScatterGather.Proofs.Inline.RoundTrip
import ScatterGather.Proofs.Inline.Choices
import ScatterGather.Proofs.Inline.Lists
import ScatterGather.Proofs.Sharding.ModuloTemplate
import ScatterGather.Proofs.ReadWrite.Turns
import ScatterGather.Proofs.Value.IntegerBounds
import ScatterGather.Proofs.Merge.OneOrder
import ScatterGather.Proofs.Merge.EqualKeys
