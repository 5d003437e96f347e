import TransportViz.Collect.DataSharingFiles
import TransportViz.Collect.Placeless
import TransportViz.Collect.SavedKinds
import TransportViz.Collect.SavedView
import TransportViz.Collect.ViewFilters
import TransportViz.Csv.Render
import TransportViz.Decision.ActionTypes
import TransportViz.Decision.Classify
import TransportViz.Decision.CompanionLinks
import TransportViz.Decision.Companions
import TransportViz.Decision.Completeness
import TransportViz.Decision.DiscoveryServers
import TransportViz.Decision.DisplayRows
import TransportViz.Decision.Documented
import TransportViz.Decision.Fresh
import TransportViz.Decision.OneProcess
import TransportViz.Decision.Partition
import TransportViz.Decision.Predict
import TransportViz.Decision.RowConservation
import TransportViz.Decision.RowEntries
import TransportViz.Decision.RowKinds
import TransportViz.Decision.RowTypes
import TransportViz.Decision.Rules
import TransportViz.Decision.Selected
import TransportViz.Decision.Summarize
import TransportViz.Decision.VerdictShape
import TransportViz.Decision.WholeActions
import TransportViz.Diff.Exact
import TransportViz.Diff.Identity
import TransportViz.Diff.NodeKey
import TransportViz.Diff.Presence
import TransportViz.Diff.Restart
import TransportViz.Diff.Snapshots
import TransportViz.Json.Comparison
import TransportViz.Json.Identifiers
import TransportViz.Json.Integers
import TransportViz.Json.Parse
import TransportViz.Json.Produced
import TransportViz.Json.RoundTrip
import TransportViz.Json.Rows
import TransportViz.Json.Saved
import TransportViz.Json.SecondRound
import TransportViz.Library.Buckets
import TransportViz.Library.Cabinet
import TransportViz.Library.CodeUnits
import TransportViz.Library.Csv
import TransportViz.Library.Delimited
import TransportViz.Library.GroupSums
import TransportViz.Library.InPlace
import TransportViz.Library.InsertionMap
import TransportViz.Library.IntegerFields
import TransportViz.Library.JsonReader
import TransportViz.Library.KeyedDiff
import TransportViz.Library.LastWrite
import TransportViz.Library.Lines
import TransportViz.Library.MapDiff
import TransportViz.Library.OrderedMap
import TransportViz.Library.Ranking
import TransportViz.Library.Regex
import TransportViz.Library.Script
import TransportViz.Library.SlotArray
import TransportViz.Library.TimedCell
import TransportViz.Library.Words
import TransportViz.Live.Delivery
import TransportViz.Live.Reconnects
import TransportViz.Live.Restarts
import TransportViz.Live.Stream
import TransportViz.Live.Tracker
import TransportViz.Model.NodeNameTable
import TransportViz.Model.RosNames
import TransportViz.Model.Text
import TransportViz.Model.Types
import TransportViz.Observer.LatencyGaps
import TransportViz.Observer.LatencyWindow
import TransportViz.Observer.RateWindow
import TransportViz.Replay.Aligned
import TransportViz.Replay.Bounded
import TransportViz.Replay.DropBound
import TransportViz.Replay.LineSplitter
import TransportViz.Replay.LiveHistory
import TransportViz.Replay.Recording
import TransportViz.Replay.Written
import TransportViz.Shm.PortViews
import TransportViz.Shm.Scan
import TransportViz.Shm.Visibility
import TransportViz.Stats.Aggregates
import TransportViz.Stats.Branches
import TransportViz.Stats.Evidence
import TransportViz.Stats.FilterOrder
import TransportViz.Stats.FilteredTopics
import TransportViz.Stats.FoldedDeliveries
import TransportViz.Stats.LossNumbers
import TransportViz.Stats.LossVerdict
import TransportViz.Stats.MeasurablePairs
import TransportViz.Stats.Measure
import TransportViz.Stats.MeasuredVerdicts
import TransportViz.Stats.NodeFilter
import TransportViz.Stats.OrderIndependence
import TransportViz.Stats.Overlay
import TransportViz.Stats.Settle
import TransportViz.Stats.TopicTotals
import TransportViz.Stats.TrueParents
import TransportViz.Stats.Unserved
import TransportViz.Stats.Walk
import TransportViz.Stats.WordCounters
import TransportViz.Table.Ghosts
import TransportViz.Table.Lines
import TransportViz.Watch.Cells
import TransportViz.Watch.Decorations
import TransportViz.Watch.Highlights
import TransportViz.Watch.State
import TransportViz.Web.Agreement
import TransportViz.Web.DiffDocuments
import TransportViz.Web.Document
import TransportViz.Web.Hold
import TransportViz.Web.HoldAgreement
import TransportViz.Web.Identities
import TransportViz.Web.Reading
import TransportViz.Web.WellFormed
import TransportViz.Model.Remangling
import TransportViz.Collect.SegmentNames
import TransportViz.Library.Runs
import TransportViz.Replay.FrameValues
import TransportViz.Library.HiddenRuns
import TransportViz.Table.Truncate
import TransportViz.Decision.Explanations
import TransportViz.Web.ReasonCodes
import TransportViz.Library.Exposition
import TransportViz.Library.Python
import TransportViz.Stats.DistinctCodes
import TransportViz.Web.Metrics
import TransportViz.Web.MetricSeries
import TransportViz.Collect.Observation
import TransportViz.Collect.ObservedRuns
import TransportViz.Observer.WaitLoop
import TransportViz.Collect.RenamedView
import TransportViz.Diff.RunDiff
import TransportViz.Library.EncodedLines
import TransportViz.Live.Pump
import TransportViz.Replay.Frames
import TransportViz.Replay.Interrupted
