import FeatureFlags.Attribute
import FeatureFlags.Benchmark.Percentiles
import FeatureFlags.Benchmark.Report
import FeatureFlags.Benchmark.Run
import FeatureFlags.Calendar.Date
import FeatureFlags.Calendar.Lenient
import FeatureFlags.Calendar.Moment
import FeatureFlags.Calendar.Stamp
import FeatureFlags.Command.Arguments
import FeatureFlags.Command.Request
import FeatureFlags.Command.Run
import FeatureFlags.Command.Scene
import FeatureFlags.Command.Session
import FeatureFlags.Condition.Basic
import FeatureFlags.Condition.Check
import FeatureFlags.Condition.Evaluate
import FeatureFlags.Condition.Stored
import FeatureFlags.Context.Basic
import FeatureFlags.Context.Builder
import FeatureFlags.Datum.Basic
import FeatureFlags.Datum.Digits
import FeatureFlags.Datum.Literal
import FeatureFlags.Decision
import FeatureFlags.Engine.Basic
import FeatureFlags.Engine.Serving
import FeatureFlags.Evaluation
import FeatureFlags.Event
import FeatureFlags.Failure
import FeatureFlags.Fault
import FeatureFlags.Field.Basic
import FeatureFlags.Field.Checked
import FeatureFlags.Field.Issue
import FeatureFlags.Field.Number
import FeatureFlags.Files.Directory
import FeatureFlags.Files.Path
import FeatureFlags.Files.Text
import FeatureFlags.Flag.Basic
import FeatureFlags.Flag.State
import FeatureFlags.Flag.Value
import FeatureFlags.Json.Reader
import FeatureFlags.Json.Writer
import FeatureFlags.Log.Journal
import FeatureFlags.Log.Layout
import FeatureFlags.Log.Record
import FeatureFlags.Log.RotatingFile
import FeatureFlags.Log.Scale
import FeatureFlags.Log.Template
import FeatureFlags.Main
import FeatureFlags.Number.Double
import FeatureFlags.Number.Fixed
import FeatureFlags.Number.Shortest
import FeatureFlags.OrderedMap
import FeatureFlags.Pattern.Cache
import FeatureFlags.Pattern.Fault
import FeatureFlags.Pattern.Match
import FeatureFlags.Pattern.Parts
import FeatureFlags.Pattern.Reader
import FeatureFlags.Pattern.Source
import FeatureFlags.Pattern.Term
import FeatureFlags.Percentage
import FeatureFlags.Rollout
import FeatureFlags.Rule.Basic
import FeatureFlags.Rule.Selection
import FeatureFlags.Segment.Basic
import FeatureFlags.Settings
import FeatureFlags.Snapshot.Basic
import FeatureFlags.Snapshot.Build
import FeatureFlags.Snapshot.Check
import FeatureFlags.Snapshot.Document
import FeatureFlags.Snapshot.Load
import FeatureFlags.Terminal.Markup
import FeatureFlags.Terminal.Style
import FeatureFlags.Terminal.Table
import FeatureFlags.Terminal.Wrap
import FeatureFlags.Text.Digits
import FeatureFlags.Text.Likeness
import FeatureFlags.Text.Place
import FeatureFlags.Text.Quoted
import FeatureFlags.Text.TextSet
import FeatureFlags.Text.Utf8
import FeatureFlags.Toml.Reader
import FeatureFlags.Toml.Scalar
import FeatureFlags.Toml.Table
import FeatureFlags.Unicode.Alphanumeric
import FeatureFlags.Unicode.Case
import FeatureFlags.Unicode.CharSet
import FeatureFlags.Unicode.Decimal
import FeatureFlags.Unicode.Identifier
import FeatureFlags.Unicode.Names
import FeatureFlags.Unicode.Printable
import FeatureFlags.Unicode.Width
import FeatureFlags.Proofs.OrderedMap
import FeatureFlags.Proofs.Outcome
import FeatureFlags.Proofs.Snapshot.Consistency
import FeatureFlags.Proofs.Snapshot.Building
import FeatureFlags.Proofs.Evaluation.Totality
import FeatureFlags.Proofs.Evaluation.TypeSoundness
import FeatureFlags.Proofs.Evaluation.Commitment
import FeatureFlags.Proofs.Evaluation.MixedMoments
import FeatureFlags.Proofs.Evaluation.Planned
import FeatureFlags.Proofs.Rule.Verdict
import FeatureFlags.Proofs.Rule.Order
import FeatureFlags.Proofs.Rule.Precedence
import FeatureFlags.Proofs.Rule.Widening
import FeatureFlags.Proofs.Number.Rounding
import FeatureFlags.Proofs.Json.Numerals
import FeatureFlags.Proofs.Json.Numbers
import FeatureFlags.Proofs.Json.Documents
import FeatureFlags.Proofs.Calendar.DocumentText
import FeatureFlags.Proofs.Datum.Plain
import FeatureFlags.Proofs.Datum.Digits
import FeatureFlags.Proofs.Json.Plain
import FeatureFlags.Proofs.Toml.Plain
import FeatureFlags.Proofs.Field.Checked
import FeatureFlags.Proofs.Field.Sources
import FeatureFlags.Proofs.Field.Number
import FeatureFlags.Proofs.Calendar.Reading
import FeatureFlags.Proofs.Snapshot.Fields
import FeatureFlags.Proofs.Snapshot.Documented
import FeatureFlags.Proofs.Evaluation.Order
import FeatureFlags.Proofs.Snapshot.Faithful
import FeatureFlags.Proofs.Snapshot.ReadBack
import FeatureFlags.Proofs.Snapshot.Writable
import FeatureFlags.Proofs.Snapshot.RoundTrip
import FeatureFlags.Proofs.Evaluation.Widening
import FeatureFlags.Proofs.Engine.Offers
import FeatureFlags.Proofs.Engine.Discipline
import FeatureFlags.Proofs.Evaluation.Footprint
import FeatureFlags.Proofs.Evaluation.Locality
import FeatureFlags.Proofs.Evaluation.Explanation
import FeatureFlags.Proofs.Field.Failures
import FeatureFlags.Proofs.Snapshot.CheckErrors
import FeatureFlags.Proofs.Snapshot.Obstacles
import FeatureFlags.Proofs.Snapshot.Taxonomy
import FeatureFlags.Proofs.Evaluation.EqualContexts
import FeatureFlags.Proofs.Engine.Traces
import FeatureFlags.Proofs.Engine.VersionTag
import FeatureFlags.Proofs.Engine.Listeners
import FeatureFlags.Proofs.Engine.Sweep
import FeatureFlags.Proofs.Field.Variation
import FeatureFlags.Proofs.Snapshot.Rearranged
import FeatureFlags.Proofs.Snapshot.Order
import FeatureFlags.Proofs.Rollout.Sites
import FeatureFlags.Proofs.Engine.EntryPoints
import FeatureFlags.Proofs.Number.Order
import FeatureFlags.Proofs.Condition.Numbers
import FeatureFlags.Proofs.Engine.Instants
import FeatureFlags.Proofs.Engine.Readings
import FeatureFlags.Proofs.Condition.Meaning
import FeatureFlags.Proofs.Condition.Validation
import FeatureFlags.Proofs.Rule.Targeting
import FeatureFlags.Proofs.Context.Reading
import FeatureFlags.Proofs.Context.Merging
import FeatureFlags.Proofs.Context.Replay
import FeatureFlags.Proofs.Context.Refusals
import FeatureFlags.Proofs.Pattern.Recency
import FeatureFlags.Proofs.Pattern.Store
import FeatureFlags.Proofs.Condition.Stored
import FeatureFlags.Proofs.Json.Printable
import FeatureFlags.Proofs.Log.Lines
import FeatureFlags.Proofs.Field.Issues
import FeatureFlags.Proofs.Settings.Fields
import FeatureFlags.Proofs.Settings.Loading
import FeatureFlags.Proofs.Settings.Overrides
