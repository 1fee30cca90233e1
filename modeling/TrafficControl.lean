import TrafficControl.Ascending
import TrafficControl.Call.Basic
import TrafficControl.Call.Inquiry
import TrafficControl.Call.RateLimit
import TrafficControl.Call.Routing
import TrafficControl.Checked
import TrafficControl.Circuit.Basic
import TrafficControl.Circuit.Gate
import TrafficControl.Client.Basic
import TrafficControl.Client.Registry
import TrafficControl.Config.Basic
import TrafficControl.Config.File
import TrafficControl.Config.Form
import TrafficControl.Config.Url
import TrafficControl.Decimal.Basic
import TrafficControl.Decimal.Round
import TrafficControl.Decimal.Shortest
import TrafficControl.Dispatcher.Basic
import TrafficControl.Dispatcher.Lane
import TrafficControl.Document.Basic
import TrafficControl.Document.Json
import TrafficControl.Document.Mismatch
import TrafficControl.Document.Reader
import TrafficControl.Double
import TrafficControl.Failure
import TrafficControl.Instance.Basic
import TrafficControl.Instance.Form
import TrafficControl.Json.Basic
import TrafficControl.Json.Compare
import TrafficControl.Json.Number
import TrafficControl.Json.Printer
import TrafficControl.Json.Reader
import TrafficControl.Label
import TrafficControl.LabelCache
import TrafficControl.Naming.Basic
import TrafficControl.Naming.Discovery
import TrafficControl.Narrowed
import TrafficControl.Proofs.Call.Availability
import TrafficControl.Proofs.Call.CachedLabels
import TrafficControl.Proofs.Call.LabelLifetime
import TrafficControl.Proofs.Call.Limiting
import TrafficControl.Proofs.Circuit.Eligibility
import TrafficControl.Proofs.Client.NestedLoads
import TrafficControl.Proofs.Client.Sharing
import TrafficControl.Proofs.Config.ClientKey
import TrafficControl.Proofs.Config.UrlFields
import TrafficControl.Proofs.Config.WrittenUrl
import TrafficControl.Proofs.Decimal.Numeral
import TrafficControl.Proofs.Dispatcher.Reliability
import TrafficControl.Proofs.Dispatcher.Schedule
import TrafficControl.Proofs.Document.Loosening
import TrafficControl.Proofs.Document.RoundTrip
import TrafficControl.Proofs.Instance.CircuitText
import TrafficControl.Proofs.Json.ArrayText
import TrafficControl.Proofs.Label.Arguments
import TrafficControl.Proofs.Label.RuleLabels
import TrafficControl.Proofs.Naming.Cancellation
import TrafficControl.Proofs.Query.Agreement
import TrafficControl.Proofs.Query.Canonical
import TrafficControl.Proofs.Query.Counting
import TrafficControl.Proofs.Query.PlainPath
import TrafficControl.Proofs.Query.Segments
import TrafficControl.Proofs.Query.StructuralWalk
import TrafficControl.Proofs.Retry.Delays
import TrafficControl.Proofs.Selection.Shares
import TrafficControl.Proofs.Text.ByteOrder
import TrafficControl.Proofs.Text.Percent
import TrafficControl.Proofs.Text.Scan
import TrafficControl.Proofs.Topology.Coherent
import TrafficControl.Proofs.Topology.Delivery
import TrafficControl.Proofs.Topology.Destruction
import TrafficControl.Proofs.Topology.Effects
import TrafficControl.Proofs.Topology.Feed
import TrafficControl.Proofs.Topology.Freshness
import TrafficControl.Proofs.Topology.Numbered
import TrafficControl.Proofs.Topology.Registering
import TrafficControl.Proofs.Topology.Retrying
import TrafficControl.Proofs.Topology.Roster
import TrafficControl.Proofs.Topology.Run
import TrafficControl.Proofs.Topology.Silence
import TrafficControl.Proofs.Topology.Step
import TrafficControl.Proofs.Topology.Stranding
import TrafficControl.Proofs.Topology.WatchAlternation
import TrafficControl.Proofs.Topology.WatchLedger.Balance
import TrafficControl.Proofs.Topology.Watching
import TrafficControl.Proofs.Url.Parameters
import TrafficControl.Proofs.Value.JsonForm
import TrafficControl.Proofs.Value.Normal
import TrafficControl.Query.JsonPath.Basic
import TrafficControl.Query.JsonPath.Eval
import TrafficControl.Query.JsonPath.Reader
import TrafficControl.Query.Param
import TrafficControl.Query.Resolver
import TrafficControl.Query.Walk
import TrafficControl.Retry
import TrafficControl.Rule.Basic
import TrafficControl.Rule.Form
import TrafficControl.Selection
import TrafficControl.Service.Basic
import TrafficControl.Service.Form
import TrafficControl.Simulation.Agenda
import TrafficControl.Simulation.Backend
import TrafficControl.Simulation.Naming
import TrafficControl.Simulation.Script
import TrafficControl.Simulation.Session
import TrafficControl.Simulation.Sharing
import TrafficControl.Simulation.Tasks
import TrafficControl.Span
import TrafficControl.Table
import TrafficControl.Text.Blank
import TrafficControl.Text.CharClass
import TrafficControl.Text.Hidden
import TrafficControl.Text.Lower
import TrafficControl.Text.Pattern
import TrafficControl.Text.Percent
import TrafficControl.Text.Quoted
import TrafficControl.Text.Split
import TrafficControl.Text.Utf8
import TrafficControl.Text.Word
import TrafficControl.Toml.Reader
import TrafficControl.Toml.Scalar
import TrafficControl.Toml.Strings
import TrafficControl.Toml.Table
import TrafficControl.Toml.Time
import TrafficControl.Topology.Basic
import TrafficControl.Topology.Closing
import TrafficControl.Topology.Lanes
import TrafficControl.Topology.Listening
import TrafficControl.Url
import TrafficControl.Value
import TrafficControl.Yaml.Anchor
import TrafficControl.Yaml.Cursor
import TrafficControl.Yaml.Fold
import TrafficControl.Yaml.Node
import TrafficControl.Yaml.Reader
import TrafficControl.Yaml.Resolution
import TrafficControl.Yaml.Schema
import TrafficControl.Yaml.Text
import TrafficControl.Yaml.Token
import TrafficControl.Yaml.Token.Mark
import TrafficControl.Yaml.Token.Reader
