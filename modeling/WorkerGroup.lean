import WorkerGroup.Annotations
import WorkerGroup.Bootstrap.KubeletArguments
import WorkerGroup.Bootstrap.Labels
import WorkerGroup.Bootstrap.Parameters
import WorkerGroup.Bootstrap.Payload
import WorkerGroup.Bootstrap.PodCapacity
import WorkerGroup.Cluster
import WorkerGroup.Collaborators
import WorkerGroup.CommandLine.Arguments
import WorkerGroup.CommandLine.Help
import WorkerGroup.CommandLine.Item
import WorkerGroup.CommandLine.Run
import WorkerGroup.Discovered
import WorkerGroup.Failure
import WorkerGroup.Fixture
import WorkerGroup.GroupName
import WorkerGroup.InstanceGroup
import WorkerGroup.InstanceGroup.Decode
import WorkerGroup.InstanceGroup.Encode
import WorkerGroup.Instant
import WorkerGroup.Instant.Text
import WorkerGroup.Json
import WorkerGroup.Json.Parser
import WorkerGroup.Json.Printer
import WorkerGroup.LaunchConfiguration
import WorkerGroup.Main
import WorkerGroup.Manifest
import WorkerGroup.Metrics
import WorkerGroup.NodeRole
import WorkerGroup.Offering
import WorkerGroup.OsFamily
import WorkerGroup.OsFamily.Resolution
import WorkerGroup.Pass
import WorkerGroup.Pass.Step
import WorkerGroup.Pool
import WorkerGroup.Pool.SubFamily
import WorkerGroup.Proofs.Bootstrap.Data
import WorkerGroup.Proofs.Bootstrap.Documents
import WorkerGroup.Proofs.Bootstrap.KubeletArguments
import WorkerGroup.Proofs.Bootstrap.Labels
import WorkerGroup.Proofs.Bootstrap.PodCapacity
import WorkerGroup.Proofs.Bootstrap.Shape
import WorkerGroup.Proofs.Bootstrap.Stages
import WorkerGroup.Proofs.Bootstrap.Streams
import WorkerGroup.Proofs.CommandLine.Loading
import WorkerGroup.Proofs.CommandLine.Outputs
import WorkerGroup.Proofs.Discovered.RoundTrip
import WorkerGroup.Proofs.GroupName.Key
import WorkerGroup.Proofs.InstanceGroup.Manifest
import WorkerGroup.Proofs.Instant.RoundTrip
import WorkerGroup.Proofs.Instant.Seconds
import WorkerGroup.Proofs.Json.RoundTrip
import WorkerGroup.Proofs.LaunchConfiguration.Naming
import WorkerGroup.Proofs.LaunchConfiguration.Pruning
import WorkerGroup.Proofs.LaunchConfiguration.Stability
import WorkerGroup.Proofs.OsFamily.Resolution
import WorkerGroup.Proofs.Pass.DefaultNamespace
import WorkerGroup.Proofs.Pass.FamilyCache
import WorkerGroup.Proofs.Pass.FamilyDiagnostic
import WorkerGroup.Proofs.Pass.Fixed
import WorkerGroup.Proofs.Pass.HandedBack
import WorkerGroup.Proofs.Pass.Moments
import WorkerGroup.Proofs.Pass.Queries
import WorkerGroup.Proofs.Pass.RequestedPool
import WorkerGroup.Proofs.Pass.Snapshot
import WorkerGroup.Proofs.Pass.StateReports
import WorkerGroup.Proofs.Pass.Transition
import WorkerGroup.Proofs.Pool.Alike
import WorkerGroup.Proofs.Pool.Arrangement
import WorkerGroup.Proofs.Pool.Classes
import WorkerGroup.Proofs.Pool.Members
import WorkerGroup.Proofs.Pool.Repeated
import WorkerGroup.Proofs.Pool.SubFamily
import WorkerGroup.Proofs.ResourceNames.Root
import WorkerGroup.Proofs.ResourceNames.Words
import WorkerGroup.Proofs.Schema.RoundTrip
import WorkerGroup.Proofs.Settings.Numbers
import WorkerGroup.Proofs.StateGauge.History
import WorkerGroup.Proofs.StateGauge.Text
import WorkerGroup.Proofs.Table.Entries
import WorkerGroup.Proofs.Table.Lookup
import WorkerGroup.Proofs.Tags.Keys
import WorkerGroup.Proofs.Tags.NodeTemplate
import WorkerGroup.Proofs.Text.AsciiCase
import WorkerGroup.Proofs.Text.Octets
import WorkerGroup.Proofs.Text.Pieces
import WorkerGroup.ReconcileState
import WorkerGroup.Report
import WorkerGroup.ResourceNames
import WorkerGroup.Schema.Dialect
import WorkerGroup.Schema.Json
import WorkerGroup.Schema.Yaml
import WorkerGroup.Settings
import WorkerGroup.Table
import WorkerGroup.Tags
import WorkerGroup.Text.AsciiCase
import WorkerGroup.Text.Base64
import WorkerGroup.Text.Blank
import WorkerGroup.Text.Decimal
import WorkerGroup.Text.Hexadecimal
import WorkerGroup.Text.Printable
import WorkerGroup.Text.Quoted
import WorkerGroup.UpgradeStrategy
import WorkerGroup.Warning
import WorkerGroup.Warning.Event
import WorkerGroup.Yaml.Chars
import WorkerGroup.Yaml.Directive
import WorkerGroup.Yaml.Document
import WorkerGroup.Yaml.Flow
import WorkerGroup.Yaml.Graph
import WorkerGroup.Yaml.Node
import WorkerGroup.Yaml.Plain
import WorkerGroup.Yaml.Property
import WorkerGroup.Yaml.Scalar
