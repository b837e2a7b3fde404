import NodeFeatureOperator.Api.Document
import NodeFeatureOperator.Api.Message
import NodeFeatureOperator.Api.Path
import NodeFeatureOperator.Api.Session
import NodeFeatureOperator.Backoff
import NodeFeatureOperator.Cluster
import NodeFeatureOperator.CommandLine
import NodeFeatureOperator.Component
import NodeFeatureOperator.Condition
import NodeFeatureOperator.Convergence
import NodeFeatureOperator.Decimal.Shortest
import NodeFeatureOperator.Desired
import NodeFeatureOperator.Duration
import NodeFeatureOperator.Error
import NodeFeatureOperator.Finalizer
import NodeFeatureOperator.Health
import NodeFeatureOperator.Instance
import NodeFeatureOperator.Json.Basic
import NodeFeatureOperator.Json.Merge
import NodeFeatureOperator.Json.Text
import NodeFeatureOperator.Key
import NodeFeatureOperator.Kind
import NodeFeatureOperator.Main
import NodeFeatureOperator.Metadata
import NodeFeatureOperator.Metrics
import NodeFeatureOperator.Moment
import NodeFeatureOperator.Object
import NodeFeatureOperator.Operator
import NodeFeatureOperator.Prune
import NodeFeatureOperator.Registry
import NodeFeatureOperator.Resource
import NodeFeatureOperator.ResourceDefinition
import NodeFeatureOperator.Schema.Basic
import NodeFeatureOperator.Schema.Container
import NodeFeatureOperator.Schema.Metadata
import NodeFeatureOperator.Schema.Pod
import NodeFeatureOperator.Schema.Resource
import NodeFeatureOperator.Schema.Volume
import NodeFeatureOperator.Settings
import NodeFeatureOperator.Startup
import NodeFeatureOperator.Status
import NodeFeatureOperator.Store
import NodeFeatureOperator.Table
import NodeFeatureOperator.Teardown
import NodeFeatureOperator.Template.Basic
import NodeFeatureOperator.Template.GarbageCollector
import NodeFeatureOperator.Template.Master
import NodeFeatureOperator.Template.Prune
import NodeFeatureOperator.Template.TopologyUpdater
import NodeFeatureOperator.Template.Worker
import NodeFeatureOperator.Text.Base64
import NodeFeatureOperator.Text.Blank
import NodeFeatureOperator.Text.Invisible
import NodeFeatureOperator.Text.Quoted
import NodeFeatureOperator.Yaml.Cursor
import NodeFeatureOperator.Yaml.Node
import NodeFeatureOperator.Yaml.Printer
import NodeFeatureOperator.Yaml.Scalar
import NodeFeatureOperator.Yaml.Token
import NodeFeatureOperator.Yaml.Value
import NodeFeatureOperator.Proofs.Effect
import NodeFeatureOperator.Proofs.Table
import NodeFeatureOperator.Proofs.Documents
import NodeFeatureOperator.Proofs.Identity
import NodeFeatureOperator.Proofs.Cluster.Objects
import NodeFeatureOperator.Proofs.Cluster.Instances
import NodeFeatureOperator.Proofs.Convergence
import NodeFeatureOperator.Proofs.Prune
import NodeFeatureOperator.Proofs.Teardown
import NodeFeatureOperator.Proofs.Operator
import NodeFeatureOperator.Proofs.Run
import NodeFeatureOperator.Proofs.Sharing
import NodeFeatureOperator.Proofs.Accounting
import NodeFeatureOperator.Proofs.Orphans
import NodeFeatureOperator.Proofs.Departure
import NodeFeatureOperator.Proofs.Lifecycle
import NodeFeatureOperator.Proofs.Footprint
import NodeFeatureOperator.Proofs.Merge
import NodeFeatureOperator.Proofs.NormalForm
import NodeFeatureOperator.Proofs.WellFormed
import NodeFeatureOperator.Proofs.Calendar
import NodeFeatureOperator.Proofs.Decoding
import NodeFeatureOperator.Proofs.Overlay
import NodeFeatureOperator.Proofs.Rendering
import NodeFeatureOperator.Proofs.Applying
import NodeFeatureOperator.Proofs.Deploying
import NodeFeatureOperator.Proofs.Reporting
import NodeFeatureOperator.Proofs.Reconciliation
import NodeFeatureOperator.Proofs.Resumption
import NodeFeatureOperator.Proofs.Yielding
import NodeFeatureOperator.Proofs.Succession
import NodeFeatureOperator.Proofs.Commutation
import NodeFeatureOperator.Proofs.Ownership
import NodeFeatureOperator.Proofs.SteadyState
import NodeFeatureOperator.Proofs.Custody
import NodeFeatureOperator.Proofs.Pruning
import NodeFeatureOperator.Proofs.Once
import NodeFeatureOperator.Proofs.Remains
import NodeFeatureOperator.Proofs.Granting
import NodeFeatureOperator.Proofs.Permissions
import NodeFeatureOperator.Proofs.Backoff
import NodeFeatureOperator.Proofs.History
import NodeFeatureOperator.Proofs.Cluster.Versions
import NodeFeatureOperator.Proofs.Calls
import NodeFeatureOperator.Proofs.Outcome
import NodeFeatureOperator.Proofs.Transitions
import NodeFeatureOperator.Proofs.FreeDocuments
import NodeFeatureOperator.Proofs.Application
import NodeFeatureOperator.Proofs.Stopping
import NodeFeatureOperator.Proofs.Deletion
import NodeFeatureOperator.Proofs.Timing
import NodeFeatureOperator.Proofs.Retrying
import NodeFeatureOperator.Proofs.NotFound
import NodeFeatureOperator.Proofs.Stages
import NodeFeatureOperator.Proofs.Announcement
import NodeFeatureOperator.Proofs.Overwriting
import NodeFeatureOperator.Proofs.Classification
import NodeFeatureOperator.Proofs.Suppression
import NodeFeatureOperator.Proofs.Survey
import NodeFeatureOperator.Proofs.Control
import NodeFeatureOperator.Proofs.Collection
import NodeFeatureOperator.Proofs.Registry
import NodeFeatureOperator.Proofs.Environment
import NodeFeatureOperator.Proofs.Coverage
