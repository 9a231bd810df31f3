import FaultPlane.Agent.Endpoints
import FaultPlane.Agent.SwitchSet
import FaultPlane.Catalog.Load
import FaultPlane.Cluster.Kubectl
import FaultPlane.Config.Environment
import FaultPlane.Contract.Command
import FaultPlane.Contract.ServiceInfo
import FaultPlane.Contract.ServiceStatus
import FaultPlane.Decimal.Integer
import FaultPlane.Decimal.Scaled
import FaultPlane.Decimal.Shortest
import FaultPlane.Dialogue
import FaultPlane.Discovery.Toggling
import FaultPlane.Identity
import FaultPlane.Injection.Injector
import FaultPlane.Injection.Record
import FaultPlane.Injection.Request
import FaultPlane.Injection.Response
import FaultPlane.Json.Codec
import FaultPlane.Json.Number
import FaultPlane.Json.Problem
import FaultPlane.Json.Record
import FaultPlane.Json.Scan
import FaultPlane.Json.Value
import FaultPlane.Json.Variant
import FaultPlane.Log
import FaultPlane.Plane.Api
import FaultPlane.Plane.Background
import FaultPlane.Proofs.Dialogue.Calls
import FaultPlane.Proofs.Injection.Conservation
import FaultPlane.Proofs.Injection.Interleaving
import FaultPlane.Proofs.Injection.ManifestLines
import FaultPlane.Proofs.Injection.Outcome
import FaultPlane.Proofs.Injection.Presence
import FaultPlane.Proofs.Injection.RecordId
import FaultPlane.Proofs.Injection.Stages
import FaultPlane.Proofs.Injection.Tracking
import FaultPlane.Proofs.Plane.Accounting
import FaultPlane.Proofs.Plane.History
import FaultPlane.Proofs.Text.Lines
import FaultPlane.Proofs.Text.Pieces
import FaultPlane.Proofs.Text.Trimming
import FaultPlane.Schedule.Basic
import FaultPlane.Service.Address
import FaultPlane.Table
import FaultPlane.Text.Blank
import FaultPlane.Text.Find
import FaultPlane.Text.Percent
import FaultPlane.Text.Quoted
import FaultPlane.Text.Upper
import FaultPlane.Time.Rfc3339
import FaultPlane.Proofs.Injection.Plans
import FaultPlane.Proofs.Injection.Records
import FaultPlane.Proofs.Plane.Provenance
import FaultPlane.Proofs.Dialogue.Bounds
import FaultPlane.Proofs.Plane.Isolation
import FaultPlane.Proofs.Plane.Clearing
import FaultPlane.Proofs.Dialogue.Locality
import FaultPlane.Proofs.Discovery.Observation
import FaultPlane.Proofs.Discovery.Reflection
import FaultPlane.Proofs.Plane.Polling
import FaultPlane.Proofs.Checks
import FaultPlane.Proofs.Agent.Commands
import FaultPlane.Proofs.Discovery.Listing
import FaultPlane.Proofs.Plane.Listing
import FaultPlane.Proofs.Service.Network
import FaultPlane.Proofs.Plane.Toggling
import FaultPlane.Proofs.Dialogue.Growth
import FaultPlane.Proofs.Dialogue.Timeline
import FaultPlane.Proofs.Discovery.Overlap
import FaultPlane.Proofs.Plane.Soundness
import FaultPlane.Proofs.Plane.Applying
import FaultPlane.Proofs.Plane.Passes
import FaultPlane.Proofs.Decimal.Digits
import FaultPlane.Proofs.Json.Words
import FaultPlane.Proofs.Json.Carried
import FaultPlane.Proofs.Json.Objects
import FaultPlane.Proofs.Time.Calendar
import FaultPlane.Proofs.Time.Timestamps
import FaultPlane.Proofs.Documents
import FaultPlane.Proofs.Plane.Stopping
import FaultPlane.Proofs.Config.Overrides
import FaultPlane.Proofs.Plane.Counting
import FaultPlane.Proofs.Plane.Sweeping
import FaultPlane.Proofs.Injection.Validation
import FaultPlane.Proofs.Text.Occurrences
import FaultPlane.Proofs.Catalog.Entries
import FaultPlane.Proofs.Catalog.ClassNames
import FaultPlane.Proofs.Injection.IdNames
import FaultPlane.Proofs.Injection.Selectors
import FaultPlane.Proofs.Injection.Completion
import FaultPlane.Proofs.Decimal.Integers
import FaultPlane.Proofs.Agent.Seeding
import FaultPlane.Proofs.Agent.Variables
import FaultPlane.Proofs.Plane.Delivery
import FaultPlane.Proofs.Injection.ManifestFields
import FaultPlane.Proofs.Plane.Interchange
import FaultPlane.Proofs.Config.Validity
import FaultPlane.Proofs.Text.Lowering
import FaultPlane.Proofs.Cluster.Deletion
import FaultPlane.Proofs.Time.Windows
import FaultPlane.Proofs.Injection.EndTimes
import FaultPlane.Proofs.Cluster.Names
import FaultPlane.Proofs.Plane.Filtering
import FaultPlane.Proofs.Injection.Snapshots
import FaultPlane.Proofs.Injection.Contents
import FaultPlane.Proofs.Injection.Issuing
import FaultPlane.Proofs.Service.Addresses
