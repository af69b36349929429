import InferenceDispatch.Admission
import InferenceDispatch.Calendar
import InferenceDispatch.Classification.Catalog
import InferenceDispatch.Classification.Classifier
import InferenceDispatch.Classification.Policy
import InferenceDispatch.Clock
import InferenceDispatch.Collections.SortedMap
import InferenceDispatch.Collections.Table
import InferenceDispatch.Config.Document
import InferenceDispatch.Config.Layers
import InferenceDispatch.Config.Settings
import InferenceDispatch.Data.Datum
import InferenceDispatch.Data.Json.Reader
import InferenceDispatch.Data.Json.Writer
import InferenceDispatch.Data.Toml.Date
import InferenceDispatch.Data.Toml.Document
import InferenceDispatch.Data.Toml.Number
import InferenceDispatch.Data.Toml.Text
import InferenceDispatch.Data.Toml.Tree
import InferenceDispatch.Engine
import InferenceDispatch.Http.Address
import InferenceDispatch.Http.Domain
import InferenceDispatch.Http.DomainData
import InferenceDispatch.Http.Exchange
import InferenceDispatch.Http.Header
import InferenceDispatch.Http.Host
import InferenceDispatch.Http.Label
import InferenceDispatch.Http.LabelData
import InferenceDispatch.Http.Percent
import InferenceDispatch.Http.Punycode
import InferenceDispatch.Http.Status
import InferenceDispatch.Http.Url
import InferenceDispatch.ModelString.Basic
import InferenceDispatch.ModelString.Reader
import InferenceDispatch.Monitoring.Event
import InferenceDispatch.Monitoring.Histogram
import InferenceDispatch.Monitoring.Metrics
import InferenceDispatch.Number.Decimal
import InferenceDispatch.Number.Double
import InferenceDispatch.Number.Shortest
import InferenceDispatch.Number.TotalOrder
import InferenceDispatch.Number.Whole
import InferenceDispatch.Priority
import InferenceDispatch.Privacy
import InferenceDispatch.Proofs.Lookup
import InferenceDispatch.Providers.Directory
import InferenceDispatch.Providers.Discovery
import InferenceDispatch.Providers.Health
import InferenceDispatch.Providers.Probe
import InferenceDispatch.Scheduling.Manager
import InferenceDispatch.Scheduling.Queue
import InferenceDispatch.Scheduling.Scheduler
import InferenceDispatch.Scheduling.Slots
import InferenceDispatch.Scheduling.Strategy
import InferenceDispatch.Scheduling.Task
import InferenceDispatch.Telemetry.Azure
import InferenceDispatch.Telemetry.Facades
import InferenceDispatch.Telemetry.Ollama
import InferenceDispatch.Telemetry.Report
import InferenceDispatch.Telemetry.Timestamp
import InferenceDispatch.Text.Blank
import InferenceDispatch.Text.CaseData
import InferenceDispatch.Text.Composition
import InferenceDispatch.Text.CompositionData
import InferenceDispatch.Text.HiddenData
import InferenceDispatch.Text.LetterCase
import InferenceDispatch.Text.Pieces
import InferenceDispatch.Text.Quoted
import InferenceDispatch.Text.Ranges
import InferenceDispatch.Proofs.Queue.Filing
import InferenceDispatch.Proofs.Runs
import InferenceDispatch.Proofs.Scheduler.Books
import InferenceDispatch.Proofs.Scheduler.Choice
import InferenceDispatch.Proofs.Scheduler.AtMostOnce
import InferenceDispatch.Proofs.Manager.Calls
import InferenceDispatch.Proofs.Manager.Sound
import InferenceDispatch.Proofs.Manager.Closing
import InferenceDispatch.Proofs.Manager.Admission
import InferenceDispatch.Proofs.Manager.Departure
import InferenceDispatch.Proofs.Manager.History
import InferenceDispatch.Proofs.Manager.LifeCycle
import InferenceDispatch.Proofs.Manager.SlotOwnership
import InferenceDispatch.Proofs.Manager.QueuedTickets
import InferenceDispatch.Proofs.Queue.PlainQueue
import InferenceDispatch.Proofs.Queue.Order
import InferenceDispatch.Proofs.Queue.Refinement
import InferenceDispatch.Proofs.Manager.InFlight
import InferenceDispatch.Proofs.Telemetry.Observation
import InferenceDispatch.Proofs.Telemetry.CapacityGate
import InferenceDispatch.Proofs.Telemetry.Residency
import InferenceDispatch.Proofs.ModelString.Given
import InferenceDispatch.Proofs.ModelString.Separators
import InferenceDispatch.Proofs.ModelString.Grammar
import InferenceDispatch.Proofs.ModelString.Numerals
import InferenceDispatch.Proofs.ModelString.RoundTrip
import InferenceDispatch.Proofs.Admission.Constraints
import InferenceDispatch.Proofs.Manager.Provenance
import InferenceDispatch.Proofs.Admission.EndToEnd
import InferenceDispatch.Proofs.Manager.Withdrawal
import InferenceDispatch.Proofs.Manager.Reports
import InferenceDispatch.Proofs.Manager.Story
import InferenceDispatch.Proofs.Providers.Calls
import InferenceDispatch.Proofs.Providers.Rounds
import InferenceDispatch.Proofs.Providers.Removal
import InferenceDispatch.Proofs.Providers.Catalog
import InferenceDispatch.Proofs.Admission.StatedPolicy
import InferenceDispatch.Proofs.Manager.Submitters
import InferenceDispatch.Proofs.Manager.Polling
import InferenceDispatch.Proofs.Engine.Periods
import InferenceDispatch.Proofs.Queue.Changes
import InferenceDispatch.Proofs.Queue.Moves
import InferenceDispatch.Proofs.Scheduler.Sharing
import InferenceDispatch.Proofs.Scheduler.Conserving
import InferenceDispatch.Proofs.Scheduler.Scores
import InferenceDispatch.Proofs.Scheduler.NearTies
import InferenceDispatch.Proofs.Queue.Bookkeeping
import InferenceDispatch.Proofs.Scheduler.Orphans
import InferenceDispatch.Proofs.Manager.Expiry
import InferenceDispatch.Proofs.Manager.Standstill
import InferenceDispatch.Proofs.Manager.Refusals
import InferenceDispatch.Proofs.Providers.Happenings
import InferenceDispatch.Proofs.Providers.Streaks
import InferenceDispatch.Proofs.Providers.Stories
import InferenceDispatch.Proofs.Telemetry.FailedPolls
import InferenceDispatch.Proofs.Telemetry.KnownSizes
import InferenceDispatch.Proofs.Classification.Monotone
import InferenceDispatch.Proofs.Config.Precedence
import InferenceDispatch.Proofs.Monitoring.Percentiles
