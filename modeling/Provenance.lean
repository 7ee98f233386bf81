import Provenance.Text.Blank
import Provenance.Text.Split
import Provenance.Text.Numeral
import Provenance.Number.Binary64
import Provenance.Number.Decimal
import Provenance.Number.Stepwise
import Provenance.Number.Extended
import Provenance.Number.Fifteen
import Provenance.Time.Calendar
import Provenance.Time.Instant
import Provenance.Time.Timestamp
import Provenance.Time.Relaxed
import Provenance.Coded
import Provenance.Event.FieldText
import Provenance.Event.Basic
import Provenance.MasterData
import Provenance.Capture.Request
import Provenance.Capture.Validation
import Provenance.Query.Parameter
import Provenance.Query.Filter
import Provenance.Store.Cell
import Provenance.Query.Statement
import Provenance.Query.EventParameters
import Provenance.Query.MasterDataParameters
import Provenance.Subscription.Schedule
import Provenance.Subscription.Basic
import Provenance.Subscription.Backoff
import Provenance.Configuration
import Provenance.Store.Row
import Provenance.Store.Table
import Provenance.Store.Basic
import Provenance.Store.Capture
import Provenance.Store.Contents
import Provenance.Store.Subscription
import Provenance.Store.Hierarchy
import Provenance.Store.Limits
import Provenance.Store.Reading
import Provenance.Store.Selection
import Provenance.Store.Assembly
import Provenance.Failure
import Provenance.Query.Standing
import Provenance.Unicode.Ranges
import Provenance.Unicode.Names
import Provenance.Unicode.Marks
import Provenance.Unicode.Composition
import Provenance.Unicode.Direction
import Provenance.Unicode.Joining
import Provenance.Uri.Percent
import Provenance.Uri.Punycode
import Provenance.Uri.Label
import Provenance.Uri.Host
import Provenance.Uri.Basic
import Provenance.Subscription.Evaluation
import Provenance.Scheduler.Basic
import Provenance.Scheduler.Loop
import Provenance.Repository.Basic
import Provenance.Repository.Timeline
import Provenance.Json.Basic
import Provenance.Json.Reader
import Provenance.Json.Decoding
import Provenance.Json.Named
import Provenance.Event.Json
import Provenance.Capture.Json
import Provenance.Subscription.Json
import Provenance.Proofs.Store.Insertion
import Provenance.Proofs.Store.Journal
import Provenance.Proofs.Delivery.Session
import Provenance.Proofs.Delivery.Conservation
import Provenance.Proofs.Event.Fetch
import Provenance.Proofs.Query.Plan
import Provenance.Proofs.Event.Recorded
import Provenance.Proofs.Delivery.Completeness
import Provenance.Proofs.Event.Reassembly
import Provenance.Proofs.Capture.Checks
import Provenance.Proofs.Event.Sameness
import Provenance.Proofs.Event.RoundTrip
import Provenance.Proofs.Scheduler.Registry
import Provenance.Proofs.Scheduler.Steps
import Provenance.Proofs.Scheduler.Marks
import Provenance.Proofs.Scheduler.Removal
import Provenance.Proofs.Repository.Interleaving
import Provenance.Proofs.Query.Execution
import Provenance.Proofs.Query.Meaning
import Provenance.Proofs.Query.Matching
import Provenance.Proofs.Query.Filters
import Provenance.Proofs.Query.Answer
import Provenance.Proofs.Subscription.Preparation
import Provenance.Proofs.Repository.FailedCalls
import Provenance.Proofs.Query.Ordering
import Provenance.Proofs.Delivery.Confinement
import Provenance.Proofs.Store.Owners
import Provenance.Proofs.Store.Keys
import Provenance.Proofs.Store.Constraints
import Provenance.Proofs.Store.Admission
import Provenance.Proofs.Store.Transactions
import Provenance.Proofs.Subscription.RoundTrip
import Provenance.Proofs.Repository.Restart
import Provenance.Proofs.Scheduler.History
import Provenance.Proofs.Scheduler.Firing
import Provenance.Proofs.Scheduler.Pacing
import Provenance.Proofs.Delivery.Independence
import Provenance.Proofs.MasterData.Recorded
import Provenance.Proofs.MasterData.Hierarchy
import Provenance.Proofs.MasterData.Plan
import Provenance.Proofs.MasterData.Selection
import Provenance.Proofs.MasterData.Attachment
import Provenance.Proofs.MasterData.Answer
import Provenance.Proofs.Query.Reference
import Provenance.Proofs.MasterData.Collecting
import Provenance.Proofs.Query.Descent
import Provenance.Proofs.Query.Description
import Provenance.Proofs.MasterData.Reads
import Provenance.Proofs.Text.Numeral
import Provenance.Proofs.Query.Placement
import Provenance.Proofs.Query.Counting
import Provenance.Proofs.Query.Binding
import Provenance.Proofs.Subscription.Waiting
import Provenance.Proofs.Query.FieldNames
import Provenance.Proofs.Query.Normalization
import Provenance.Proofs.Query.Limits
import Provenance.Proofs.Query.Rearrangement
import Provenance.Proofs.Query.Presentation
import Provenance.Proofs.Text.Padding
import Provenance.Proofs.Time.Calendar
import Provenance.Proofs.Subscription.Listing
import Provenance.Proofs.Subscription.Timing
import Provenance.Proofs.Query.NormalForm
import Provenance.Proofs.Store.Batches
import Provenance.Proofs.Event.Batches
