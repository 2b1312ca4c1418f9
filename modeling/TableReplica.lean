import TableReplica.Delivery.Dispatcher
import TableReplica.Delivery.Event
import TableReplica.Delivery.Queue
import TableReplica.Delivery.Roster
import TableReplica.Fault
import TableReplica.Identifier
import TableReplica.Json.Basic
import TableReplica.Json.Literal
import TableReplica.Json.Parts
import TableReplica.Json.Print
import TableReplica.Json.Source
import TableReplica.Json.Token
import TableReplica.Proofs.Delivery.Fifo
import TableReplica.Proofs.Delivery.Observers
import TableReplica.Proofs.Delivery.Queue
import TableReplica.Proofs.Delivery.Roster
import TableReplica.Proofs.Delivery.Schedule
import TableReplica.Proofs.Failure
import TableReplica.Proofs.Json.Records
import TableReplica.Proofs.Query.Addressing
import TableReplica.Proofs.Query.Agreement
import TableReplica.Proofs.Query.Ambiguity
import TableReplica.Proofs.Query.Appending
import TableReplica.Proofs.Query.Bounds
import TableReplica.Proofs.Query.Finding
import TableReplica.Proofs.Query.Insertion
import TableReplica.Proofs.Query.Mutations
import TableReplica.Proofs.Query.Operations
import TableReplica.Proofs.Query.References
import TableReplica.Proofs.Query.TypedReads
import TableReplica.Proofs.Real.TotalOrder
import TableReplica.Proofs.Record.Access
import TableReplica.Proofs.Record.Carrier
import TableReplica.Proofs.Record.Decoding
import TableReplica.Proofs.Record.Encoding
import TableReplica.Proofs.Record.Exactness
import TableReplica.Proofs.Record.Fields
import TableReplica.Proofs.Record.Registration
import TableReplica.Proofs.Record.Validation
import TableReplica.Proofs.Replica.Apply
import TableReplica.Proofs.Replica.ChangeLog
import TableReplica.Proofs.Replica.Creation
import TableReplica.Proofs.Replica.Effect
import TableReplica.Proofs.Replica.Following
import TableReplica.Proofs.Replica.Independence
import TableReplica.Proofs.Replica.LateReply
import TableReplica.Proofs.Replica.Repetition
import TableReplica.Proofs.Replica.Soundness
import TableReplica.Proofs.Replica.Upstream
import TableReplica.Proofs.Replica.Validity
import TableReplica.Proofs.Schema.Operations
import TableReplica.Proofs.Schema.Parsed
import TableReplica.Proofs.Schema.WellFormed
import TableReplica.Proofs.Session.Attempt
import TableReplica.Proofs.Session.Checks
import TableReplica.Proofs.Session.Connecting
import TableReplica.Proofs.Session.Ingestion
import TableReplica.Proofs.Session.Lifecycle
import TableReplica.Proofs.Session.Replies
import TableReplica.Proofs.Session.Requests
import TableReplica.Proofs.Session.Schedule
import TableReplica.Proofs.Session.Transact
import TableReplica.Proofs.Sorted
import TableReplica.Proofs.Text.Bytes
import TableReplica.Proofs.Value.Conversion
import TableReplica.Proofs.Value.Decoding
import TableReplica.Proofs.Value.Entries
import TableReplica.Proofs.Value.Legality
import TableReplica.Proofs.Value.Meaning
import TableReplica.Proofs.Value.Order
import TableReplica.Proofs.Value.RoundTrip
import TableReplica.Proofs.Value.Soundness
import TableReplica.Proofs.Wire.Acceptance
import TableReplica.Proofs.Wire.Codec
import TableReplica.Proofs.Wire.Grammar
import TableReplica.Proofs.Wire.Operations
import TableReplica.Query.Edit
import TableReplica.Query.Listing
import TableReplica.Query.Selection
import TableReplica.Real.Basic
import TableReplica.Real.Decimal
import TableReplica.Real.Nearest
import TableReplica.Record.Basic
import TableReplica.Record.Binding
import TableReplica.Record.Field
import TableReplica.Record.Layout
import TableReplica.Record.Registry
import TableReplica.Replica.Basic
import TableReplica.Replica.Delta
import TableReplica.Replica.Fault
import TableReplica.Replica.Store
import TableReplica.Schema.Basic
import TableReplica.Schema.Describe
import TableReplica.Schema.Operations
import TableReplica.Schema.Reading
import TableReplica.Session.Basic
import TableReplica.Session.Environment
import TableReplica.Session.Link
import TableReplica.Session.Notice
import TableReplica.Session.Path
import TableReplica.Session.Setting
import TableReplica.Session.Settings
import TableReplica.Session.Sources
import TableReplica.Session.Toml.Document
import TableReplica.Session.Toml.Moment
import TableReplica.Session.Toml.Node
import TableReplica.Session.Toml.Scalar
import TableReplica.Session.Toml.Table
import TableReplica.Session.Toml.Text
import TableReplica.Sorted.Map
import TableReplica.Text.Invisible
import TableReplica.Text.Quoted
import TableReplica.Value.Basic
import TableReplica.Value.Coding
import TableReplica.Value.Row
import TableReplica.Value.Scalar
import TableReplica.Wire.Atom
import TableReplica.Wire.Change
import TableReplica.Wire.Clause
import TableReplica.Wire.Datum
import TableReplica.Wire.Monitor
import TableReplica.Wire.Operation
import TableReplica.Wire.Outcome
import TableReplica.Wire.Reading
import TableReplica.Word
