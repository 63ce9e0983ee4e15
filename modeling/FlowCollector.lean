import FlowCollector.Collector.Request
import FlowCollector.Main
import FlowCollector.Settings.Json
import FlowCollector.Setup.Draft
import FlowCollector.Setup.Json
import FlowCollector.Template.Request
import FlowCollector.Proofs.Netflow.Framing
import FlowCollector.Proofs.Netflow.Composition
import FlowCollector.Proofs.Netflow.Layout
import FlowCollector.Proofs.Store
import FlowCollector.Proofs.Address
import FlowCollector.Proofs.Tally
import FlowCollector.Proofs.Netflow.RoundTrip
import FlowCollector.Proofs.Packet
import FlowCollector.Proofs.Isolation
import FlowCollector.Proofs.Interleaving
import FlowCollector.Proofs.Workshop
import FlowCollector.Proofs.Collector.Ledger
import FlowCollector.Proofs.Collector.Requests
import FlowCollector.Proofs.Collector.Delivery
import FlowCollector.Proofs.Reader.Properties
import FlowCollector.Proofs.Sflow.Samples
import FlowCollector.Proofs.Evolution
import FlowCollector.Proofs.Element
import FlowCollector.Proofs.FlowRecord
import FlowCollector.Proofs.Netflow.SamplingRate
import FlowCollector.Proofs.Monitor
import FlowCollector.Proofs.Intake
import FlowCollector.Proofs.Collector.Change
import FlowCollector.Proofs.Collector.Course
import FlowCollector.Proofs.Collector.Lifecycle
import FlowCollector.Proofs.Collector.Backpressure
import FlowCollector.Proofs.Collector.Accounts
import FlowCollector.Proofs.Reader.Spelling
import FlowCollector.Proofs.Netflow.Truncation
import FlowCollector.Proofs.Netflow.Announced
import FlowCollector.Proofs.Persistence
import FlowCollector.Proofs.Json.Token
import FlowCollector.Proofs.Json.Value
import FlowCollector.Proofs.FlowRecord.Json
import FlowCollector.Proofs.Sink
import FlowCollector.Proofs.Daemon.Scene
import FlowCollector.Proofs.Daemon.Shutdown
import FlowCollector.Proofs.Reader.Taking
import FlowCollector.Proofs.Sflow.FlowSample
import FlowCollector.Proofs.Netflow.Segmentation
import FlowCollector.Proofs.Collector.Health
import FlowCollector.Proofs.Netflow.Malformed
import FlowCollector.Proofs.Netflow.TemplateSet
import FlowCollector.Proofs.Members
import FlowCollector.Proofs.Sflow.Records
import FlowCollector.Proofs.Sflow.Emission
import FlowCollector.Proofs.Address.Bytes
import FlowCollector.Proofs.Fold
import FlowCollector.Proofs.Sflow.Route
import FlowCollector.Proofs.PacketHeader
import FlowCollector.Proofs.PacketHeader.Written
import FlowCollector.Proofs.Sflow.RawHeader
import FlowCollector.Proofs.Store.Requests
import FlowCollector.Proofs.Netflow.Repetition
import FlowCollector.Proofs.Netflow.PlainSet
import FlowCollector.Proofs.Netflow.Version5
import FlowCollector.Proofs.Netflow.MessageLength
import FlowCollector.Proofs.Turns
import FlowCollector.Proofs.Netflow.Unusable
import FlowCollector.Proofs.Reader.Progress
import FlowCollector.Proofs.Sflow.Failures
import FlowCollector.Proofs.Sflow.Loops
import FlowCollector.Proofs.Amplification
import FlowCollector.Proofs.ErrorCost
import FlowCollector.Proofs.Collector.Injection
import FlowCollector.Proofs.Collector.FailedStart
import FlowCollector.Proofs.Daemon.Restart
import FlowCollector.Proofs.Store.FiniteMap
import FlowCollector.Proofs.Settings.Environment
import FlowCollector.Proofs.Reader.Cursor
import FlowCollector.Proofs.Element.Unsigned
