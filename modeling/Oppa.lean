import Oppa.Foundation.History
import Oppa.Foundation.Channel
import Oppa.Foundation.Script
import Oppa.Foundation.Threads
import Oppa.Foundation.Roster
import Oppa.Foundation.Table
import Oppa.Foundation.Text
import Oppa.Foundation.Utf16
import Oppa.Foundation.Regex
import Oppa.Foundation.TextRegex
import Oppa.Foundation.Bytes
import Oppa.Foundation.Base64
import Oppa.Foundation.BitStream
import Oppa.Foundation.Result
import Oppa.Foundation.Plan
import Oppa.Foundation.Json
import Oppa.Foundation.JsonBound
import Oppa.Foundation.Tree
import Oppa.Foundation.Serde
import Oppa.Core.Domain
import Oppa.Storage.Schema
import Oppa.Storage.Repository
import Oppa.Storage.Operation
import Oppa.Storage.Invariant
import Oppa.Storage.Outbox
import Oppa.Storage.Redelivery
import Oppa.Storage.Lineage
import Oppa.Storage.Migration
import Oppa.Storage.Upgrade
import Oppa.Storage.Lossless
import Oppa.Protocol.Validation
import Oppa.Protocol.Scalars
import Oppa.Protocol.Base64Url
import Oppa.Protocol.Document
import Oppa.Protocol.PageRanges
import Oppa.Protocol.DocumentUrl
import Oppa.Protocol.Printer
import Oppa.Protocol.Message
import Oppa.Protocol.Codec
import Oppa.Protocol.Negotiation
import Oppa.Protocol.Authentication
import Oppa.Printer.Reference
import Oppa.Printer.Discovered
import Oppa.Discovery.Providers
import Oppa.Discovery.Manager
import Oppa.Discovery.Merging
import Oppa.Discovery.Grouping
import Oppa.Discovery.Evidence
import Oppa.Discovery.Normal
import Oppa.Discovery.Inventory
import Oppa.Discovery.Lpstat
import Oppa.Discovery.Transcript
import Oppa.Agent.Failure
import Oppa.Agent.Environment
import Oppa.Agent.Status
import Oppa.Agent.Processor
import Oppa.Agent.Runtime
import Oppa.Agent.Step
import Oppa.Agent.Transition
import Oppa.Agent.Custody
import Oppa.Agent.AtMostOnce
import Oppa.Agent.Acknowledge
import Oppa.Agent.Settlement
import Oppa.Agent.Submission
import Oppa.Agent.Admission
import Oppa.Agent.Recording
import Oppa.Agent.Cancellation
import Oppa.Agent.Drain
import Oppa.Agent.Replay
import Oppa.Agent.ReportOnce
import Oppa.Server.Options
import Oppa.Server.Session
import Oppa.Server.Handlers
import Oppa.Server.EventLoop
import Oppa.Server.Step
import Oppa.Server.Transition
import Oppa.Server.Closing
import Oppa.Server.Mirror
import Oppa.Server.Snapshots
import Oppa.Server.Outbound
import Oppa.Server.Discipline
import Oppa.Server.Authentication
import Oppa.Server.Pairing
import Oppa.Renderer.Layout
import Oppa.Renderer.EscPos
import Oppa.Renderer.Lines
import Oppa.Renderer.Injection
import Oppa.Renderer.Interpreter
import Oppa.Renderer.Inverse
import Oppa.Renderer.PageSelection
import Oppa.Renderer.Estimate
import Oppa.Auth.Keys
import Oppa.Auth.Separation
import Oppa.Auth.Document
import Oppa.Spooler.RawTcp
import Oppa.Spooler.Virtual
import Oppa.Spooler.DriverPrint
import Oppa.Renderer.PageDevice
import Oppa.Renderer.Initialize
import Oppa.Desktop.Supervisor
import Oppa.Desktop.Deadlock
import Oppa.Desktop.Catalog
import Oppa.Desktop.CatalogJson
import Oppa.Desktop.Migration
import Oppa.Desktop.CatalogRun
import Oppa.Desktop.CatalogSound
import Oppa.Desktop.CatalogInvariant
import Oppa.Desktop.Removal
import Oppa.Desktop.Descriptor
import Oppa.Desktop.Revision
import Oppa.Desktop.Advertise
import Oppa.Desktop.Routable
import Oppa.Desktop.Ledger
import Oppa.Server.Negotiation
import Oppa.Server.Quiet
import Oppa.Transport.WebSocket
import Oppa.Transport.Ordering
import Oppa.Desktop.Handshake
import Oppa.Desktop.Session
import Oppa.Desktop.FrameLimit
import Oppa.Desktop.Service
import Oppa.Desktop.Attempts
import Oppa.Desktop.Coherence
import Oppa.Desktop.Pairing
import Oppa.Desktop.Stale
import Oppa.Desktop.JobHistory
import Oppa.Desktop.HistoryFailure
import Oppa.Desktop.CatalogSaved
import Oppa.Sdk.Client
import Oppa.Sdk.Retries
import Oppa.Renderer.Pdf
import Oppa.Renderer.PdfBudget
