import Oppa.Protocol.Printer

/-!
# Messages

The messages of both directions, with the checks a receiver makes before it acts on one.

* `AgentMessageKind`, `ServerMessageKind` — the payloads, by their discriminators.
* `AgentMessage`, `ServerMessage` — a payload in its envelope.
* `requiredVersion`, `validateEnvelopeVersion` — handshake frames speak the base protocol, and
  extended content is never labelled with it.
* `AgentMessage.validate`, `ServerMessage.validate` — the checks; `AgentMessage.toValue` — what is
  stored or sent of a message.
-/

namespace Oppa.Protocol

open Json

/-- Maximum size of a message on the wire. -/
def maxWireMessageBytes : ℕ := 2 * 1024 * 1024

/-- OpenPrinter protocol version. -/
inductive ProtocolVersion
  | v1
  | v2
  deriving DecidableEq, Repr

namespace ProtocolVersion

/-- `ProtocolVersion::BASE`. -/
def base : ProtocolVersion := .v1

/-- `ProtocolVersion::EXTENDED`. -/
def extended : ProtocolVersion := .v2

/-- `ProtocolVersion::SUPPORTED`. -/
def supported : List ProtocolVersion := [.v1, .v2]

/-- `ProtocolVersion::as_str`. -/
def asStr : ProtocolVersion → String
  | v1 => "1"
  | v2 => "2"

end ProtocolVersion

/-- All lifecycle terms reserved by the protocol. -/
inductive JobStatus
  | queued
  | delivered
  | received
  | submitted
  | failed
  | cancelled
  deriving DecidableEq, Repr

/-- The serialized name of a lifecycle term. -/
def JobStatus.name : JobStatus → String
  | .queued => "queued"
  | .delivered => "delivered"
  | .received => "received"
  | .submitted => "submitted"
  | .failed => "failed"
  | .cancelled => "cancelled"

/-- `validate_versions`. -/
def validateVersions (versions : List ProtocolVersion) (path : String) : Validity :=
  if versions.isEmpty || ProtocolVersion.supported.length < versions.length then
    refuse path
      ("must contain between 1 and " ++ toString ProtocolVersion.supported.length ++ " versions")
  else validateDistinct (fun _ => path) "must not contain duplicate versions" versions

/-- `validate_printers`. -/
def validatePrinters (printers : List PrinterDescriptor) (path : String) : Validity :=
  if maxPrintersPerInventory < printers.length then
    refuse path ("must contain at most " ++ toString maxPrintersPerInventory ++ " printers")
  else
    validateEach (fun index printer =>
      printer.validate.within (path ++ "." ++ toString index)) 0 printers

/-- `validate_job_identity`. -/
def validateJobIdentity (jobId idempotencyKey : String) : Validity := do
  validateIdentifier jobId "jobId" 128
  validateString idempotencyKey "idempotencyKey" 1 256

/-- `validate_expected_status`. -/
def validateExpectedStatus (actual expected : JobStatus) : Validity :=
  if actual = expected then .ok ()
  else refuse "status" "does not match the message discriminator"

/-! ## Agent payloads -/

/-- Initial agent handshake and version advertisement. -/
structure AgentHello where
  agentId : String
  agentVersion : String
  productId : String
  productVersion : String
  supportedProtocolVersions : List ProtocolVersion
  deriving DecidableEq, Repr

/-- The serialized list of versions. -/
def versionsValue (versions : List ProtocolVersion) : Value :=
  .array (versions.map fun version => .string version.asStr)

namespace AgentHello

variable (hello : AgentHello)

/-- `AgentHello::validate`. -/
def validate : Validity := do
  validateIdentifier hello.agentId "agentId" 128
  validateString hello.agentVersion "agentVersion" 1 256
  validateIdentifier hello.productId "productId" 128
  validateString hello.productVersion "productVersion" 1 256
  validateVersions hello.supportedProtocolVersions "supportedProtocolVersions"

/-- The serialized payload. -/
def toValue : Value :=
  .object [("agentId", .string hello.agentId), ("agentVersion", .string hello.agentVersion),
    ("productId", .string hello.productId), ("productVersion", .string hello.productVersion),
    ("supportedProtocolVersions", versionsValue hello.supportedProtocolVersions)]

end AgentHello

/-- Correlated response to a server heartbeat request. -/
structure AgentHeartbeat where
  uptimeSeconds : UInt64
  deriving DecidableEq, Repr

/-- `AgentHeartbeat::validate`. -/
def AgentHeartbeat.validate (heartbeat : AgentHeartbeat) : Validity :=
  validateSafeInteger heartbeat.uptimeSeconds "uptimeSeconds"

/-- The serialized payload. -/
def AgentHeartbeat.toValue (heartbeat : AgentHeartbeat) : Value :=
  .object [("uptimeSeconds", .number heartbeat.uptimeSeconds.toNat)]

/-- Complete printer inventory. -/
structure PrinterInventory where
  revision : UInt64
  printers : List PrinterDescriptor
  deriving DecidableEq, Repr

namespace PrinterInventory

variable (inventory : PrinterInventory)

/-- `PrinterInventory::validate`. -/
def validate : Validity := do
  validateSafeInteger inventory.revision "revision"
  validatePrinters inventory.printers "printers"

/-- The serialized payload. -/
def toValue : Value :=
  .object [("printers", .array (inventory.printers.map PrinterDescriptor.toValue)),
    ("revision", .number inventory.revision.toNat)]

end PrinterInventory

/-- Incremental printer inventory update. -/
structure PrinterInventoryChanged where
  revision : UInt64
  added : List PrinterDescriptor
  updated : List PrinterDescriptor
  removedPrinterIds : List String
  deriving DecidableEq, Repr

namespace PrinterInventoryChanged

variable (changed : PrinterInventoryChanged)

/-- `PrinterInventoryChanged::validate`. -/
def validate : Validity := do
  validateSafeInteger changed.revision "revision"
  validatePrinters changed.added "added"
  validatePrinters changed.updated "updated"
  if maxPrintersPerInventory < changed.removedPrinterIds.length then
    refuse "removedPrinterIds"
      ("must contain at most " ++ toString maxPrintersPerInventory ++ " identifiers")
  else
    validateEach (fun index printerId => do
      validateIdentifier printerId ("removedPrinterIds." ++ toString index) 128
      if printerId ∈ changed.removedPrinterIds.take index then
        refuse ("removedPrinterIds." ++ toString index) "must not contain duplicate identifiers")
      0 changed.removedPrinterIds

/-- The serialized payload. -/
def toValue : Value :=
  .object [("added", .array (changed.added.map PrinterDescriptor.toValue)),
    ("removedPrinterIds", .array (changed.removedPrinterIds.map .string)),
    ("revision", .number changed.revision.toNat),
    ("updated", .array (changed.updated.map PrinterDescriptor.toValue))]

end PrinterInventoryChanged

/-- Durable-persistence acknowledgement for a delivered job. -/
structure JobReceived where
  jobId : String
  idempotencyKey : String
  status : JobStatus
  receivedAt : String
  deriving DecidableEq, Repr

namespace JobReceived

variable (received : JobReceived)

/-- `JobReceived::validate`. -/
def validate : Validity := do
  validateJobIdentity received.jobId received.idempotencyKey
  validateExpectedStatus received.status .received
  validateTimestamp received.receivedAt "receivedAt"

/-- The serialized payload. -/
def toValue : Value :=
  .object [("idempotencyKey", .string received.idempotencyKey), ("jobId", .string received.jobId),
    ("receivedAt", .string received.receivedAt), ("status", .string received.status.name)]

end JobReceived

/-- Backend-acceptance result that does not imply physical output. -/
structure JobSubmitted where
  jobId : String
  idempotencyKey : String
  printerId : String
  status : JobStatus
  submittedAt : String
  deriving DecidableEq, Repr

namespace JobSubmitted

variable (submitted : JobSubmitted)

/-- `JobSubmitted::validate`. -/
def validate : Validity := do
  validateJobIdentity submitted.jobId submitted.idempotencyKey
  validateIdentifier submitted.printerId "printerId" 128
  validateExpectedStatus submitted.status .submitted
  validateTimestamp submitted.submittedAt "submittedAt"

/-- The serialized payload. -/
def toValue : Value :=
  .object [("idempotencyKey", .string submitted.idempotencyKey),
    ("jobId", .string submitted.jobId), ("printerId", .string submitted.printerId),
    ("status", .string submitted.status.name), ("submittedAt", .string submitted.submittedAt)]

end JobSubmitted

/-- Bounded failure information safe to transmit and diagnose. -/
structure FailureDetail where
  code : String
  message : String
  retryable : Bool
  deriving DecidableEq, Repr

namespace FailureDetail

variable (detail : FailureDetail)

/-- `FailureDetail::validate`. -/
def validate : Validity := do
  validateIdentifier detail.code "code" 128
  validateString detail.message "message" 1 1024

/-- The serialized detail. -/
def toValue : Value :=
  .object [("code", .string detail.code), ("message", .string detail.message),
    ("retryable", .bool detail.retryable)]

end FailureDetail

/-- Recoverable or terminal failure after job delivery. -/
structure JobFailed where
  jobId : String
  idempotencyKey : String
  status : JobStatus
  failedAt : String
  error : FailureDetail
  deriving DecidableEq, Repr

namespace JobFailed

variable (failed : JobFailed)

/-- `JobFailed::validate`. -/
def validate : Validity := do
  validateJobIdentity failed.jobId failed.idempotencyKey
  validateExpectedStatus failed.status .failed
  validateTimestamp failed.failedAt "failedAt"
  failed.error.validate.within "error"

/-- The serialized payload. -/
def toValue : Value :=
  .object [("error", failed.error.toValue), ("failedAt", .string failed.failedAt),
    ("idempotencyKey", .string failed.idempotencyKey), ("jobId", .string failed.jobId),
    ("status", .string failed.status.name)]

end JobFailed

/-- Coarse agent health state. -/
inductive AgentHealth
  | healthy
  | degraded
  | unhealthy
  deriving DecidableEq, Repr

/-- The serialized name of a health state. -/
def AgentHealth.name : AgentHealth → String
  | .healthy => "healthy"
  | .degraded => "degraded"
  | .unhealthy => "unhealthy"

/-- Diagnostic issue severity. -/
inductive DiagnosticSeverity
  | info
  | warning
  | error
  deriving DecidableEq, Repr

/-- The serialized name of a severity. -/
def DiagnosticSeverity.name : DiagnosticSeverity → String
  | .info => "info"
  | .warning => "warning"
  | .error => "error"

/-- Sanitized diagnostic issue. -/
structure DiagnosticIssue where
  code : String
  message : String
  severity : DiagnosticSeverity
  deriving DecidableEq, Repr

namespace DiagnosticIssue

variable (issue : DiagnosticIssue)

/-- `DiagnosticIssue::validate`. -/
def validate : Validity := do
  validateIdentifier issue.code "code" 128
  validateString issue.message "message" 1 1024

/-- The serialized issue. -/
def toValue : Value :=
  .object [("code", .string issue.code), ("message", .string issue.message),
    ("severity", .string issue.severity.name)]

end DiagnosticIssue

/-- Bounded operational summary safe to send to the server. -/
structure AgentDiagnostics where
  agentId : String
  collectedAt : String
  health : AgentHealth
  queueDepth : UInt64
  printersOnline : UInt16
  printersTotal : UInt16
  issues : List DiagnosticIssue
  deriving DecidableEq, Repr

namespace AgentDiagnostics

variable (diagnostics : AgentDiagnostics)

/-- `AgentDiagnostics::validate`. -/
def validate : Validity := do
  validateIdentifier diagnostics.agentId "agentId" 128
  validateTimestamp diagnostics.collectedAt "collectedAt"
  validateSafeInteger diagnostics.queueDepth "queueDepth"
  if maxPrintersPerInventory < diagnostics.printersOnline.toNat ||
      maxPrintersPerInventory < diagnostics.printersTotal.toNat then
    refuse "printersTotal"
      ("printer counts must not exceed " ++ toString maxPrintersPerInventory)
  else if 64 < diagnostics.issues.length then refuse "issues" "must contain at most 64 issues"
  else
    validateEach (fun index issue => issue.validate.within ("issues." ++ toString index)) 0
      diagnostics.issues

/-- The serialized payload. -/
def toValue : Value :=
  .object [("agentId", .string diagnostics.agentId),
    ("collectedAt", .string diagnostics.collectedAt),
    ("health", .string diagnostics.health.name),
    ("issues", .array (diagnostics.issues.map DiagnosticIssue.toValue)),
    ("printersOnline", .number diagnostics.printersOnline.toNat),
    ("printersTotal", .number diagnostics.printersTotal.toNat),
    ("queueDepth", .number diagnostics.queueDepth.toNat)]

end AgentDiagnostics

/-- Discriminated payload for any agent-to-server message. -/
inductive AgentMessageKind
  | hello (payload : AgentHello)
  | heartbeat (payload : AgentHeartbeat)
  | printerInventory (payload : PrinterInventory)
  | printerInventoryChanged (payload : PrinterInventoryChanged)
  | jobReceived (payload : JobReceived)
  | jobSubmitted (payload : JobSubmitted)
  | jobFailed (payload : JobFailed)
  | diagnostics (payload : AgentDiagnostics)
  deriving DecidableEq, Repr

namespace AgentMessageKind

/-- `AgentMessageKind::message_type`. -/
def messageType : AgentMessageKind → String
  | hello _ => "agent.hello"
  | heartbeat _ => "agent.heartbeat"
  | printerInventory _ => "agent.printer_inventory"
  | printerInventoryChanged _ => "agent.printer_inventory_changed"
  | jobReceived _ => "agent.job_received"
  | jobSubmitted _ => "agent.job_submitted"
  | jobFailed _ => "agent.job_failed"
  | diagnostics _ => "agent.diagnostics"

/-- `AgentMessageKind::validate`. -/
def validate (kind : AgentMessageKind) : Validity :=
  Validity.within "payload"
    (match kind with
    | hello payload => payload.validate
    | heartbeat payload => payload.validate
    | printerInventory payload => payload.validate
    | printerInventoryChanged payload => payload.validate
    | jobReceived payload => payload.validate
    | jobSubmitted payload => payload.validate
    | jobFailed payload => payload.validate
    | diagnostics payload => payload.validate)

/-- `required_version`. -/
def requiredVersion : AgentMessageKind → ProtocolVersion
  | printerInventory inventory =>
      if inventory.printers.any PrinterDescriptor.usesExtendedProtocol then .extended else .base
  | printerInventoryChanged changed =>
      if (changed.added ++ changed.updated).any PrinterDescriptor.usesExtendedProtocol then
        .extended
      else .base
  | _ => .base

/-- The serialized payload. -/
def toValue : AgentMessageKind → Value
  | hello payload => payload.toValue
  | heartbeat payload => payload.toValue
  | printerInventory payload => payload.toValue
  | printerInventoryChanged payload => payload.toValue
  | jobReceived payload => payload.toValue
  | jobSubmitted payload => payload.toValue
  | jobFailed payload => payload.toValue
  | diagnostics payload => payload.toValue

end AgentMessageKind

/-! ## Server payloads -/

/-- Human-readable identity advertised by an OpenPrinter service. -/
structure OpenPrinterBrandMetadata where
  name : String
  deriving DecidableEq, Repr

/-- Server handshake response and selected protocol version. -/
structure ServerHello where
  serverId : String
  serverVersion : String
  brand : OpenPrinterBrandMetadata
  sessionId : String
  supportedProtocolVersions : List ProtocolVersion
  selectedProtocolVersion : ProtocolVersion
  heartbeatIntervalMs : UInt32
  maxMessageBytes : UInt32
  deriving DecidableEq, Repr

/-- `ServerHello::validate`. -/
def ServerHello.validate (hello : ServerHello) : Validity := do
  validateIdentifier hello.serverId "serverId" 128
  validateString hello.serverVersion "serverVersion" 1 256
  validateBrandName hello.brand.name "brand.name"
  validateIdentifier hello.sessionId "sessionId" 128
  validateVersions hello.supportedProtocolVersions "supportedProtocolVersions"
  if hello.selectedProtocolVersion ∉ hello.supportedProtocolVersions then
    refuse "selectedProtocolVersion" "must be one of the listed supported versions"
  else if hello.heartbeatIntervalMs.toNat < 5000 || 300000 < hello.heartbeatIntervalMs.toNat then
    refuse "heartbeatIntervalMs" "must be between 5000 and 300000"
  else if hello.maxMessageBytes.toNat < 1024 ||
      maxWireMessageBytes < hello.maxMessageBytes.toNat then
    refuse "maxMessageBytes" ("must be between 1024 and " ++ toString maxWireMessageBytes)
  else .ok ()

/-- Server liveness probe. -/
structure HeartbeatRequest where
  timeoutMs : UInt32
  deriving DecidableEq, Repr

/-- `HeartbeatRequest::validate`. -/
def HeartbeatRequest.validate (request : HeartbeatRequest) : Validity :=
  if request.timeoutMs.toNat < 1000 || 120000 < request.timeoutMs.toNat then
    refuse "timeoutMs" "must be between 1000 and 120000"
  else .ok ()

/-- Request cancellation before backend submission. -/
structure CancelJob where
  jobId : String
  reason : Option String
  deriving DecidableEq, Repr

/-- `CancelJob::validate`. -/
def CancelJob.validate (cancel : CancelJob) : Validity := do
  validateIdentifier cancel.jobId "jobId" 128
  validateOptional (validateString · "reason" 1 512) cancel.reason

/-- Configuration area invalidated by the host. -/
inductive ConfigurationScope
  | agent
  | printers
  | all
  deriving DecidableEq, Repr

/-- Notification that host-owned configuration should be refreshed. -/
structure ConfigurationInvalidated where
  scope : ConfigurationScope
  revision : Option String
  deriving DecidableEq, Repr

/-- `ConfigurationInvalidated::validate`. -/
def ConfigurationInvalidated.validate (invalidated : ConfigurationInvalidated) : Validity :=
  validateOptional (validateString · "revision" 1 128) invalidated.revision

/-- Intentional server disconnect and reconnection policy. -/
structure Disconnect where
  code : String
  reason : String
  reconnect : Bool
  retryAfterMs : Option UInt32
  deriving DecidableEq, Repr

/-- `Disconnect::validate`. -/
def Disconnect.validate (disconnect : Disconnect) : Validity := do
  validateIdentifier disconnect.code "code" 128
  validateString disconnect.reason "reason" 1 1024
  if disconnect.retryAfterMs.any (fun value => 86400000 < value.toNat) then
    refuse "retryAfterMs" "must be no greater than 86400000"

/-- Discriminated payload for any server-to-agent message. -/
inductive ServerMessageKind
  | hello (payload : ServerHello)
  | heartbeat (payload : HeartbeatRequest)
  | printJob (payload : PrintJob)
  | cancelJob (payload : CancelJob)
  | requestPrinterInventory
  | configurationInvalidated (payload : ConfigurationInvalidated)
  | disconnect (payload : Disconnect)
  deriving DecidableEq, Repr

namespace ServerMessageKind

/-- `ServerMessageKind::message_type`. -/
def messageType : ServerMessageKind → String
  | hello _ => "server.hello"
  | heartbeat _ => "server.heartbeat"
  | printJob _ => "server.print_job"
  | cancelJob _ => "server.cancel_job"
  | requestPrinterInventory => "server.request_printer_inventory"
  | configurationInvalidated _ => "server.configuration_invalidated"
  | disconnect _ => "server.disconnect"

/-- `ServerMessageKind::validate`. -/
def validate (kind : ServerMessageKind) : Validity :=
  Validity.within "payload"
    (match kind with
    | hello payload => payload.validate
    | heartbeat payload => payload.validate
    | printJob payload => payload.validate
    | cancelJob payload => payload.validate
    | requestPrinterInventory => .ok ()
    | configurationInvalidated payload => payload.validate
    | disconnect payload => payload.validate)

/-- `required_server_version`. -/
def requiredVersion : ServerMessageKind → ProtocolVersion
  | printJob job => if job.document.isPdf then .extended else .base
  | _ => .base

end ServerMessageKind

/-! ## Envelopes -/

/-- `validate_envelope`. -/
def validateEnvelope (messageId sentAt : String) (correlationId : Option String) : Validity := do
  validateIdentifier messageId "messageId" 128
  validateTimestamp sentAt "sentAt"
  validateOptional (validateIdentifier · "correlationId" 128) correlationId

/-- `validate_envelope_version`. -/
def validateEnvelopeVersion (version : ProtocolVersion) (handshake : Bool)
    (required : ProtocolVersion) : Validity :=
  if handshake && version ≠ .base then
    refuse "protocolVersion" "handshake frames must use protocol version 1"
  else if version = .base && required = .extended then
    refuse "protocolVersion" "this content requires protocol version 2"
  else .ok ()

/-- Versioned envelope for an agent-to-server message. -/
structure AgentMessage where
  protocolVersion : ProtocolVersion
  messageId : String
  sentAt : String
  correlationId : Option String
  kind : AgentMessageKind
  deriving DecidableEq, Repr

namespace AgentMessage

variable (message : AgentMessage)

/-- Which payloads answer a request, and which must not claim to. -/
def validateCorrelation : Validity :=
  match message.kind with
  | .heartbeat _ | .jobReceived _ | .jobSubmitted _ | .jobFailed _ =>
      if message.correlationId.isSome then .ok ()
      else refuse "correlationId" "is required for this response"
  | .hello _ | .printerInventoryChanged _ | .diagnostics _ =>
      if message.correlationId.isSome then
        refuse "correlationId" "is not allowed for this event"
      else .ok ()
  | .printerInventory _ => .ok ()

/-- Whether this is the handshake frame of the agent. -/
def isHandshake : Bool :=
  match message.kind with
  | .hello _ => true
  | _ => false

/-- `AgentMessage::validate`. -/
def validate : Validity := do
  validateEnvelope message.messageId message.sentAt message.correlationId
  message.validateCorrelation
  validateEnvelopeVersion message.protocolVersion message.isHandshake message.kind.requiredVersion
  message.kind.validate

/-- The serialized message: the envelope with its discriminator and payload. -/
def toValue : Value :=
  .object (optionalMember "correlationId" (message.correlationId.map .string) ++
    [("messageId", .string message.messageId), ("payload", message.kind.toValue),
      ("protocolVersion", .string message.protocolVersion.asStr),
      ("sentAt", .string message.sentAt), ("type", .string message.kind.messageType)])

end AgentMessage

/-- Versioned envelope for a server-to-agent message. -/
structure ServerMessage where
  protocolVersion : ProtocolVersion
  messageId : String
  sentAt : String
  correlationId : Option String
  kind : ServerMessageKind
  deriving DecidableEq, Repr

namespace ServerMessage

variable (message : ServerMessage)

/-- Whether this is the handshake frame of the server. -/
def isHandshake : Bool :=
  match message.kind with
  | .hello _ => true
  | _ => false

/-- Only the handshake answers a request. -/
def validateCorrelation : Validity :=
  match message.isHandshake, message.correlationId.isSome with
  | true, false => refuse "correlationId" "is required for the server hello response"
  | true, true => .ok ()
  | false, true => refuse "correlationId" "is not allowed for this server command"
  | false, false => .ok ()

/-- `ServerMessage::validate`. -/
def validate : Validity := do
  validateEnvelope message.messageId message.sentAt message.correlationId
  message.validateCorrelation
  validateEnvelopeVersion message.protocolVersion message.isHandshake message.kind.requiredVersion
  message.kind.validate

end ServerMessage

end Oppa.Protocol
