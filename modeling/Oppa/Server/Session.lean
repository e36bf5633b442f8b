import Oppa.Foundation.History
import Oppa.Server.Options

/-!
# A gateway session

The session a server opens for each connection: authentication, handshake, routing of messages,
heartbeats and closing.  Everything it waits for (`transport.send`, `transport.close`, the credential
store, the callbacks of the host) suspends the function that waits, and other functions run
meanwhile; between two such points nothing interleaves.

* `Code` — what a function has left to do, as a stack of instructions; `Task` is such a stack with
  the caller it belongs to.
* `Session` — the private fields of the session, and the event loop around it: the queue of inbound
  operations, the queue of writes, and the tasks that wait.
* `Outcome` — what one instruction does: the fields it sets, how it ends, and what it shows.
-/

namespace Oppa.Server

open Protocol

/-! ## What a session exchanges -/

/-- `OpenPrinterSessionState`. -/
inductive SessionState
  | authenticating
  | handshaking
  | connected
  | closing
  | closed
  deriving DecidableEq, Repr

/-- `AgentDisconnectReason`. -/
inductive DisconnectReason
  | peerClosed
  | authenticationFailed
  | heartbeatTimeout
  | protocolError
  | serverDisconnect
  | transportError
  deriving DecidableEq, Repr

/-- `GatewayAuthenticationFailureCode`. -/
inductive FailureCode
  | challengeExpired
  | challengeInvalid
  | challengeConsumed
  | credentialNotFound
  | credentialRevoked
  | invalidSignature
  | unsupportedAlgorithm
  | authenticationTimeout
  deriving DecidableEq, Repr

/-- The wire name of a failure code. -/
def FailureCode.name : FailureCode → String
  | challengeExpired => "challenge_expired"
  | challengeInvalid => "challenge_invalid"
  | challengeConsumed => "challenge_consumed"
  | credentialNotFound => "credential_not_found"
  | credentialRevoked => "credential_revoked"
  | invalidSignature => "invalid_signature"
  | unsupportedAlgorithm => "unsupported_algorithm"
  | authenticationTimeout => "authentication_timeout"

/-- `ServerProtocolErrorCode`, as far as a session raises it. -/
inductive ProtocolErrorCode
  | handshakeTimeout
  | identityMismatch
  | invalidMessage
  | messageTooLarge
  | unexpectedMessage
  | unsupportedProtocolVersion
  deriving DecidableEq, Repr

/-- `GatewayAuthenticationChallenge`; its payload is the text whose bytes the agent signs. -/
structure Challenge where
  challengeId : String
  payload : String
  expiresAt : ℕ
  deriving DecidableEq, Repr

/-- `GatewayAuthenticationResponse`. -/
structure AuthenticationResponse where
  challengeId : String
  agentId : String
  keyId : String
  signature : String
  deriving DecidableEq, Repr

/-- `AgentCredentialRecord`, as far as a session reads it. -/
structure AgentCredentialRecord where
  agentId : String
  keyId : String
  publicKey : String
  revokedAt : Option ℕ
  deriving DecidableEq, Repr

/-- What a session hands to the transport. -/
inductive Frame
  | challenge (challenge : Challenge)
  | accepted (agentId : String)
  | rejected (code : FailureCode)
  | server (message : ServerMessage)
  deriving DecidableEq, Repr

/-- `OpenPrinterTransportCloseRequest`. -/
structure CloseRequest where
  reason : DisconnectReason
  detail : String
  deriving DecidableEq, Repr

/-- `ConnectedAgent`. -/
structure Snapshot where
  agentId : String
  hello : AgentHello
  protocolVersion : ProtocolVersion
  connectedAt : ℕ
  lastSeenAt : ℕ
  printerRevision : Option UInt64
  deriving DecidableEq, Repr

/-- `OpenPrinterCallbackName`. -/
inductive CallbackName
  | onAgentConnected
  | onAgentDisconnected
  | onCallbackError
  | onDiagnostics
  | onHeartbeatTimeout
  | onJobFailed
  | onJobReceived
  | onJobSubmitted
  | onPrintersChanged
  | onProtocolError
  deriving DecidableEq, Repr

/-- What a callback of the host is told. -/
inductive HostEvent
  | agentConnected (agent : Option Snapshot)
  | agentDisconnected (agent : Snapshot) (reason : DisconnectReason) (detail : Option String)
  | printersChanged (agent : Option Snapshot) (revision : UInt64)
      (printers : List PrinterDescriptor)
  | jobReceived (agent : Option Snapshot) (payload : JobReceived)
  | jobSubmitted (agent : Option Snapshot) (payload : JobSubmitted)
  | jobFailed (agent : Option Snapshot) (payload : JobFailed)
  | diagnostics (agent : Option Snapshot) (payload : AgentDiagnostics)
  | heartbeatTimeout (agent : Option Snapshot) (lastHeartbeatAt : ℕ)
  | protocolError (agent : Option Snapshot) (agentId : String) (code : ProtocolErrorCode)
  | callbackError (callback : CallbackName)
  deriving DecidableEq, Repr

/-- The callback an event is for. -/
def HostEvent.name : HostEvent → CallbackName
  | agentConnected _ => .onAgentConnected
  | agentDisconnected _ _ _ => .onAgentDisconnected
  | printersChanged _ _ _ => .onPrintersChanged
  | jobReceived _ _ => .onJobReceived
  | jobSubmitted _ _ => .onJobSubmitted
  | jobFailed _ _ => .onJobFailed
  | diagnostics _ _ => .onDiagnostics
  | heartbeatTimeout _ _ => .onHeartbeatTimeout
  | protocolError _ _ _ => .onProtocolError
  | callbackError _ => .onCallbackError

/-- Whether the SDK owns a kind of message. -/
def isProtocolControl : ServerMessageKind → Bool
  | .hello _ | .heartbeat _ | .disconnect _ => true
  | _ => false

/-- `OpenPrinterApplicationMessage`: what a host may send. -/
structure ApplicationMessage where
  message : ServerMessage
  application : isProtocolControl message.kind = false
  deriving DecidableEq, Repr

/-- `DisconnectAgentOptions`. -/
structure DisconnectOptions where
  code : Option String
  reason : Option String
  reconnect : Option Bool
  retryAfterMs : Option UInt32
  deriving DecidableEq, Repr

/-- `DeliveryResult`. -/
inductive DeliveryResult
  | ok (messageId sentAt : String)
  | sessionNotReady
  | connectionClosed
  | transportError
  | protocolVersionUnsupported
  deriving DecidableEq, Repr

/-- `TransportWriteResult`; a failure carries the name of its error. -/
inductive WriteResult
  | ok
  | failed (name : String)
  deriving DecidableEq, Repr

/-- The error of a write that `#writeEncoded` refuses. -/
def WriteResult.notWritable : WriteResult := .failed "Error"

/-! ## Instructions -/

/-- What a write was for. -/
inductive Written
  | challenge
  | accepted
  | hello (hello : AgentHello) (selected : ProtocolVersion)
  | heartbeat (messageId : String)
  | application (message : ServerMessage)
  | last
  deriving DecidableEq, Repr

/-- What a function has to do next. -/
inductive Code (Input : Type)
  | beginAuthentication
  | receiveMessage (input : Input)
  | credentialFound (response : AuthenticationResponse) (answer : Option AgentCredentialRecord)
  | rejectAuthentication (code : FailureCode)
  | completeHandshake (messageId : String) (hello : AgentHello)
  | routeMessage (message : AgentMessage)
  | sendHeartbeat
  | heartbeatExpired
  | protocolViolation (code : ProtocolErrorCode)
  | handleTransportClosed (reason : Option DisconnectReason) (detail : Option String)
  | transportFailed (detail : String)
  | requestTransportClose (request : CloseRequest)
  | finalize (reason : DisconnectReason) (detail : Option String)
  | invoke (event : HostEvent)
  | written (purpose : Written) (result : WriteResult)
  | send (message : ApplicationMessage)
  | returnSend (result : DeliveryResult)
  | disconnect (options : DisconnectOptions)
  | returnDisconnect
  deriving DecidableEq, Repr

/-- Whose function it is: an operation of the inbound queue, the `catch` clause around one, or a
call from outside. -/
inductive Owner
  | processing
  | handling
  | call
  deriving DecidableEq, Repr

/-- A function that runs or waits, with the functions that wait for it. -/
structure Task (Input : Type) where
  owner : Owner
  stack : List (Code Input)
  deriving DecidableEq, Repr

/-- A write in the outbound queue, with the task that awaits it. -/
structure Write (Input : Type) where
  frame : Frame
  purpose : Written
  task : Task Input
  deriving DecidableEq, Repr

/-- What a session shows of itself, with the time where it matters. -/
inductive Effect (Input : Type)
  | entered (state : SessionState)
  | received (input : Input) (at_ : ℕ)
  | challenged (challenge : Challenge)
  | authenticating (input : Input) (at_ : ℕ)
  | lookedUp (agentId keyId : String)
  | found (answer : Option AgentCredentialRecord)
  | identified (agentId : String)
  | negotiated (version : ProtocolVersion)
  | enqueued (frame : Frame)
  | sent (frame : Frame) (at_ : ℕ)
  | closeRequested (request : CloseRequest)
  | invoked (event : HostEvent)
  | heartbeatAnswered (messageId : String) (at_ : ℕ)
  | violated (code : ProtocolErrorCode)
  | sendReturned (result : DeliveryResult)
  | sendThrew
  | disconnectReturned (result : Bool)
  deriving DecidableEq, Repr

/-! ## The session -/

/-- The configuration of a session, with the libraries it calls. -/
structure SessionConfig (Input : Type) extends ResolvedOptions where
  sessionId : String
  startedAt : ℕ
  /-- Whether the host has registered a callback. -/
  handles : CallbackName → Bool
  /-- The random identifiers, in the order in which they are drawn. -/
  uuid : ℕ → String
  nonce : String
  toISOString : ℕ → String
  byteLength : Input → ℕ
  /-- `decodeGatewayAuthenticationResponse`; a failure says whether another algorithm was named. -/
  decodeResponse : Input → Except Bool AuthenticationResponse
  decodeAgentMessage : Input → Except ProtocolErrorCode AgentMessage
  /-- Whether a key can be imported and verifies a signature over a payload. -/
  verify : (publicKey payload signature : String) → Bool
  /-- Whether the encoder accepts a frame. -/
  encodes : Frame → Bool
  /-- The length of an encoded message. -/
  encodedBytes : ServerMessage → ℕ

/-- The fields of `OpenPrinterSessionImplementation` and the event loop around it. -/
structure Session (Input : Type) where
  now : ℕ
  /-- How many random identifiers have been drawn. -/
  drawn : ℕ
  state : SessionState
  identity : Option String
  challenge : Option Challenge
  challengeConsumed : Bool
  hello : Option AgentHello
  protocolVersion : ProtocolVersion
  connectedAt : Option ℕ
  lastSeenAt : ℕ
  lastHeartbeatAt : ℕ
  printers : List PrinterDescriptor
  printerRevision : Option UInt64
  /-- The heartbeats that are not answered yet, with the time they were registered. -/
  pendingHeartbeats : List (String × ℕ)
  authenticationTimer : Option ℕ
  handshakeTimer : Option ℕ
  heartbeatTimer : Option ℕ
  heartbeatDeadline : Option ℕ
  disconnectReason : Option DisconnectReason
  transportCloseRequested : Bool
  /-- `#processing`: the operations that wait for their turn, and whether one has it. -/
  processing : List (Code Input)
  busy : Bool
  /-- `#outbound`: the writes that wait for their turn, the one that has it, and those done. -/
  outbound : List (Write Input)
  inFlight : Option (Write Input)
  settled : List (Write Input × WriteResult)
  /-- The tasks that wait for the transport to close, for the store, and for the host. -/
  closing : List (Task Input)
  lookup : Option (AuthenticationResponse × Task Input)
  callbacks : List (HostEvent × Task Input)
  /-- The task that runs. -/
  running : Option (Task Input)

/-- How an instruction ends: in further instructions, at a point where the task waits, or in an
exception. -/
inductive Next (Input : Type)
  | continue (codes : List (Code Input))
  | write (frame : Frame) (purpose : Written) (codes : List (Code Input))
  | close
  | lookup (response : AuthenticationResponse)
  | callback (event : HostEvent) (codes : List (Code Input))
  | fail

/-- What an instruction does. -/
structure Outcome (Input : Type) where
  session : Session Input
  next : Next Input
  effects : List (Effect Input)

variable {Input : Type} (config : SessionConfig Input) (session : Session Input)

namespace Session

/-- A session that has just been accepted. -/
def initial : Session Input where
  now := config.startedAt
  drawn := 0
  state := .authenticating
  identity := none
  challenge := none
  challengeConsumed := false
  hello := none
  protocolVersion := .base
  connectedAt := none
  lastSeenAt := config.startedAt
  lastHeartbeatAt := config.startedAt
  printers := []
  printerRevision := none
  pendingHeartbeats := []
  authenticationTimer := none
  handshakeTimer := none
  heartbeatTimer := none
  heartbeatDeadline := none
  disconnectReason := none
  transportCloseRequested := false
  processing := [.beginAuthentication]
  busy := false
  outbound := []
  inFlight := none
  settled := []
  closing := []
  lookup := none
  callbacks := []
  running := none

/-- `#snapshot`; `none` before the handshake. -/
def snapshot : Option Snapshot := do
  let hello ← session.hello
  let connectedAt ← session.connectedAt
  let agentId ← session.identity
  some
    { agentId := agentId
      hello := hello
      protocolVersion := session.protocolVersion
      connectedAt := connectedAt
      lastSeenAt := session.lastSeenAt
      printerRevision := session.printerRevision }

/-- Whether the session has begun or finished to close. -/
def isClosing : Bool := session.state = .closing || session.state = .closed

/-- `newEnvelope` around a payload; identifier and time are drawn. -/
def newMessage (correlationId : Option String) (kind : ServerMessageKind) : ServerMessage where
  protocolVersion := .base
  messageId := config.uuid session.drawn
  sentAt := config.toISOString session.now
  correlationId := correlationId
  kind := kind

/-- The session after drawing an identifier. -/
def draw : Session Input := { session with drawn := session.drawn + 1 }

/-- `#writeEncoded` in a task that goes on with `codes`: the state is looked at when the write is
enqueued. -/
def write (allowed : SessionState) (frame : Frame) (purpose : Written)
    (codes : List (Code Input)) : Next Input :=
  if session.state = allowed then .write frame purpose codes
  else .continue (.written purpose .notWritable :: codes)

/-- `#clearTimers`. -/
def clearTimers : Session Input :=
  { session with
    authenticationTimer := none
    handshakeTimer := none
    heartbeatTimer := none
    heartbeatDeadline := none }

/-- `#prunePendingHeartbeats`. -/
def prunePendingHeartbeats : Session Input :=
  { session with
    pendingHeartbeats := session.pendingHeartbeats.filter fun entry =>
      session.now ≤ entry.2 + config.heartbeatTimeoutMs }

/-- The session begins to close for a reason. -/
def beginClosing (reason : DisconnectReason) : Session Input :=
  { session with state := .closing, disconnectReason := some reason }

end Session

/-- Ends without further instructions. -/
def done (session : Session Input) (effects : List (Effect Input)) : Outcome Input :=
  ⟨session, .continue [], effects⟩

/-- Goes on with another instruction. -/
def goto (session : Session Input) (code : Code Input) (effects : List (Effect Input)) :
    Outcome Input := ⟨session, .continue [code], effects⟩

/-- `#invoke` in a task that goes on with `codes`: a callback that is not registered is not called. -/
def notify (event : HostEvent) (codes : List (Code Input)) : Next Input :=
  if config.handles event.name then .callback event codes else .continue codes

end Oppa.Server
