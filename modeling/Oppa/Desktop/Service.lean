import Oppa.Desktop.Handshake
import Oppa.Desktop.Ledger
import Oppa.Desktop.Supervisor
import Oppa.Foundation.Threads
import Oppa.Protocol.Authentication

/-!
# The service behind the desktop

The service keeps the pairing in several cells, next to a lifecycle that refuses some transitions, a
credential store and the settings.  The operations of the host change these cells one at a time.

* `DesktopService`, `Command` — the cells, and the changes that are made to them.
* `Question` — what the tasks depend on beside the cells: the network, the credential store, the
  settings.
* `Task` — the tasks of the operations and of the supervisor, cut where the lock
  `provider_operation` is taken and released.
* `pairing`, `forgetServer`, `applyServerConfiguration` — the operations, with each return they have.
-/

namespace Oppa.Desktop

open Foundation Protocol Script Text

/-! ## The lifecycle -/

/-- Host-facing agent lifecycle. -/
inductive AgentState
  | unconfigured
  | pairing
  | disconnected
  | connecting
  | connected
  | degraded
  | shuttingDown
  deriving DecidableEq, Repr

/-- How a state is written in an error. -/
def AgentState.debug : AgentState → String
  | unconfigured => "Unconfigured"
  | pairing => "Pairing"
  | disconnected => "Disconnected"
  | connecting => "Connecting"
  | connected => "Connected"
  | degraded => "Degraded"
  | shuttingDown => "ShuttingDown"

/-- `can_transition`. -/
def canTransition (current next : AgentState) : Bool :=
  if current = next then true
  else if next = .shuttingDown then true
  else
    match current, next with
    | .unconfigured, .pairing => true
    | .pairing, .unconfigured | .pairing, .disconnected => true
    | .disconnected, .connecting => true
    | .connecting, .connected | .degraded, .connected => true
    | .connecting, .disconnected | .connected, .disconnected | .degraded, .disconnected => true
    | .disconnected, .unconfigured | .connecting, .unconfigured | .connected, .unconfigured
    | .degraded, .unconfigured => true
    | .connected, .degraded => true
    | _, _ => false

/-- The states of an agent that has, or is about to have, a connection. -/
def AgentState.engaged : AgentState → Bool
  | connecting | connected | degraded => true
  | _ => false

/-- `sanitize_active_errors`. -/
def sanitizeActiveErrors (errors : List String) : List String :=
  (errors.filterMap fun error =>
    if (sanitizedChars error).isEmpty then none
    else some (String.ofList (truncateUtf8 1000 (sanitizedChars error)))).take 32

/-! ## The cells -/

/-- Mutually exclusive discovery, pairing, and gateway phase. -/
inductive OpenPrinterConnectionState
  | idle
  | discovering
  | discoveryFailed
  | unpaired
  | pairing
  | paired
  | connecting
  | authenticating
  | connected
  | authenticationFailed
  | credentialRevoked
  deriving DecidableEq, Repr

/-- The phases that the end of a connection takes back. -/
def OpenPrinterConnectionState.transient : OpenPrinterConnectionState → Bool
  | connecting | authenticating | connected => true
  | _ => false

/-- Non-secret identity and secure-key reference saved after pairing. -/
structure OpenPrinterConnection where
  serverUrl : String
  serverId : String
  agentId : String
  keyId : String
  credentialRef : String
  deriving DecidableEq, Repr

/-- Who asks for documents. -/
structure DocumentIdentity where
  agentId : String
  credentialRef : String
  deriving DecidableEq, Repr

/-- The identity that belongs to a connection. -/
def OpenPrinterConnection.identity (connection : OpenPrinterConnection) : DocumentIdentity :=
  ⟨connection.agentId, connection.credentialRef⟩

structure ConnectedServiceSummary where
  name : String
  serverId : String
  serverVersion : String
  gatewayUrl : String
  deriving DecidableEq, Repr

/-- The cells of the service that tell about its connection, the keys in the credential store, and
the settings. -/
structure DesktopService where
  connection : Option OpenPrinterConnection
  agentId : Option String
  documentIdentity : Option DocumentIdentity
  /-- `server_configuration`. -/
  serverUrl : String
  connectionState : OpenPrinterConnectionState
  connectedService : Option ConnectedServiceSummary
  state : AgentState
  activeErrors : List String
  providerGeneration : ℕ
  /-- The references of the keys that are kept. -/
  credentials : List String
  storedConnection : Option OpenPrinterConnection
  storedServerUrl : Option String
  storedNegotiation : Option StoredNegotiation
  deriving DecidableEq, Repr

/-- A setting, with the value that is written. -/
inductive Setting
  | connection (value : Option OpenPrinterConnection)
  | serverConfiguration (serverUrl : String)
  | protocolNegotiation (value : Option StoredNegotiation)
  deriving DecidableEq, Repr

/-- The changes of the cells. -/
inductive Command
  | setConnection (connection : Option OpenPrinterConnection)
  | setAgentId (agentId : Option String)
  | setDocumentIdentity (identity : Option DocumentIdentity)
  | setServerUrl (serverUrl : String)
  | setConnectionState (connectionState : OpenPrinterConnectionState)
  | setConnectedService (summary : Option ConnectedServiceSummary)
  | setActiveErrors (errors : List String)
  /-- `AgentHandle::transition`. -/
  | transition (next : AgentState)
  /-- `provider_generation.fetch_add(1)`. -/
  | advanceGeneration
  | addCredential (credentialRef : String)
  | removeCredential (credentialRef : String)
  | store (setting : Setting)
  deriving DecidableEq, Repr

/-- What a command makes of the cells; the lifecycle refuses some transitions. -/
def Command.apply (service : DesktopService) : Command → Option DesktopService
  | .setConnection connection => some { service with connection := connection }
  | .setAgentId agentId => some { service with agentId := agentId }
  | .setDocumentIdentity identity => some { service with documentIdentity := identity }
  | .setServerUrl serverUrl => some { service with serverUrl := serverUrl }
  | .setConnectionState connectionState =>
      some { service with connectionState := connectionState }
  | .setConnectedService summary => some { service with connectedService := summary }
  | .setActiveErrors errors => some { service with activeErrors := sanitizeActiveErrors errors }
  | .transition next =>
      if canTransition service.state next then some { service with state := next } else none
  | .advanceGeneration =>
      some { service with providerGeneration := service.providerGeneration + 1 }
  | .addCredential credentialRef =>
      some { service with credentials := credentialRef :: service.credentials }
  | .removeCredential credentialRef =>
      some { service with credentials := service.credentials.filter (· ≠ credentialRef) }
  | .store (.connection value) => some { service with storedConnection := value }
  | .store (.serverConfiguration serverUrl) =>
      some { service with storedServerUrl := some serverUrl }
  | .store (.protocolNegotiation value) => some { service with storedNegotiation := value }

/-! ## The environment -/

/-- What discovery tells of a server. -/
structure DiscoveredServer where
  name : String
  id : String
  version : String
  pairingUrl : String
  gatewayUrl : String
  deriving DecidableEq, Repr

structure GeneratedKey where
  publicKey : String
  credentialRef : String
  deriving DecidableEq, Repr

structure PairedAgent where
  serverId : String
  agentId : String
  keyId : String
  deriving DecidableEq, Repr

/-- An error while the gateway authenticates the agent. -/
structure AuthenticationFailure where
  text : String
  /-- The code of the gateway, when it is the gateway that has rejected the agent. -/
  rejected : Option String
  deriving DecidableEq, Repr

/-- The hello that an attempt sends. -/
structure PlannedHello where
  messageId : String
  offered : List ProtocolVersion
  deriving DecidableEq, Repr

/-- What the supervisor hands to the transport of a connection. -/
inductive Delivery
  | inventory
  | heartbeat
  | report
  /-- The reports that have waited for the handshake. -/
  | awaiting
  deriving DecidableEq, Repr

/-- What is said when it cannot be sent; the error of a report has been sanitized for whoever reports,
before it is sanitized again. -/
def Delivery.diagnostic (text : String) : Delivery → String
  | report | awaiting => sanitize text
  | inventory | heartbeat => text

/-- What the `select!` of a connection completes with. -/
inductive SessionTurn
  | helloTimeout
  | control (control : ConnectionControl)
  | report
  | received (message : ServerMessage)
  | failed (text : String)
  deriving DecidableEq, Repr

/-- What a task asks for and waits for. -/
inductive Question
  | discover (serverUrl : String)
  | generate (serverId : String)
  | pair (discovered : DiscoveredServer) (code agentName publicKey : String)
  | deleteCredential (credentialRef : String)
  | setSetting (setting : Setting)
  /-- `connection_control.send`. -/
  | send (control : ConnectionControl)
  | newTransport (gatewayUrl : String)
  | connect (gatewayUrl : String)
  | receiveAuthentication
  | signChallenge (credentialRef : String) (challenge : GatewayAuthenticationChallenge)
  | sendAuthenticationResponse (response : GatewayAuthenticationResponse)
  /-- What the planner offers. -/
  | plan (serverId : String)
  | sendHello (agentId : String) (hello : PlannedHello)
  | turn
  | transmit (delivery : Delivery)
  /-- What the planner has learnt from a handshake. -/
  | learn (selected : Option ProtocolVersion)
  deriving DecidableEq, Repr

/-- The answers to a question; an error comes with its text. -/
abbrev Question.Answer : Question → Type
  | .discover _ => Except String DiscoveredServer
  | .generate _ => Except String GeneratedKey
  | .pair _ _ _ _ => Except String PairedAgent
  | .deleteCredential _ => Except String Unit
  | .setSetting _ => Except String Unit
  | .send _ => Bool
  | .newTransport _ => Except String Unit
  | .connect _ => Except String Unit
  | .receiveAuthentication => Except AuthenticationFailure GatewayAuthenticationServerMessage
  | .signChallenge _ _ => Except String String
  | .sendAuthenticationResponse _ => Except String Unit
  | .plan _ => PlannedHello
  | .sendHello _ _ => Except String Unit
  | .turn => SessionTurn
  | .transmit _ => Except String Unit
  | .learn _ => CacheUpdate

/-- What runs within a task. -/
abbrev Routine := Script DesktopService Command Question.Answer

/-- Asks a question. -/
def Question.put (question : Question) : Routine question.Answer := inquire question

/-! ## The tasks -/

/-- What the supervisor reads before an attempt to connect. -/
structure ConnectionAttempt where
  connection : OpenPrinterConnection
  serverUrl : String
  providerGeneration : ℕ
  deriving DecidableEq, Repr

/-- The connection of an attempt whose hello is sent. -/
structure GatewaySession where
  attempt : ConnectionAttempt
  gatewayUrl : String
  helloMessageId : String
  offered : List ProtocolVersion
  selected : Option ProtocolVersion
  handshaken : Bool
  deriving DecidableEq, Repr

/-- What a thread does next, up to the point at which it takes or releases the lock. -/
inductive Task
  | pairServer (code agentName : String)
  /-- `pair_server`, once the name is checked. -/
  | pairing (code agentName : String)
  | forgetServer
  /-- With what `normalize_server_url` makes of the input. -/
  | setServerConfiguration (normalized : Except String String)
  | resetServerConfiguration
  | applyServerConfiguration (serverUrl : String)
  | discoverServer
  /-- The operation has returned. -/
  | returned (result : Except CommandError Unit)
  /-- The supervisor waits for its next attempt. -/
  | waiting
  | planning
  | discovering (attempt : ConnectionAttempt)
  | connecting (attempt : ConnectionAttempt) (gatewayUrl : String)
  | opening (attempt : ConnectionAttempt) (gatewayUrl : String)
  /-- The socket could not be opened, or the hello not sent. -/
  | disconnecting (attempt : ConnectionAttempt) (text : String)
  | connected (attempt : ConnectionAttempt) (gatewayUrl : String)
  | authenticating (attempt : ConnectionAttempt) (gatewayUrl : String)
  | greeting (attempt : ConnectionAttempt) (gatewayUrl : String)
  | session (session : GatewaySession)
  | helloTimedOut (session : GatewaySession)
  | publishing (session : GatewaySession)
  | reporting (session : GatewaySession)
  | message (session : GatewaySession) (message : ServerMessage)
  | receiveFailed (session : GatewaySession) (text : String)
  /-- What is learnt from a handshake is stored, before the session goes on or ends. -/
  | recording (session : GatewaySession) (finished : Bool)
  | ended (session : GatewaySession)
  | stopped

/-- The attempt that a task belongs to. -/
def Task.attempt : Task → Option ConnectionAttempt
  | .discovering attempt | .connecting attempt _ | .opening attempt _ | .disconnecting attempt _
  | .connected attempt _ | .authenticating attempt _ | .greeting attempt _ => some attempt
  | .session gateway | .helloTimedOut gateway | .publishing gateway | .reporting gateway
  | .message gateway _ | .receiveFailed gateway _ | .recording gateway _ | .ended gateway =>
      some gateway.attempt
  | .pairServer _ _ | .pairing _ _ | .forgetServer | .setServerConfiguration _
  | .resetServerConfiguration | .applyServerConfiguration _ | .discoverServer | .returned _
  | .waiting | .planning | .stopped => none

/-! ## Parts of operations -/

/-- `CommandError::new`. -/
def CommandError.new (code message : String) : CommandError := ⟨code, sanitize message⟩

/-- An operation fails. -/
def Task.fail (code message : String) : Task := .returned (.error (.new code message))

namespace DesktopService

/-- `SqliteStorage::set_setting`. -/
def setSetting (setting : Setting) : Routine (Except String Unit) := do
  match ← Question.put (.setSetting setting) with
  | .ok () =>
      perform (.store setting)
      return .ok ()
  | .error text => return .error text

/-- `AgentKeyManager::delete`. -/
def deleteCredential (credentialRef : String) : Routine (Except String Unit) := do
  match ← Question.put (.deleteCredential credentialRef) with
  | .ok () =>
      perform (.removeCredential credentialRef)
      return .ok ()
  | .error text => return .error text

/-- `AgentKeyManager::generate`. -/
def generateKey (serverId : String) : Routine (Except String GeneratedKey) := do
  match ← Question.put (.generate serverId) with
  | .ok generated =>
      perform (.addCredential generated.credentialRef)
      return .ok generated
  | .error text => return .error text

/-- `set_connection_error`. -/
def setConnectionError (message : String) : Routine Unit :=
  perform (.setActiveErrors [sanitize message])

/-- `authentication_failed`. -/
def authenticationFailed (message : String) (revoked : Bool) : Routine Unit := do
  let current ← get
  (if current.state.engaged then perform (.transition .disconnected) else pure ())
  perform (.setConnectionState (if revoked then .credentialRevoked else .authenticationFailed))
  perform (.setActiveErrors [sanitize message])

/-- `force_unconfigured_with_errors`. -/
def forceUnconfiguredWithErrors (errors : List String) : Routine Unit := do
  perform (.setAgentId none)
  perform (.setConnectedService none)
  let current ← get
  (if current.state.engaged then perform (.transition .disconnected) else pure ())
  let current ← get
  (if current.state ≠ .unconfigured then perform (.transition .unconfigured) else pure ())
  perform (.setActiveErrors errors)

/-- `force_unconfigured`. -/
def forceUnconfigured (message : String) : Routine Unit :=
  forceUnconfiguredWithErrors [sanitize message]

/-- The key of the connection that is taken is deleted. -/
def deleteTaken : Option OpenPrinterConnection → Routine (Except String Unit)
  | some connection => deleteCredential connection.credentialRef
  | none => pure (.ok ())

/-- `forget_connection`, once the key is deleted. -/
def clearConnection : Routine (Except CommandError Unit) := do
  match ← setSetting (.connection none) with
  | .error text => return .error (.new "connection_store_failed" text)
  | .ok () =>
      perform (.setConnectionState .unpaired)
      forceUnconfiguredWithErrors []
      return .ok ()

/-- `forget_connection`. -/
def forgetConnection : Routine (Except CommandError Unit) := do
  perform (.setDocumentIdentity none)
  let taken ← get
  perform (.setConnection none)
  match ← deleteTaken taken.connection with
  | .error text => return .error (.new "credential_delete_failed" text)
  | .ok () => clearConnection

/-! ## The operations -/

/-- `pair_server`, before it takes the lock. -/
def pairServer (code agentName : String) : Routine Task :=
  if trim agentName ≠ agentName ∨ agentName.isEmpty ∨ 128 < agentName.utf8ByteSize then
    return .fail "invalid_agent_name"
      "Agent name must contain 1 to 128 characters without surrounding whitespace."
  else return .pairing code agentName

/-- The transition that an operation cannot do without is refused. -/
def transitionRefused (next : AgentState) : Routine Task := do
  let current ← get
  return .fail "internal"
    ("invalid agent transition from " ++ current.state.debug ++ " to " ++ next.debug)

/-- `pair_server` gives up before anything is stored. -/
def abandonPairing (connectionState : OpenPrinterConnectionState) (code message : String) :
    Routine Task := do
  perform (.transition .unconfigured)
  perform (.setConnectionState connectionState)
  return .fail code message

/-- `pair_server`, once the connection is saved. -/
def adoptConnection (connection : OpenPrinterConnection) : Routine Task := do
  perform (.setAgentId (some connection.agentId))
  perform (.setDocumentIdentity (some connection.identity))
  perform (.setConnection (some connection))
  perform (.setConnectionState .paired)
  perform (.setActiveErrors [])
  let transitioned ← attempt (.transition .disconnected)
  if transitioned then
    let _ ← Question.put (.send .reconnect)
    return .returned (.ok ())
  else transitionRefused .disconnected

/-- `pair_server`, once the server is discovered. -/
def pairDiscovered (code agentName serverUrl : String) (discovered : DiscoveredServer) :
    Routine Task := do
  match ← generateKey discovered.id with
  | .error text => abandonPairing .unpaired "credential_generation_failed" text
  | .ok generated =>
      match ← Question.put (.pair discovered code agentName generated.publicKey) with
      | .error text =>
          let _ ← deleteCredential generated.credentialRef
          abandonPairing .unpaired "pairing_failed" text
      | .ok paired =>
          let connection : OpenPrinterConnection :=
            { serverUrl := serverUrl
              serverId := paired.serverId
              agentId := paired.agentId
              keyId := paired.keyId
              credentialRef := generated.credentialRef }
          match ← setSetting (.connection (some connection)) with
          | .error text =>
              let cleanup ← deleteCredential connection.credentialRef
              abandonPairing .unpaired "connection_store_failed"
                ("Paired credential metadata could not be saved: " ++ text ++ ". " ++
                  if cleanup.isOk then "The newly generated local key was deleted safely."
                  else "Local key cleanup also failed and requires credential-store attention.")
          | .ok () => adoptConnection connection

/-- `pair_server`, with the lock. -/
def pairing (code agentName : String) : Routine Task := do
  let service ← get
  if service.connection.isSome then
    return .fail "already_paired" "Forget the current server before pairing again."
  else
    let transitioned ← attempt (.transition .pairing)
    if transitioned then
      perform (.setConnectionState .pairing)
      let service ← get
      match ← Question.put (.discover service.serverUrl) with
      | .error text => abandonPairing .discoveryFailed "discovery_failed" text
      | .ok discovered => pairDiscovered code agentName service.serverUrl discovered
    else transitionRefused .pairing

/-- `forget_server`. -/
def forgetServer : Routine Task := do
  match ← forgetConnection with
  | .error e => return .returned (.error e)
  | .ok () =>
      perform .advanceGeneration
      let _ ← Question.put (.send .configurationChanged)
      return .returned (.ok ())

/-- `apply_server_configuration`. -/
def applyServerConfiguration (serverUrl : String) : Routine Task := do
  let service ← get
  if service.serverUrl = serverUrl then return .returned (.ok ())
  else
    match ← forgetConnection with
    | .error e => return .returned (.error e)
    | .ok () =>
        match ← setSetting (.serverConfiguration serverUrl) with
        | .error _ =>
            perform .advanceGeneration
            forceUnconfigured
              "The server URL was not saved. Pair again after choosing the intended server."
            let _ ← Question.put (.send .configurationChanged)
            return .fail "configuration_store_failed"
              "The server URL could not be saved. The prior credential was deleted to keep the connection safe."
        | .ok () =>
            perform (.setServerUrl serverUrl)
            perform .advanceGeneration
            forceUnconfiguredWithErrors []
            let sent ← Question.put (.send .configurationChanged)
            if sent then return .returned (.ok ())
            else return .fail "internal" "Connection supervisor is unavailable."

/-- `DEFAULT_SERVER_URL`. -/
def defaultServerUrl : String := "http://127.0.0.1:8787/"

/-- `set_server_configuration`, and `apply_recent_server`. -/
def setServerConfiguration (normalized : Except String String) : Routine Task :=
  match normalized with
  | .error text => return .fail "invalid_server_configuration" text
  | .ok serverUrl => return .applyServerConfiguration serverUrl

/-- `reset_server_configuration`. -/
def resetServerConfiguration : Routine Task := return .applyServerConfiguration defaultServerUrl

/-- `discover_server`. -/
def discoverServer : Routine Task := do
  perform (.setConnectionState .discovering)
  let service ← get
  match ← Question.put (.discover service.serverUrl) with
  | .ok _ =>
      let service ← get
      perform (.setConnectionState (if service.connection.isSome then .paired else .unpaired))
      return .returned (.ok ())
  | .error text =>
      perform (.setConnectionState .discoveryFailed)
      setConnectionError text
      return .fail "discovery_failed" text

end DesktopService

end Oppa.Desktop
