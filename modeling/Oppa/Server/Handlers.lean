import Oppa.Server.Session

/-!
# The methods of a session

Each method of the session, from its start or from a point where it waited up to the next such
point, under the name it has in the class.

* `authenticate`, `credentialFound`, `rejectAuthentication` — authentication.
* `receiveMessage`, `completeHandshake`, `routeMessage` — inbound messages.
* `heartbeatExpired`, `protocolViolation`, `transportFailed`, `finalize` — the ways a session closes.
* `perform` — one instruction.
-/

namespace Oppa.Server

open Protocol

variable {Input : Type} (config : SessionConfig Input) (session : Session Input)

/-! ## Authentication -/

/-- The text a challenge asks to be signed. -/
def challengePayload (challengeId expiresAt : String) : String :=
  "\n".intercalate
    ["openprinter-auth-v1", config.serverId, config.sessionId, challengeId, config.nonce, expiresAt]

/-- `replaceAll('-', '')`. -/
def withoutHyphens (text : String) : String :=
  String.ofList (text.toList.filter fun c => c ≠ '-')

/-- `#beginAuthentication` up to its write. -/
def beginAuthentication : Outcome Input :=
  let challengeId := "challenge_" ++ withoutHyphens (config.uuid session.drawn)
  let expiresAt := session.now + config.challengeTtlMs
  let challenge : Challenge :=
    { challengeId := challengeId
      payload := challengePayload config challengeId (config.toISOString expiresAt)
      expiresAt := expiresAt }
  let session := { session.draw with challenge := some challenge }
  let next : Next Input :=
    if config.encodes (.challenge challenge) then
      session.write .authenticating (.challenge challenge) .challenge []
    else .fail
  ⟨session, next, [.challenged challenge]⟩

/-- `#rejectAuthentication`. -/
def rejectAuthentication (code : FailureCode) : Outcome Input :=
  if session.state = .authenticating then
    let session := { session.beginClosing .authenticationFailed with authenticationTimer := none }
    let next : Next Input :=
      if config.encodes (.rejected code) then
        .write (.rejected code) .last
          [.requestTransportClose ⟨.authenticationFailed, code.name⟩,
            .finalize .authenticationFailed none]
      else .fail
    ⟨session, next, [.entered .closing]⟩
  else done session []

/-- `#authenticate` up to the lookup of the credential. -/
def authenticate (input : Input) : Outcome Input :=
  let seen : List (Effect Input) := [.authenticating input session.now]
  match session.challenge with
  | none =>
    let outcome := rejectAuthentication config session .challengeInvalid
    { outcome with effects := seen ++ outcome.effects }
  | some challenge =>
    let consumed := { session with challengeConsumed := true }
    match config.decodeResponse input with
    | .error unsupported =>
      goto consumed
        (.rejectAuthentication (if unsupported then .unsupportedAlgorithm else .challengeInvalid))
        seen
    | .ok response =>
      if session.challengeConsumed then
        goto session (.rejectAuthentication .challengeConsumed) seen
      else if response.challengeId ≠ challenge.challengeId then
        goto consumed (.rejectAuthentication .challengeInvalid) seen
      else if challenge.expiresAt ≤ session.now then
        goto consumed (.rejectAuthentication .challengeExpired) seen
      else
        ⟨consumed, .lookup response, seen ++ [.lookedUp response.agentId response.keyId]⟩

/-- `#authenticate` from the answer of the store on. -/
def credentialFound (response : AuthenticationResponse) (answer : Option AgentCredentialRecord) :
    Outcome Input :=
  match answer, session.challenge with
  | some credential, some challenge =>
    if credential.revokedAt.isSome then
      goto session (.rejectAuthentication .credentialRevoked) []
    else if config.verify credential.publicKey challenge.payload response.signature then
      let session :=
        { session with authenticationTimer := none, identity := some credential.agentId }
      let frame := Frame.accepted credential.agentId
      let next :=
        if config.encodes frame then session.write .authenticating frame .accepted [] else .fail
      ⟨session, next, [.identified credential.agentId]⟩
    else goto session (.rejectAuthentication .invalidSignature) []
  | _, _ => goto session (.rejectAuthentication .credentialNotFound) []

/-! ## Inbound messages -/

/-- `#receiveMessage`. -/
def receiveMessage (input : Input) : Outcome Input :=
  if session.isClosing then done session []
  else if config.maxMessageBytes < config.byteLength input then
    goto session (.protocolViolation .messageTooLarge) []
  else if session.state = .authenticating then authenticate config session input
  else
    match config.decodeAgentMessage input with
    | .error code => goto session (.protocolViolation code) []
    | .ok message =>
      if message.protocolVersion = .extended ∧ session.state = .connected ∧
          session.protocolVersion ≠ .extended then
        goto session (.protocolViolation .unsupportedProtocolVersion) []
      else
        let session := { session with lastSeenAt := session.now }
        match message.kind with
        | .hello hello =>
          if session.state = .handshaking then
            goto session (.completeHandshake message.messageId hello) []
          else goto session (.protocolViolation .unexpectedMessage) []
        | _ =>
          if session.state = .handshaking then
            goto session (.protocolViolation .unexpectedMessage) []
          else goto session (.routeMessage message) []

/-- `selectProtocolVersion`. -/
def selectProtocolVersion (serverSupported offered : List ProtocolVersion) :
    Option ProtocolVersion :=
  if .extended ∈ serverSupported ∧ .extended ∈ offered then some .extended
  else if .base ∈ serverSupported ∧ .base ∈ offered then some .base
  else none

/-- The payload of `server.hello`; it lists only the version that was selected. -/
def helloPayload (selected : ProtocolVersion) : ServerHello where
  serverId := config.serverId
  serverVersion := config.serverVersion
  brand := ⟨config.brand⟩
  sessionId := config.sessionId
  supportedProtocolVersions := [selected]
  selectedProtocolVersion := selected
  heartbeatIntervalMs := UInt32.ofNat config.heartbeatIntervalMs
  maxMessageBytes := UInt32.ofNat config.maxMessageBytes

/-- `#completeHandshake` up to its write. -/
def completeHandshake (messageId : String) (hello : AgentHello) : Outcome Input :=
  match session.identity with
  | none => ⟨session, .fail, []⟩
  | some agentId =>
    if hello.agentId ≠ agentId then goto session (.protocolViolation .identityMismatch) []
    else
      match selectProtocolVersion config.protocolVersions hello.supportedProtocolVersions with
      | none => goto session (.protocolViolation .unsupportedProtocolVersion) []
      | some selected =>
        let message :=
          session.newMessage config (some messageId) (.hello (helloPayload config selected))
        let next : Next Input :=
          if config.encodes (.server message) then
            session.write .handshaking (.server message) (.hello hello selected) []
          else .fail
        ⟨session.draw, next, []⟩

/-- `samePrinterInventory`. -/
def samePrinterInventory (current incoming : List PrinterDescriptor) : Bool :=
  current.length = incoming.length && incoming.all fun printer => current.contains printer

/-- `Map.set` under the id of a printer. -/
def setPrinter (printers : List PrinterDescriptor) (printer : PrinterDescriptor) :
    List PrinterDescriptor :=
  if printers.any (·.id = printer.id) then
    printers.map fun old => if old.id = printer.id then printer else old
  else printers ++ [printer]

/-- `inventoryChangeError`, without its texts. -/
def inventoryChangeError (revision : Option UInt64) (printers : List PrinterDescriptor)
    (changed : PrinterInventoryChanged) : Bool :=
  let added := changed.added.map PrinterDescriptor.id
  let updated := changed.updated.map PrinterDescriptor.id
  let known := printers.map PrinterDescriptor.id
  match revision with
  | none => true
  | some current =>
    changed.revision ≤ current || !added.Nodup || !updated.Nodup ||
      added.any (fun id => id ∈ updated || id ∈ changed.removedPrinterIds) ||
      updated.any (· ∈ changed.removedPrinterIds) || added.any (· ∈ known) ||
      (updated ++ changed.removedPrinterIds).any (· ∉ known)

/-- `agent.heartbeat`. -/
def routeHeartbeat (correlationId : Option String) : Outcome Input :=
  match session.pendingHeartbeats.find? fun entry => some entry.1 = correlationId with
  | none => goto session (.protocolViolation .unexpectedMessage) []
  | some entry =>
    let session :=
      { session with
        pendingHeartbeats := session.pendingHeartbeats.filter fun other => other.1 ≠ entry.1
        lastHeartbeatAt := session.now }
    done
      { session.prunePendingHeartbeats config with
        heartbeatDeadline := some (session.now + config.heartbeatTimeoutMs) }
      [.heartbeatAnswered entry.1 session.now]

/-- `agent.printer_inventory`. -/
def routeInventory (inventory : PrinterInventory) : Outcome Input :=
  if session.printerRevision.any fun current => inventory.revision < current then
    goto session (.protocolViolation .unexpectedMessage) []
  else if session.printerRevision = some inventory.revision then
    if samePrinterInventory session.printers inventory.printers then done session []
    else goto session (.protocolViolation .unexpectedMessage) []
  else
    let session :=
      { session with
        printers := inventory.printers.foldl setPrinter []
        printerRevision := some inventory.revision }
    ⟨session, notify config (.printersChanged session.snapshot inventory.revision session.printers) [],
      []⟩

/-- `agent.printer_inventory_changed`. -/
def routeInventoryChanged (changed : PrinterInventoryChanged) : Outcome Input :=
  if inventoryChangeError session.printerRevision session.printers changed then
    goto session (.protocolViolation .unexpectedMessage) []
  else
    let kept := session.printers.filter fun printer => printer.id ∉ changed.removedPrinterIds
    let session :=
      { session with
        printers := changed.updated.foldl setPrinter (changed.added.foldl setPrinter kept)
        printerRevision := some changed.revision }
    ⟨session, notify config (.printersChanged session.snapshot changed.revision session.printers) [],
      []⟩

/-- `#routeMessage`. -/
def routeMessage (message : AgentMessage) : Outcome Input :=
  match message.kind with
  | .hello _ => done session []
  | .heartbeat _ => routeHeartbeat config session message.correlationId
  | .printerInventory inventory => routeInventory config session inventory
  | .printerInventoryChanged changed => routeInventoryChanged config session changed
  | .jobReceived payload => ⟨session, notify config (.jobReceived session.snapshot payload) [], []⟩
  | .jobSubmitted payload => ⟨session, notify config (.jobSubmitted session.snapshot payload) [], []⟩
  | .jobFailed payload => ⟨session, notify config (.jobFailed session.snapshot payload) [], []⟩
  | .diagnostics payload =>
    match session.identity with
    | none => ⟨session, .fail, []⟩
    | some agentId =>
      if payload.agentId ≠ agentId then goto session (.protocolViolation .identityMismatch) []
      else ⟨session, notify config (.diagnostics session.snapshot payload) [], []⟩

/-! ## Heartbeats -/

/-- `#sendHeartbeat` up to its write. -/
def sendHeartbeat : Outcome Input :=
  if session.state = .connected then
    let session := session.prunePendingHeartbeats config
    let message := session.newMessage config none
      (.heartbeat ⟨UInt32.ofNat config.heartbeatTimeoutMs⟩)
    let session :=
      { session.draw with
        pendingHeartbeats := session.pendingHeartbeats ++ [(message.messageId, session.now)] }
    if config.encodes (.server message) then
      ⟨session, session.write .connected (.server message) (.heartbeat message.messageId) [], []⟩
    else ⟨session, .fail, []⟩
  else done session []

/-! ## Closing -/

/-- A closing that tells the agent first: the message is written, the transport closed, the session
finalized, and `codes` follow. -/
def closeWith (session : Session Input) (reason : DisconnectReason) (detail : String)
    (disconnect : Disconnect) (codes : List (Code Input)) : Outcome Input :=
  let frame := Frame.server (session.newMessage config none (.disconnect disconnect))
  let next : Next Input :=
    if config.encodes frame then
      .write frame .last
        (.requestTransportClose ⟨reason, detail⟩ :: .finalize reason none :: codes)
    else .fail
  ⟨session.draw.beginClosing reason, next, [.entered .closing]⟩

/-- `#heartbeatExpired`. -/
def heartbeatExpired : Outcome Input :=
  if session.state = .connected then
    closeWith config session .heartbeatTimeout "Heartbeat timeout"
      { code := "heartbeat_timeout"
        reason := "The agent did not answer protocol heartbeats in time."
        reconnect := true
        retryAfterMs := some (UInt32.ofNat config.heartbeatIntervalMs) }
      [.invoke (.heartbeatTimeout session.snapshot session.lastHeartbeatAt)]
  else done session []

/-- `#protocolViolation`. -/
def protocolViolation (code : ProtocolErrorCode) : Outcome Input :=
  let agentId := session.identity.getD "unauthenticated"
  match session.state with
  | .closed | .closing => done session []
  | .authenticating => goto session (.rejectAuthentication .challengeInvalid) [.violated code]
  | .connected =>
    let outcome := closeWith config session .protocolError "Protocol error"
      { code := "protocol_error"
        reason := "The connection violated the OpenPrinter protocol."
        reconnect := false
        retryAfterMs := none }
      [.invoke (.protocolError session.snapshot agentId code)]
    { outcome with effects := .violated code :: outcome.effects }
  | .handshaking =>
    ⟨session.beginClosing .protocolError,
      .continue
        [.requestTransportClose ⟨.protocolError, "Protocol error"⟩, .finalize .protocolError none,
          .invoke (.protocolError none agentId code)],
      [.violated code, .entered .closing]⟩

/-- `#handleTransportClosed`. -/
def handleTransportClosed (reason : Option DisconnectReason) (detail : Option String) :
    Outcome Input :=
  if session.state = .closed then done session []
  else goto session (.finalize ((session.disconnectReason.or reason).getD .peerClosed) detail) []

/-- `#transportFailed`. -/
def transportFailed (detail : String) : Outcome Input :=
  if session.state = .closed then done session []
  else
    ⟨session.beginClosing .transportError,
      .continue
        [.requestTransportClose ⟨.transportError, detail⟩, .finalize .transportError (some detail)],
      [.entered .closing]⟩

/-- `#requestTransportClose`. -/
def requestTransportClose (request : CloseRequest) : Outcome Input :=
  if session.transportCloseRequested then done session []
  else ⟨{ session with transportCloseRequested := true }, .close, [.closeRequested request]⟩

/-- `#finalize`. -/
def finalize (reason : DisconnectReason) (detail : Option String) : Outcome Input :=
  if session.state = .closed then done session []
  else
    let closed :=
      { session.clearTimers with
        state := .closed
        disconnectReason := some reason
        pendingHeartbeats := [] }
    match session.snapshot with
    | none => done closed [.entered .closed]
    | some agent =>
      ⟨closed, notify config (.agentDisconnected agent reason detail) [], [.entered .closed]⟩

/-! ## After a write -/

/-- What follows a successful write. -/
def writtenOk : Written → Outcome Input
  | .challenge =>
      done
        { session with
          authenticationTimer := some (session.now + config.authenticationTimeoutMs) } []
  | .accepted =>
      done
        { session with
          state := .handshaking
          handshakeTimer := some (session.now + config.handshakeTimeoutMs) }
        [.entered .handshaking]
  | .hello hello selected =>
      let session :=
        { session with
          handshakeTimer := none
          protocolVersion := selected
          hello := some hello
          connectedAt := some session.now
          lastHeartbeatAt := session.now
          state := .connected
          heartbeatTimer := some (session.now + config.heartbeatIntervalMs)
          heartbeatDeadline := some (session.now + config.heartbeatTimeoutMs) }
      ⟨session, notify config (.agentConnected session.snapshot) [.sendHeartbeat],
        [.negotiated selected, .entered .connected]⟩
  | .heartbeat _ | .last => done session []
  | .application message => goto session (.returnSend (.ok message.messageId message.sentAt)) []

/-- What follows a write that failed. -/
def writtenFailed (name : String) : Written → Outcome Input
  | .challenge | .accepted | .hello _ _ => goto session (.transportFailed name) []
  | .heartbeat messageId =>
      goto
        { session with
          pendingHeartbeats := session.pendingHeartbeats.filter fun entry =>
            entry.1 ≠ messageId }
        (.transportFailed name) []
  | .last => done session []
  | .application _ =>
      ⟨session, .continue [.transportFailed name, .returnSend .transportError], []⟩

/-! ## Calls of the host -/

/-- `send`, up to its write. -/
def send (application : ApplicationMessage) : Outcome Input :=
  let required := application.message.kind.requiredVersion
  let message := { application.message with protocolVersion := required }
  if session.state = .connected ∧ required = .extended ∧ session.protocolVersion ≠ .extended then
    done session [.sendReturned .protocolVersionUnsupported]
  else if ¬ config.encodes (.server message) ∨
      config.maxMessageBytes < config.encodedBytes message then
    done session [.sendThrew]
  else if session.state = .authenticating ∨ session.state = .handshaking then
    done session [.sendReturned .sessionNotReady]
  else if session.state ≠ .connected then done session [.sendReturned .connectionClosed]
  else ⟨session, session.write .connected (.server message) (.application message) [], []⟩

/-- `disconnect`, up to its write. -/
def disconnect (options : DisconnectOptions) : Outcome Input :=
  if session.isClosing then done session [.disconnectReturned false]
  else
    let detail := options.reason.getD "Server disconnect"
    if session.state = .connected then
      closeWith config session .serverDisconnect detail
        { code := options.code.getD "server_disconnect"
          reason := options.reason.getD "The host application closed this connection."
          reconnect := options.reconnect.getD true
          retryAfterMs := options.retryAfterMs }
        [.returnDisconnect]
    else
      ⟨session.beginClosing .serverDisconnect,
        .continue
          [.requestTransportClose ⟨.serverDisconnect, detail⟩, .finalize .serverDisconnect none,
            .returnDisconnect],
        [.entered .closing]⟩

/-! ## All of them -/

/-- One instruction. -/
def perform : Code Input → Outcome Input
  | .beginAuthentication => beginAuthentication config session
  | .receiveMessage input => receiveMessage config session input
  | .credentialFound response answer => credentialFound config session response answer
  | .rejectAuthentication code => rejectAuthentication config session code
  | .completeHandshake messageId hello => completeHandshake config session messageId hello
  | .routeMessage message => routeMessage config session message
  | .sendHeartbeat => sendHeartbeat config session
  | .heartbeatExpired => heartbeatExpired config session
  | .protocolViolation code => protocolViolation config session code
  | .handleTransportClosed reason detail => handleTransportClosed session reason detail
  | .transportFailed detail => transportFailed session detail
  | .requestTransportClose request => requestTransportClose session request
  | .finalize reason detail => finalize config session reason detail
  | .invoke event => ⟨session, notify config event [], []⟩
  | .written purpose .ok => writtenOk config session purpose
  | .written purpose (.failed name) => writtenFailed session name purpose
  | .send message => send config session message
  | .returnSend result => done session [.sendReturned result]
  | .disconnect options => disconnect config session options
  | .returnDisconnect => done session [.disconnectReturned true]

end Oppa.Server
