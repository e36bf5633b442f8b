import Oppa.Desktop.Service
import Oppa.Protocol.Message

/-!
# The attempts of the supervisor

The supervisor captures the connection and the generation of the configuration before each attempt,
and goes on without the lock.  Where it takes the lock again it compares the generations.

* `connecting`, `authenticating`, `handleServerMessage`, … — what it does from one lock to the next.
* `desktop` — the operations and the supervisor as one program of threads.
* `Startup` — what the service finds when it starts, and makes of it.

When the supervisor waits and why is told by `Oppa.Desktop.Supervisor`, and what its planner offers
by `Oppa.Desktop.Handshake`; here it may begin an attempt at any time and offer anything.
-/

namespace Oppa.Desktop

open Foundation Protocol Script

namespace DesktopService

/-! ## The supervisor -/

/-- What the supervisor does with the lock, as long as the generation is that of its attempt. -/
def whileCurrent (attempt : ConnectionAttempt) (otherwise : Task) (body : Routine Task) :
    Routine Task := do
  let service ← get
  if service.providerGeneration = attempt.providerGeneration then body else return otherwise

/-- Reads which connection to use. -/
def planning : Routine Task := do
  let configured ← get
  let paired ← get
  let counted ← get
  match paired.connection with
  | some connection =>
      return .discovering ⟨connection, configured.serverUrl, counted.providerGeneration⟩
  | none => return .waiting

def discovering (attempt : ConnectionAttempt) : Routine Task := do
  match ← Question.put (.discover attempt.serverUrl) with
  | .error text =>
      perform (.setConnectionState .discoveryFailed)
      setConnectionError text
      return .waiting
  | .ok discovered =>
      if discovered.id ≠ attempt.connection.serverId then
        authenticationFailed
          "The configured URL now identifies a different server. Forget it and pair again." false
        return .waiting
      else return .connecting attempt discovered.gatewayUrl

def connecting (attempt : ConnectionAttempt) (gatewayUrl : String) : Routine Task :=
  whileCurrent attempt .waiting do
    perform (.setAgentId (some attempt.connection.agentId))
    perform (.setConnectedService none)
    perform (.setConnectionState .connecting)
    perform (.transition .connecting)
    return .opening attempt gatewayUrl

def opening (attempt : ConnectionAttempt) (gatewayUrl : String) : Routine Task := do
  match ← Question.put (.newTransport gatewayUrl) with
  | .error text => return .disconnecting attempt text
  | .ok () =>
      match ← Question.put (.connect gatewayUrl) with
      | .error text => return .disconnecting attempt text
      | .ok () => return .connected attempt gatewayUrl

def disconnecting (attempt : ConnectionAttempt) (text : String) : Routine Task :=
  whileCurrent attempt .waiting do
    perform (.transition .disconnected)
    setConnectionError text
    return .waiting

def connected (attempt : ConnectionAttempt) (gatewayUrl : String) : Routine Task :=
  whileCurrent attempt .waiting (return .authenticating attempt gatewayUrl)

/-- The gateway is not satisfied, or does not behave. -/
def rejectAttempt (message : String) (revoked : Bool) : Routine Task := do
  authenticationFailed message revoked
  return .waiting

/-- The answer to a challenge is sent, and the gateway tells what it thinks of it. -/
def awaitAcceptance (attempt : ConnectionAttempt) (gatewayUrl : String) : Routine Task := do
  match ← Question.put .receiveAuthentication with
  | .ok (.accepted accepted) =>
      if accepted.agentId = attempt.connection.agentId then return .greeting attempt gatewayUrl
      else rejectAttempt "Gateway authentication response was invalid." false
  | .ok _ => rejectAttempt "Gateway authentication response was invalid." false
  | .error ⟨_, some code⟩ =>
      rejectAttempt ("Gateway authentication failed: " ++ code) (code = "credential_revoked")
  | .error ⟨text, none⟩ =>
      setConnectionError text
      return .waiting

def answerChallenge (attempt : ConnectionAttempt) (gatewayUrl : String)
    (challenge : GatewayAuthenticationChallenge) : Routine Task := do
  match ← Question.put (.signChallenge attempt.connection.credentialRef challenge) with
  | .error text => rejectAttempt text false
  | .ok signature =>
      let response : GatewayAuthenticationResponse :=
        { messageType := "auth.response"
          challengeId := challenge.challengeId
          agentId := attempt.connection.agentId
          keyId := attempt.connection.keyId
          algorithm := "Ed25519"
          signature := signature }
      match ← Question.put (.sendAuthenticationResponse response) with
      | .error text =>
          setConnectionError text
          return .waiting
      | .ok () => awaitAcceptance attempt gatewayUrl

def authenticating (attempt : ConnectionAttempt) (gatewayUrl : String) : Routine Task := do
  perform (.setConnectionState .authenticating)
  match ← Question.put .receiveAuthentication with
  | .ok (.challenge challenge) => answerChallenge attempt gatewayUrl challenge
  | .ok _ => rejectAttempt "Gateway did not send an authentication challenge." false
  | .error failure => rejectAttempt failure.text false

/-- The hello is planned and sent. -/
def greeting (attempt : ConnectionAttempt) (gatewayUrl : String) : Routine Task := do
  let hello ← Question.put (.plan attempt.connection.serverId)
  match ← Question.put (.sendHello attempt.connection.agentId hello) with
  | .error text => return .disconnecting attempt text
  | .ok () =>
      return .session
        { attempt := attempt
          gatewayUrl := gatewayUrl
          helloMessageId := hello.messageId
          offered := hello.offered
          selected := none
          handshaken := false }

/-- The `select!` of a connection. -/
def session (gateway : GatewaySession) : Routine Task := do
  match ← Question.put .turn with
  | .helloTimeout => return if gateway.handshaken then .session gateway else .helloTimedOut gateway
  | .control .reconnect => return .ended gateway
  | .control .configurationChanged => return .ended gateway
  | .control .publishInventory =>
      return if gateway.handshaken then .publishing gateway else .session gateway
  | .control .shutdown => return .stopped
  | .report => return .reporting gateway
  | .received message => return .message gateway message
  | .failed text => return .receiveFailed gateway text

/-- The session ends with an error. -/
def failSession (gateway : GatewaySession) (text : String) : Routine Task := do
  setConnectionError text
  return .ended gateway

/-- Something is sent, and the session goes on unless that fails. -/
def transmit (gateway : GatewaySession) (delivery : Delivery) : Routine Task := do
  match ← Question.put (.transmit delivery) with
  | .error text => failSession gateway (delivery.diagnostic text)
  | .ok () => return .session gateway

def helloTimedOut (gateway : GatewaySession) : Routine Task :=
  whileCurrent gateway.attempt (.ended gateway)
    (failSession gateway "Gateway did not complete the server hello handshake in time.")

def publishing (gateway : GatewaySession) : Routine Task :=
  whileCurrent gateway.attempt (.ended gateway) (transmit gateway .inventory)

/-- A report is sent, or waits for the handshake. -/
def reporting (gateway : GatewaySession) : Routine Task :=
  whileCurrent gateway.attempt (.ended gateway)
    (if gateway.handshaken then transmit gateway .report else return .session gateway)

def receiveFailed (gateway : GatewaySession) (text : String) : Routine Task :=
  whileCurrent gateway.attempt (.ended gateway) (failSession gateway text)

/-- The hello of the server is accepted. -/
def completeHandshake (gateway : GatewaySession) (hello : ServerHello) : Routine Task := do
  let handshaken :=
    { gateway with selected := some hello.selectedProtocolVersion, handshaken := true }
  perform (.setConnectedService (some
    { name := hello.brand.name
      serverId := hello.serverId
      serverVersion := hello.serverVersion
      gatewayUrl := gateway.gatewayUrl }))
  perform (.setActiveErrors [])
  perform (.setConnectionState .connected)
  perform (.transition .connected)
  match ← Question.put (.transmit .inventory) with
  | .error text =>
      setConnectionError text
      return .recording handshaken true
  | .ok () =>
      match ← Question.put (.transmit .awaiting) with
      | .error text =>
          setConnectionError (Delivery.awaiting.diagnostic text)
          return .recording handshaken true
      | .ok () => return .recording handshaken false

/-- `handle_server_message`. -/
def handleServerMessage (gateway : GatewaySession) (message : ServerMessage) : Routine Task :=
  whileCurrent gateway.attempt (.ended gateway)
    (if gateway.handshaken = false ∧ message.isHandshake = false then
      failSession gateway
        ("Gateway sent " ++ message.kind.messageType ++
          " before completing the server hello handshake.")
    else if gateway.handshaken ∧ message.protocolVersion = .extended ∧
        gateway.selected ≠ some .extended then
      failSession gateway "Gateway used an extended protocol version that was not negotiated."
    else
      match message.kind with
      | .hello hello =>
          if gateway.handshaken ∨ message.correlationId ≠ some gateway.helloMessageId then
            failSession gateway "Gateway hello did not match the active handshake."
          else if hello.selectedProtocolVersion ∉ gateway.offered then
            failSession gateway "Gateway selected a protocol version the agent did not offer."
          else completeHandshake gateway hello
      | .heartbeat _ => transmit gateway .heartbeat
      | .requestPrinterInventory => transmit gateway .inventory
      | .configurationInvalidated _ => transmit gateway .inventory
      -- The agent works on a job beside the loop.
      | .printJob _ => return .session gateway
      | .cancelJob _ => return .session gateway
      | .disconnect _ => return .ended gateway)

/-- `store_cache_update`, once the lock is released. -/
def recording (gateway : GatewaySession) (finished : Bool) : Routine Task := do
  match ← Question.put (.learn gateway.selected) with
  | .unchanged => return if finished then .ended gateway else .session gateway
  | .clear =>
      let _ ← setSetting (.protocolNegotiation none)
      return if finished then .ended gateway else .session gateway
  | .store record =>
      let _ ← setSetting (.protocolNegotiation (some
        ⟨gateway.attempt.connection.serverId, record.legacyUntilMs⟩))
      return if finished then .ended gateway else .session gateway

/-- What is left to do when a connection has ended. -/
def ended (gateway : GatewaySession) : Routine Task :=
  whileCurrent gateway.attempt .waiting do
    perform (.setConnectedService none)
    let service ← get
    (if service.connectionState.transient then perform (.setConnectionState .paired) else pure ())
    perform (.transition .disconnected)
    return .waiting

end DesktopService

/-! ## The program -/

/-- What a task does. -/
def Task.body : Task → Routine Task
  | .pairServer code agentName => DesktopService.pairServer code agentName
  | .pairing code agentName => DesktopService.pairing code agentName
  | .forgetServer => DesktopService.forgetServer
  | .setServerConfiguration normalized => DesktopService.setServerConfiguration normalized
  | .resetServerConfiguration => DesktopService.resetServerConfiguration
  | .applyServerConfiguration serverUrl => DesktopService.applyServerConfiguration serverUrl
  | .discoverServer => DesktopService.discoverServer
  | .returned result => .done (.returned result)
  | .waiting => .done .planning
  | .planning => DesktopService.planning
  | .discovering attempt => DesktopService.discovering attempt
  | .connecting attempt gatewayUrl => DesktopService.connecting attempt gatewayUrl
  | .opening attempt gatewayUrl => DesktopService.opening attempt gatewayUrl
  | .disconnecting attempt text => DesktopService.disconnecting attempt text
  | .connected attempt gatewayUrl => DesktopService.connected attempt gatewayUrl
  | .authenticating attempt gatewayUrl => DesktopService.authenticating attempt gatewayUrl
  | .greeting attempt gatewayUrl => DesktopService.greeting attempt gatewayUrl
  | .session gateway => DesktopService.session gateway
  | .helloTimedOut gateway => DesktopService.helloTimedOut gateway
  | .publishing gateway => DesktopService.publishing gateway
  | .reporting gateway => DesktopService.reporting gateway
  | .message gateway received => DesktopService.handleServerMessage gateway received
  | .receiveFailed gateway text => DesktopService.receiveFailed gateway text
  | .recording gateway finished => DesktopService.recording gateway finished
  | .ended gateway => DesktopService.ended gateway
  | .stopped => .done .stopped

/-- Whether a task holds `provider_operation`. -/
def Task.locked : Task → Bool
  | .pairing _ _ | .forgetServer | .applyServerConfiguration _ => true
  | .planning | .connecting _ _ | .disconnecting _ _ | .connected _ _ | .helloTimedOut _
  | .publishing _ | .reporting _ | .message _ _ | .receiveFailed _ _ | .ended _ => true
  | _ => false

/-- Whether an operation begins with a task. -/
def Task.entry : Task → Bool
  | .pairServer _ _ | .forgetServer | .setServerConfiguration _ | .resetServerConfiguration
  | .discoverServer => true
  | _ => false

/-- The operations and the supervisor. -/
def desktop : Program DesktopService Command Question.Answer Task where
  apply command service := command.apply service
  body := Task.body
  locked := Task.locked
  entry := Task.entry

/-- Who runs. -/
inductive Party
  | supervisor
  | caller (n : ℕ)
  deriving DecidableEq, Repr

/-- What the service finds when it starts. -/
structure Startup where
  /-- The configuration that the settings lead to. -/
  serverUrl : String
  /-- Whether a configuration was stored, or an older one is taken over. -/
  configured : Bool
  storedServerUrl : Option String
  storedConnection : Option OpenPrinterConnection
  storedNegotiation : Option StoredNegotiation
  credentials : List String
  /-- The text of the error, when the credential store cannot be read. -/
  unreadable : Option String

namespace Startup

variable (startup : Startup)

/-- The connection that is used: one for the configured server, whose key is there. -/
def connection : Option OpenPrinterConnection :=
  startup.storedConnection.filter fun connection =>
    connection.serverUrl = startup.serverUrl ∧ startup.unreadable.isNone ∧
      connection.credentialRef ∈ startup.credentials

/-- What is said about a key that is not there. -/
def credentialError : Option String :=
  match startup.storedConnection with
  | none => none
  | some connection =>
      if connection.serverUrl ≠ startup.serverUrl then none
      else
        match startup.unreadable with
        | some text => some (sanitize text)
        | none =>
            if connection.credentialRef ∈ startup.credentials then none
            else some "The paired private key is missing; pair again."

/-- `DesktopService::initialize`. -/
def initialized : DesktopService where
  connection := startup.connection
  agentId := startup.connection.map (·.agentId)
  documentIdentity := startup.connection.map (·.identity)
  serverUrl := startup.serverUrl
  connectionState :=
    if startup.connection.isSome then .paired else if startup.configured then .unpaired else .idle
  connectedService := none
  state := if startup.connection.isSome then .disconnected else .unconfigured
  activeErrors := sanitizeActiveErrors startup.credentialError.toList
  providerGeneration := 0
  credentials := startup.credentials
  storedConnection := startup.storedConnection
  storedServerUrl := startup.storedServerUrl
  storedNegotiation := startup.storedNegotiation

/-- The service and its supervisor, which is about to plan its first attempt. -/
def pool : Pool DesktopService Command Question.Answer Task Party where
  shared := startup.initialized
  threads
    | .supervisor => some (.resting .planning)
    | .caller _ => none
  holder := none

end Startup

/-! ## A sample run -/

namespace Sample

/-- A service that starts with a pairing. -/
def start : Startup where
  serverUrl := "http://127.0.0.1:8787/"
  configured := true
  storedServerUrl := some "http://127.0.0.1:8787/"
  storedConnection := some
    { serverUrl := "http://127.0.0.1:8787/"
      serverId := "server-1"
      agentId := "agent-1"
      keyId := "kid-1"
      credentialRef := "key-1" }
  storedNegotiation := none
  credentials := ["key-1"]
  unreadable := none

/-- So many accesses of a thread. -/
def accesses (party : Party) (n : ℕ) : List (ThreadAction Question.Answer Task Party) :=
  List.replicate n (.advance party)

/-- The supervisor plans an attempt, and is about to discover the server. -/
def planned : List (ThreadAction Question.Answer Task Party) :=
  .enter .supervisor :: accesses .supervisor 4 ++ [.enter .supervisor]

/-- A server is forgotten, up to the point at which its key is to be deleted. -/
def forgetBegun : List (ThreadAction Question.Answer Task Party) :=
  [.call (.caller 1) .forgetServer, .enter (.caller 1)] ++ accesses (.caller 1) 3

/-- Everything that is left to be forgotten can be. -/
def forgetDone : List (ThreadAction Question.Answer Task Party) :=
  .answer (.caller 1) (.deleteCredential "key-1") (.ok ()) :: accesses (.caller 1) 1 ++
    .answer (.caller 1) (.setSetting (.connection none)) (.ok ()) :: accesses (.caller 1) 9 ++
    .answer (.caller 1) (.send .configurationChanged) true :: accesses (.caller 1) 1

end Sample

/-! ## What the tasks issue -/

/-- What is issued without the lock. -/
def Command.Loose : Command → Prop
  | .setConnectionState _ | .setActiveErrors _ | .transition .disconnected
  | .store (.protocolNegotiation _) => True
  | _ => False

/-- What the supervisor issues with the lock, for an attempt that is current. -/
def Command.Attempting (attempt : ConnectionAttempt) : Command → Prop
  | .setAgentId agentId => agentId = some attempt.connection.agentId
  | .setConnectedService _ | .setConnectionState _ | .setActiveErrors _ => True
  | .transition .connecting | .transition .connected | .transition .disconnected => True
  | _ => False

/-- A task belongs to an attempt, or to none. -/
def Task.Follows (attempt : Option ConnectionAttempt) (task : Task) : Prop :=
  ∀ other ∈ task.attempt, attempt = some other

section Issues

open Command DesktopService

variable {P : Command → Prop} {Q : Task → Prop} {attempt : ConnectionAttempt}
  {gateway : GatewaySession} {gatewayUrl text message : String}

lemma follows_of_none {attempt : Option ConnectionAttempt} {task : Task}
    (hnone : task.attempt = none) : task.Follows attempt := by
  simp [Task.Follows, hnone]

lemma follows_of_attempt {task : Task} (hattempt : task.attempt = some attempt) :
    task.Follows (some attempt) := by
  simp [Task.Follows, hattempt]

/-- What depends on an answer. -/
lemma only_put {β : Type} {question : Question} {rest : question.Answer → Routine β} {Q : β → Prop}
    (hrest : ∀ answer, (rest answer).Only P Q) : (question.put.andThen rest).Only P Q := hrest

/-- What depends on the state. -/
lemma only_read {β : Type} {rest : DesktopService → Routine β} {Q : β → Prop}
    (hrest : ∀ service, (rest service).Only P Q) :
    (Script.andThen Script.get rest : Routine β).Only P Q := hrest

/-- A command, and what follows. -/
lemma only_command {β : Type} {command : Command} {rest : Unit → Routine β} {Q : β → Prop}
    (hcommand : P command) (hrest : (rest ()).Only P Q) :
    (Script.andThen (perform command) rest : Routine β).Only P Q := ⟨hcommand, fun _ => hrest⟩

/-- A script whose result does not matter, and what follows. -/
lemma only_then {β δ : Type} {first : Routine β} {rest : β → Routine δ} {Q : δ → Prop}
    (hfirst : first.Only P fun _ => True) (hrest : ∀ result, (rest result).Only P Q) :
    (first.andThen rest).Only P Q :=
  only_andThen.mpr (hfirst.mono (fun _ => id) fun result _ => hrest result)

lemma only_setSetting {setting : Setting} (hstore : P (.store setting)) :
    (DesktopService.setSetting setting).Only P fun _ => True := by
  refine only_put fun answer => ?_
  split
  · exact only_command hstore trivial
  · trivial

lemma only_setConnectionError (herrors : ∀ errors, P (.setActiveErrors errors)) :
    (setConnectionError message).Only P fun _ => True :=
  ⟨herrors _, fun _ => trivial⟩

lemma only_authenticationFailed {revoked : Bool} :
    (authenticationFailed message revoked).Only Loose fun _ => True := by
  refine only_read fun current => only_then ?_ fun _ => ?_
  · split <;> simp [Loose]
  · exact only_command trivial ⟨trivial, fun _ => trivial⟩

lemma only_rejectAttempt {revoked : Bool} (hwaiting : Q .waiting) :
    (rejectAttempt message revoked).Only Loose Q :=
  only_then only_authenticationFailed fun _ => hwaiting

lemma only_awaitAcceptance (hwaiting : Q .waiting) (hgreeting : Q (.greeting attempt gatewayUrl)) :
    (awaitAcceptance attempt gatewayUrl).Only Loose Q := by
  refine only_put fun answer => ?_
  split
  · split
    · exact hgreeting
    · exact only_rejectAttempt hwaiting
  · exact only_rejectAttempt hwaiting
  · exact only_rejectAttempt hwaiting
  · exact only_then (only_setConnectionError fun _ => trivial) fun _ => hwaiting

lemma only_answerChallenge {challenge : GatewayAuthenticationChallenge} (hwaiting : Q .waiting)
    (hgreeting : Q (.greeting attempt gatewayUrl)) :
    (answerChallenge attempt gatewayUrl challenge).Only Loose Q := by
  refine only_put fun answer => ?_
  split
  · exact only_rejectAttempt hwaiting
  · refine only_put fun answer => ?_
    split
    · exact only_then (only_setConnectionError fun _ => trivial) fun _ => hwaiting
    · exact only_awaitAcceptance hwaiting hgreeting

lemma only_authenticating (hwaiting : Q .waiting) (hgreeting : Q (.greeting attempt gatewayUrl)) :
    (authenticating attempt gatewayUrl).Only Loose Q := by
  refine only_command trivial (only_put fun answer => ?_)
  split
  · exact only_answerChallenge hwaiting hgreeting
  · exact only_rejectAttempt hwaiting
  · exact only_rejectAttempt hwaiting

lemma only_discovering (hwaiting : Q .waiting)
    (hconnecting : ∀ gatewayUrl, Q (.connecting attempt gatewayUrl)) :
    (discovering attempt).Only Loose Q := by
  refine only_put fun answer => ?_
  split
  · exact only_command trivial
      (only_then (only_setConnectionError fun _ => trivial) fun _ => hwaiting)
  · split
    · exact only_then only_authenticationFailed fun _ => hwaiting
    · exact hconnecting _

lemma only_discoverServer (hreturned : ∀ result, Q (.returned result)) :
    discoverServer.Only Loose Q := by
  refine only_command trivial (only_read fun service => only_put fun answer => ?_)
  split
  · exact only_read fun service => only_command trivial (hreturned _)
  · exact only_command trivial
      (only_then (only_setConnectionError fun _ => trivial) fun _ => hreturned _)

lemma only_recording {finished : Bool} (hended : Q (.ended gateway)) (hsession : Q (.session gateway)) :
    (recording gateway finished).Only Loose Q := by
  have hnext : Q (if finished then .ended gateway else .session gateway) := by
    split
    · exact hended
    · exact hsession
  refine only_put fun answer => ?_
  split
  · exact hnext
  · exact only_then (only_setSetting trivial) fun _ => hnext
  · exact only_then (only_setSetting trivial) fun _ => hnext

/-- **What a task without the lock can do**, and which tasks follow it. -/
lemma Task.only_unlocked {task : Task} (hunlocked : task.locked = false) :
    task.body.Only Loose fun next => next.Follows task.attempt := by
  cases task with
  | pairServer code agentName =>
      show (DesktopService.pairServer code agentName).Only Loose _
      unfold DesktopService.pairServer
      split <;> exact follows_of_none rfl
  | setServerConfiguration normalized =>
      show (DesktopService.setServerConfiguration normalized).Only Loose _
      unfold DesktopService.setServerConfiguration
      split <;> exact follows_of_none rfl
  | resetServerConfiguration => exact follows_of_none rfl
  | discoverServer => exact only_discoverServer fun result => follows_of_none rfl
  | returned result => exact follows_of_none rfl
  | waiting => exact follows_of_none rfl
  | stopped => exact follows_of_none rfl
  | discovering attempt =>
      exact only_discovering (follows_of_none rfl) fun gatewayUrl => follows_of_attempt rfl
  | opening attempt gatewayUrl =>
      refine only_put fun answer => ?_
      split
      · exact follows_of_attempt rfl
      · refine only_put fun answer => ?_
        split <;> exact follows_of_attempt rfl
  | authenticating attempt gatewayUrl =>
      exact only_authenticating (follows_of_none rfl) (follows_of_attempt rfl)
  | greeting attempt gatewayUrl =>
      refine only_put fun hello => only_put fun answer => ?_
      split <;> exact follows_of_attempt rfl
  | session gateway =>
      refine only_put fun turn => ?_
      split
      · show Follows _ _
        split <;> exact follows_of_attempt rfl
      · exact follows_of_attempt rfl
      · exact follows_of_attempt rfl
      · show Follows _ _
        split <;> exact follows_of_attempt rfl
      · exact follows_of_none rfl
      · exact follows_of_attempt rfl
      · exact follows_of_attempt rfl
      · exact follows_of_attempt rfl
  | recording gateway finished =>
      exact only_recording (follows_of_attempt rfl) (follows_of_attempt rfl)
  | pairing | forgetServer | applyServerConfiguration | planning | connecting | disconnecting
  | connected | helloTimedOut | publishing | reporting | message | receiveFailed | ended =>
      cases hunlocked

/-- A task of the supervisor that may follow one of an attempt. -/
structure StaysWith (attempt : ConnectionAttempt) (task : Task) : Prop where
  follows : task.Follows (some attempt)
  returned : ∀ result, task ≠ .returned result

lemma staysWith_waiting : StaysWith attempt .waiting := ⟨follows_of_none rfl, fun _ h => by cases h⟩

lemma staysWith_of_attempt {task : Task} (hattempt : task.attempt = some attempt) :
    StaysWith attempt task where
  follows := follows_of_attempt hattempt
  returned := by
    rintro result rfl
    cases hattempt

/-- What the supervisor does with the lock: it looks whether its attempt is current, and if so it
issues what belongs to the attempt. -/
inductive Guarded (attempt : ConnectionAttempt) : Routine Task → Prop
  | intro {otherwise : Task} {body : Routine Task} (hotherwise : StaysWith attempt otherwise)
      (hbody : body.Only (Attempting attempt) (StaysWith attempt)) :
      Guarded attempt (whileCurrent attempt otherwise body)

lemma only_failSession (hended : Q (.ended gateway)) :
    (failSession gateway text).Only (Attempting attempt) Q :=
  only_then (only_setConnectionError fun _ => trivial) fun _ => hended

lemma only_transmit {delivery : Delivery} (hended : Q (.ended gateway))
    (hsession : Q (.session gateway)) :
    (transmit gateway delivery).Only (Attempting attempt) Q := by
  refine only_put fun answer => ?_
  split
  · exact only_failSession hended
  · exact hsession

lemma only_completeHandshake {hello : ServerHello}
    (hrecording : ∀ gateway' finished, gateway'.attempt = gateway.attempt →
      Q (.recording gateway' finished)) :
    (completeHandshake gateway hello).Only (Attempting attempt) Q := by
  have hfailed : ∀ gateway' text, gateway'.attempt = gateway.attempt →
      (do
        setConnectionError text
        return .recording gateway' true : Routine Task).Only (Attempting attempt) Q :=
    fun gateway' text hsame =>
      only_then (only_setConnectionError fun _ => trivial) fun _ => hrecording _ _ hsame
  refine only_command trivial (only_command trivial (only_command trivial
    (only_command trivial (only_put fun answer => ?_))))
  split
  · exact hfailed _ _ rfl
  · refine only_put fun answer => ?_
    split
    · exact hfailed _ _ rfl
    · exact hrecording _ _ rfl

lemma guarded_handleServerMessage {received : ServerMessage} :
    Guarded gateway.attempt (handleServerMessage gateway received) := by
  have hended : StaysWith gateway.attempt (.ended gateway) := staysWith_of_attempt rfl
  have hsession : StaysWith gateway.attempt (.session gateway) := staysWith_of_attempt rfl
  refine .intro hended ?_
  split
  · exact only_failSession hended
  · split
    · exact only_failSession hended
    · split
      · split
        · exact only_failSession hended
        · split
          · exact only_failSession hended
          · exact only_completeHandshake fun gateway' finished hsame =>
              staysWith_of_attempt (congrArg some hsame)
      · exact only_transmit hended hsession
      · exact only_transmit hended hsession
      · exact only_transmit hended hsession
      · exact hsession
      · exact hsession
      · exact hended

/-- **Every task of an attempt that takes the lock** looks whether the attempt is current. -/
lemma Task.guarded {task : Task} (hlocked : task.locked = true)
    (hattempt : task.attempt = some attempt) : Guarded attempt task.body := by
  cases task with
  | connecting attempt gatewayUrl =>
      obtain rfl := Option.some.inj hattempt
      exact .intro staysWith_waiting (only_command rfl (only_command trivial (only_command trivial
        (only_command trivial (staysWith_of_attempt rfl)))))
  | disconnecting attempt text =>
      obtain rfl := Option.some.inj hattempt
      exact .intro staysWith_waiting (only_command trivial
        (only_then (only_setConnectionError fun _ => trivial) fun _ => staysWith_waiting))
  | connected attempt gatewayUrl =>
      obtain rfl := Option.some.inj hattempt
      exact .intro staysWith_waiting (staysWith_of_attempt rfl)
  | helloTimedOut gateway =>
      obtain rfl := Option.some.inj hattempt
      exact .intro (staysWith_of_attempt rfl) (only_failSession (staysWith_of_attempt rfl))
  | publishing gateway =>
      obtain rfl := Option.some.inj hattempt
      exact .intro (staysWith_of_attempt rfl)
        (only_transmit (staysWith_of_attempt rfl) (staysWith_of_attempt rfl))
  | reporting gateway =>
      obtain rfl := Option.some.inj hattempt
      refine .intro (staysWith_of_attempt rfl) ?_
      split
      · exact only_transmit (staysWith_of_attempt rfl) (staysWith_of_attempt rfl)
      · exact staysWith_of_attempt rfl
  | message gateway received =>
      obtain rfl := Option.some.inj hattempt
      exact guarded_handleServerMessage
  | receiveFailed gateway text =>
      obtain rfl := Option.some.inj hattempt
      exact .intro (staysWith_of_attempt rfl) (only_failSession (staysWith_of_attempt rfl))
  | ended gateway =>
      obtain rfl := Option.some.inj hattempt
      refine .intro staysWith_waiting (only_command trivial (only_read fun service => ?_))
      refine only_then ?_ fun _ => only_command trivial staysWith_waiting
      split <;> simp [Attempting]
  | pairServer | pairing | forgetServer | setServerConfiguration | resetServerConfiguration
  | applyServerConfiguration | discoverServer | returned | waiting | planning | stopped =>
      cases hattempt
  | discovering | opening | authenticating | greeting | session | recording => cases hlocked

end Issues

end Oppa.Desktop
