import Oppa.Server.Handlers

/-!
# The event loop

How the tasks of a session take turns.  A task that runs is not interrupted before it waits; while
none runs, the surroundings act: the host calls, time passes, timers fire, the transport, the store
and the callbacks answer, and the queues advance.

* `Action` — the steps, in any order and at any time.
* `Session.advance` — one instruction of the task that runs; `Session.react` — a step from outside.
* `sessionSystem` — the machine.
-/

namespace Oppa.Server

open Protocol

section Machine

variable {Input : Type} (config : SessionConfig Input) (session : Session Input)

/-- Steps of a session and its surroundings. -/
inductive Action (Input : Type)
  -- calls of the host
  | receive (input : Input)
  | transportClosed (reason : Option DisconnectReason) (detail : Option String)
  | send (message : ApplicationMessage)
  | disconnect (options : DisconnectOptions)
  -- time
  | elapse (ms : ℕ)
  | authenticationTimer
  | handshakeTimer
  | heartbeatTimer
  | heartbeatDeadline
  -- the event loop
  | process
  | advance
  | startWrite
  | settleWrite (result : WriteResult)
  | resumeWrite (index : ℕ)
  | settleClose (index : ℕ)
  | answerLookup (answer : Option (Option AgentCredentialRecord))
  | settleCallback (index : ℕ) (ok : Bool)
  deriving DecidableEq, Repr

namespace Session

/-- Starts or resumes a task. -/
def resume (owner : Owner) (stack : List (Code Input)) : Session Input :=
  { session with running := some ⟨owner, stack⟩ }

/-- A task ends; an operation of the inbound queue makes room for the next. -/
def finish (owner : Owner) : Session Input :=
  { session with running := none, busy := session.busy && owner = .call }

/-- An exception ends the functions of a task; one of an operation is taken for a violation. -/
def throw (owner : Owner) : Session Input :=
  match owner with
  | .processing => session.resume .handling [.protocolViolation .invalidMessage]
  | .handling | .call => session.finish owner

/-- What becomes of a task after an instruction. -/
def proceed (owner : Owner) (stack : List (Code Input)) : Next Input → Session Input
  | .continue codes => session.resume owner (codes ++ stack)
  | .write frame purpose codes =>
      { session with
        running := none
        outbound := session.outbound ++ [⟨frame, purpose, ⟨owner, codes ++ stack⟩⟩] }
  | .close => { session with running := none, closing := session.closing ++ [⟨owner, stack⟩] }
  | .lookup response => { session with running := none, lookup := some (response, ⟨owner, stack⟩) }
  | .callback event codes =>
      { session with
        running := none
        callbacks := session.callbacks ++ [(event, ⟨owner, codes ++ stack⟩)] }
  | .fail => session.throw owner

/-- What the scheduling of an instruction shows. -/
def nextEffects : Next Input → List (Effect Input)
  | .write frame _ _ => [.enqueued frame]
  | .callback event _ => [.invoked event]
  | _ => []

/-- One instruction of the task that runs. -/
def advance (task : Task Input) : Session Input × List (Effect Input) :=
  match task.stack with
  | [] => (session.finish task.owner, [])
  | code :: stack =>
    let outcome := perform config session code
    (outcome.session.proceed task.owner stack outcome.next,
      outcome.effects ++ nextEffects outcome.next)

/-- A timer that is due. -/
def isDue (timer : Option ℕ) : Bool := timer.any (· ≤ session.now)

/-- A step from outside, while no task runs. -/
def react : Action Input → Option (Session Input × List (Effect Input))
  | .receive input =>
      some ({ session with processing := session.processing ++ [.receiveMessage input] },
        [.received input session.now])
  | .transportClosed reason detail =>
      some ({ session with
        processing := session.processing ++ [.handleTransportClosed reason detail] }, [])
  | .send message => some (session.resume .call [.send message], [])
  | .disconnect options => some (session.resume .call [.disconnect options], [])
  | .elapse ms => some ({ session with now := session.now + ms }, [])
  | .authenticationTimer =>
      if session.isDue session.authenticationTimer then
        some ({ session with
          authenticationTimer := none
          processing := session.processing ++ [.rejectAuthentication .authenticationTimeout] }, [])
      else none
  | .handshakeTimer =>
      if session.isDue session.handshakeTimer then
        some ({ session with
          handshakeTimer := none
          processing := session.processing ++ [.protocolViolation .handshakeTimeout] }, [])
      else none
  | .heartbeatTimer =>
      if session.isDue session.heartbeatTimer then
        some (({ session with
          heartbeatTimer := session.heartbeatTimer.map (· + config.heartbeatIntervalMs) }).resume
            .call [.sendHeartbeat], [])
      else none
  | .heartbeatDeadline =>
      if session.isDue session.heartbeatDeadline then
        some (({ session with heartbeatDeadline := none }).resume .call [.heartbeatExpired], [])
      else none
  | .process =>
      match session.processing with
      | operation :: rest =>
        if session.busy then none
        else some (({ session with processing := rest, busy := true }).resume .processing
          [operation], [])
      | [] => none
  | .startWrite =>
      match session.inFlight, session.outbound with
      | none, write :: rest =>
          some ({ session with inFlight := some write, outbound := rest },
            [.sent write.frame session.now])
      | _, _ => none
  | .settleWrite result =>
      session.inFlight.map fun write =>
        ({ session with inFlight := none, settled := session.settled ++ [(write, result)] }, [])
  | .resumeWrite index =>
      session.settled[index]?.map fun entry =>
        (({ session with settled := session.settled.eraseIdx index }).resume entry.1.task.owner
          (.written entry.1.purpose entry.2 :: entry.1.task.stack), [])
  | .settleClose index =>
      session.closing[index]?.map fun task =>
        (({ session with closing := session.closing.eraseIdx index }).resume task.owner task.stack,
          [])
  | .answerLookup answer =>
      session.lookup.map fun entry =>
        let session := { session with lookup := none }
        match answer with
        | some answer =>
          (session.resume entry.2.owner (.credentialFound entry.1 answer :: entry.2.stack),
            [.found answer])
        | none => (session.throw entry.2.owner, [])
  | .settleCallback index ok =>
      session.callbacks[index]?.map fun entry =>
        let session := { session with callbacks := session.callbacks.eraseIdx index }
        if ok || entry.1.name = .onCallbackError then
          (session.resume entry.2.owner entry.2.stack, [])
        else
          (session.resume entry.2.owner
            (.invoke (.callbackError entry.1.name) :: entry.2.stack), [])
  | .advance => none

/-- One step: the task that runs is not interrupted. -/
def step (action : Action Input) : Option (Session Input × List (Effect Input)) :=
  match session.running, action with
  | some task, .advance => some (session.advance config task)
  | some _, _ => none
  | none, action => session.react config action

end Session

/-- The session as a machine. -/
def sessionSystem : History.System (Session Input) (Action Input) (Effect Input) where
  step := Session.step config

end Machine

/-! ## A server and its agent -/

namespace Sample

/-- What the agent of the samples sends. -/
inductive Wire
  | response
  | hello
  | received
  | answer (heartbeat : String)
  deriving DecidableEq, Repr

/-- Distinct identifiers. -/
def uuid (n : ℕ) : String := String.ofList (List.replicate (n + 1) 'u')

def hello : AgentHello where
  agentId := "agent_1"
  agentVersion := "1.0.0"
  productId := "product_1"
  productVersion := "1.0.0"
  supportedProtocolVersions := [.base]

/-- A message of the agent. -/
def message (correlationId : Option String) (kind : AgentMessageKind) : AgentMessage where
  protocolVersion := .base
  messageId := "message_1"
  sentAt := "2026-07-01T09:00:00.000Z"
  correlationId := correlationId
  kind := kind

def credential : AgentCredentialRecord where
  agentId := "agent_1"
  keyId := "key_1"
  publicKey := "public"
  revokedAt := none

/-- A server with the default timers that knows one agent. -/
def config : SessionConfig Wire where
  brand := "Brand"
  callbackTimeoutMs := 5000
  authenticationTimeoutMs := 30000
  challengeTtlMs := 30000
  handshakeTimeoutMs := 10000
  heartbeatIntervalMs := 15000
  heartbeatTimeoutMs := 45000
  maxMessageBytes := 1048576
  transportTimeoutMs := 10000
  protocolVersions := ProtocolVersion.supported
  serverId := "server_1"
  serverVersion := "1.0.0"
  interval_pos := by decide
  interval_lt := by decide
  callback_lt := by decide
  transport_lt := by decide
  base_mem := by decide
  sessionId := "session_1"
  startedAt := 0
  handles := fun _ => true
  uuid := uuid
  nonce := "nonce"
  toISOString := fun _ => "2026-07-01T09:00:00.000Z"
  byteLength := fun _ => 100
  decodeResponse
    | .response =>
        .ok ⟨"challenge_" ++ withoutHyphens (uuid 0), "agent_1", "key_1", "signature"⟩
    | _ => .error false
  decodeAgentMessage
    | .hello => .ok (message none (.hello hello))
    | .received => .ok (message none (.jobReceived
        ⟨"job_1", "delivery:job_1", .received, "2026-07-01T09:00:00.000Z"⟩))
    | .answer heartbeat => .ok (message (some heartbeat) (.heartbeat ⟨1⟩))
    | .response => .error .invalidMessage
  verify := fun publicKey _ signature => publicKey = "public" && signature = "signature"
  encodes := fun _ => true
  encodedBytes := fun _ => 100

/-- A write that the transport takes, and the instructions after it. -/
def written (after : ℕ) : List (Action Wire) :=
  [.startWrite, .settleWrite .ok, .resumeWrite 0] ++ List.replicate after .advance

/-- The session up to the write of `auth.accepted`, which waits. -/
def authenticated : List (Action Wire) :=
  [.process, .advance] ++ written 2 ++
    [.receive .response, .process, .advance] ++
    [.answerLookup (some (some credential)), .advance]

/-- The session up to the write of `server.hello`, which waits. -/
def greeted : List (Action Wire) :=
  authenticated ++ written 2 ++ [.receive .hello, .process] ++ List.replicate 2 .advance

/-- The session up to the first heartbeat, which the agent has not answered yet. -/
def connected : List (Action Wire) :=
  greeted ++ written 1 ++ [.settleCallback 0 true, .advance] ++ written 2

end Sample

end Oppa.Server
