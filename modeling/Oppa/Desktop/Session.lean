import Oppa.Desktop.Advertise
import Oppa.Transport.WebSocket

/-!
# The session of an agent

What the loop of the supervisor sends over a connection whose hello is written: an inventory when
the server says hello, answers to what the server asks, and what the agent has to report.

* `AgentSession`, `Occasion` — the session, and what is at hand when a message is handled.
* `AgentSession.handleServerMessage`, `AgentSession.report`, `AgentSession.publish` — the turns of
  the loop.
* `conversation` — the session as a system.  What can be told of a run are the hello that is
  accepted, the messages that are handed to the transport, and what the transport does with them.

A stale session, one whose configuration has changed, leaves the loop at its next turn.
-/

namespace Oppa.Desktop

open Protocol Transport History

/-! ## The data -/

/-- `OUTBOUND_BUFFER_CAPACITY`. -/
def outboundBufferCapacity : ℕ := 256

/-- How a turn of the loop ends. -/
inductive MessageDisposition
  | stay
  | reconnect
  | stop
  deriving DecidableEq, Repr

/-- What is at hand when a message is handled. -/
structure Occasion where
  /-- Whether the configuration is the one the session was opened for. -/
  current : Bool
  /-- The answer of `protocol_descriptors`. -/
  descriptors : Except String (List Protocol.PrinterDescriptor)
  revision : UInt64
  uptimeSeconds : UInt64
  uuid : Uuid
  sentAt : Timestamp
  /-- How the writes come out, in order; those that are not mentioned succeed. -/
  writes : List Written

/-- What the loop keeps of a connection, from the point at which the hello is written. -/
structure AgentSession where
  transport : WebSocketTransport
  helloMessageId : String
  offered : List ProtocolVersion
  handshaken : Bool
  selected : Option ProtocolVersion
  awaitingHandshake : List AgentMessage
  ended : Bool
  deriving DecidableEq, Repr

/-- What can be told of a run. -/
inductive SessionEvent
  /-- The server has said hello, and the agent has accepted it. -/
  | accepted (hello : ServerHello)
  /-- A message is handed to the transport. -/
  | handed (message : AgentMessage)
  | transport (event : TransportEvent)
  deriving DecidableEq, Repr

/-- The session after a turn, what can be told of it, and how it ends. -/
structure Turn where
  session : AgentSession
  events : List SessionEvent
  disposition : MessageDisposition

/-- A turn that sends nothing. -/
def AgentSession.quiet (session : AgentSession) (disposition : MessageDisposition) : Turn :=
  ⟨session, [], disposition⟩

/-- The message of `send_inventory`. -/
def inventoryMessage (display : Timestamp → String)
    (descriptors : List Protocol.PrinterDescriptor) (occasion : Occasion)
    (correlationId : Option String) (version : ProtocolVersion) : AgentMessage :=
  envelope display
    (.printerInventory
      { revision := occasion.revision, printers := projectInventory descriptors version })
    correlationId occasion.uuid occasion.sentAt

/-- The answer to a heartbeat. -/
def heartbeatMessage (display : Timestamp → String) (occasion : Occasion) (messageId : String) :
    AgentMessage :=
  envelope display (.heartbeat { uptimeSeconds := occasion.uptimeSeconds }) (some messageId)
    occasion.uuid occasion.sentAt

namespace AgentSession

variable (session : AgentSession)

/-! ## Turns of the loop -/

/-- `transport.send`; every caller reconnects when it fails. -/
def transmit (message : AgentMessage) (written : Written) : Turn :=
  let outcome := session.transport.send message [written]
  { session := { session with transport := outcome.transport }
    events := .handed message :: outcome.events.map .transport
    disposition := if outcome.result.isOk then .stay else .reconnect }

/-- The reports that have waited for the handshake are sent; after a failure the rest is rejected. -/
def flushAwaiting : AgentSession → List AgentMessage → List Written → Turn
  | session, [], _ => quiet { session with awaitingHandshake := [] } .stay
  | session, message :: awaiting, writes =>
      let sent := session.transmit message (writes.head?.getD none)
      match sent.disposition with
      | .stay =>
          let rest := flushAwaiting sent.session awaiting writes.tail
          { rest with events := sent.events ++ rest.events }
      | _ => { sent with session := { sent.session with awaitingHandshake := [] } }

variable (display : Timestamp → String)

/-- `send_inventory`, in the version that is selected. -/
def sendInventory (occasion : Occasion) (correlationId : Option String) : Turn :=
  match occasion.descriptors with
  | .error _ => session.quiet .reconnect
  | .ok descriptors =>
      session.transmit
        (inventoryMessage display descriptors occasion correlationId (session.selected.getD .base))
        (occasion.writes.head?.getD none)

/-- The handshake is completed; the limit that the hello tells is not kept. -/
def completeHandshake (hello : ServerHello) (occasion : Occasion) : Turn :=
  let described :=
    sendInventory
      { session with selected := some hello.selectedProtocolVersion, handshaken := true }
      display occasion none
  match described.disposition with
  | .stay =>
      let flushed :=
        described.session.flushAwaiting described.session.awaitingHandshake occasion.writes.tail
      { flushed with events := .accepted hello :: (described.events ++ flushed.events) }
  | _ => { described with events := .accepted hello :: described.events }

/-- `handle_server_message`. -/
def handleServerMessage (message : ServerMessage) (occasion : Occasion) : Turn :=
  if occasion.current = false then session.quiet .stop
  else if session.handshaken = false ∧ message.isHandshake = false then session.quiet .reconnect
  else if session.handshaken ∧ message.protocolVersion = .extended ∧
      session.selected ≠ some .extended then
    session.quiet .reconnect
  else
    match message.kind with
    | .hello hello =>
        if session.handshaken ∨ message.correlationId ≠ some session.helloMessageId then
          session.quiet .reconnect
        else if hello.selectedProtocolVersion ∉ session.offered then session.quiet .reconnect
        else session.completeHandshake display hello occasion
    | .heartbeat _ =>
        session.transmit (heartbeatMessage display occasion message.messageId)
          (occasion.writes.head?.getD none)
    | .requestPrinterInventory => session.sendInventory display occasion (some message.messageId)
    | .configurationInvalidated _ => session.sendInventory display occasion none
    -- The agent works on a job beside the loop, and reports on it later.
    | .printJob _ => session.quiet .stay
    | .cancelJob _ => session.quiet .stay
    | .disconnect disconnect =>
        if disconnect.reconnect then session.quiet .reconnect else session.quiet .stop

/-- The agent has something to report. -/
def report (message : AgentMessage) (occasion : Occasion) : Turn :=
  if occasion.current = false then session.quiet .stop
  else if session.handshaken then
    session.transmit message (occasion.writes.head?.getD none)
  else if session.awaitingHandshake.length < outboundBufferCapacity then
    quiet { session with awaitingHandshake := session.awaitingHandshake ++ [message] } .stay
  else session.quiet .stay

/-- `ConnectionControl::PublishInventory`. -/
def publish (occasion : Occasion) : Turn :=
  if session.handshaken = false then session.quiet .stay
  else if occasion.current = false then session.quiet .stop
  else session.sendInventory display occasion none

/-- The loop is left. -/
def leave : AgentSession × List SessionEvent :=
  let outcome := session.transport.close .closed
  ({ session with transport := outcome.transport, awaitingHandshake := [], ended := true },
    outcome.events.map .transport)

end AgentSession

/-- A turn, and the end of the loop when it does not stay. -/
def Turn.conclude (turn : Turn) : AgentSession × List SessionEvent :=
  match turn.disposition with
  | .stay => (turn.session, turn.events)
  | _ => (turn.session.leave.1, turn.events ++ turn.session.leave.2)

/-! ## The system -/

/-- What happens next. -/
inductive SessionAction
  /-- A message is received; it has been decoded, so it is valid. -/
  | received (message : ServerMessage) (occasion : Occasion)
  | reported (message : AgentMessage) (occasion : Occasion)
  | published (occasion : Occasion)
  /-- The loop ends in any other way: a timeout, an error of the transport, a control. -/
  | dropped

/-- The session as a system. -/
def conversation (display : Timestamp → String) :
    System AgentSession SessionAction SessionEvent where
  step session action :=
    if session.ended then none
    else
      match action with
      | .received message occasion =>
          match message.validate with
          | .ok () => some (session.handleServerMessage display message occasion).conclude
          | .error _ => none
      | .reported message occasion => some (session.report message occasion).conclude
      | .published occasion => some (session.publish display occasion).conclude
      | .dropped => some session.leave

end Oppa.Desktop
