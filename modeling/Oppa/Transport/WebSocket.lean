import Oppa.Foundation.History
import Oppa.Protocol.Authentication
import Oppa.Protocol.Codec

/-!
# The WebSocket transport

The transport of an agent: a socket that may be lost at any moment, two flags that say how far a
connection has come, and a buffer of messages for the next one.

* `WebSocketTransport`, `Operation` — the transport and its operations, with the outcomes of the
  socket as answers.
* `operations` — the transport as a system.  What can be told of a run are its connections, the
  frames that are written and what happens to the buffer.
-/

namespace Oppa.Transport

open Protocol History

/-! ## The data -/

/-- Observable transport lifecycle, without the wait between attempts. -/
inductive ConnectionState
  | disconnected
  | connecting
  | connected
  | closing
  deriving DecidableEq, Repr

/-- WebSocket transport failures. -/
inductive TransportError
  | alreadyConnected
  | notConnected
  | connectTimeout
  | idleTimeout
  | closeTimeout
  | webSocket (text : String)
  | authenticationRejected (code : String)
  | authenticationRequired
  | unexpectedAuthenticationMessage
  | closed (reason : Option String)
  | unexpectedFrame (family : String)
  | protocol (e : ProtocolError)
  | outboundBufferFull (capacity : ℕ)
  | helloRequired
  | helloAlreadySent
  | helloCannotBeBuffered
  deriving DecidableEq, Repr

/-- How a write to the socket comes out: the text of an error, if there is one. -/
abbrev Written := Option String

/-- What waiting for a frame comes to. -/
inductive Incoming
  | idle
  | ended
  | failed (text : String)
  | text (text : String)
  | binary
  /-- A ping, and how the answer to it could be written. -/
  | ping (pong : Written)
  | pong
  | close (reason : Option String)
  | frame
  deriving DecidableEq, Repr

/-- How an attempt to open a socket comes out. -/
inductive Opening
  | opened
  | timeout
  | failed (text : String)
  deriving DecidableEq, Repr

/-- How closing a socket comes out. -/
inductive Closing
  | closed
  | timeout
  | failed (text : String)
  deriving DecidableEq, Repr

/-- `WebSocketTransport`: a socket is named by the number of its connection. -/
structure WebSocketTransport where
  outboundBufferCapacity : ℕ
  socket : Option ℕ
  state : ConnectionState
  outbound : List AgentMessage
  authenticated : Bool
  helloSent : Bool
  deriving DecidableEq, Repr

/-- What can be told of a run. -/
inductive TransportEvent
  /-- A connection is opened. -/
  | opened (socket : ℕ)
  /-- `auth.accepted` is received. -/
  | accepted
  /-- A frame of an application message is written, from the buffer or by `send`; a write that fails
  may have reached the peer. -/
  | frame (buffered : Bool) (message : AgentMessage) (written : Written)
  /-- The message at the head of the buffer leaves it. -/
  | unbuffered (message : AgentMessage)
  | buffered (message : AgentMessage)
  /-- The socket is given up. -/
  | ended
  deriving DecidableEq, Repr

/-- What an operation returns, the transport after it and what can be told of it. -/
structure Outcome (α : Type) where
  result : Except TransportError α
  transport : WebSocketTransport
  events : List TransportEvent

/-- Whether a message is the hello. -/
def isHello (message : AgentMessage) : Bool := message.isHandshake

/-- `MAX_AUTH_MESSAGE_BYTES`. -/
def maxAuthMessageBytes : ℕ := 16 * 1024

/-- The serialized response. -/
def responseValue (response : GatewayAuthenticationResponse) : Json.Value :=
  .object [("type", .string response.messageType), ("challengeId", .string response.challengeId),
    ("agentId", .string response.agentId), ("keyId", .string response.keyId),
    ("algorithm", .string response.algorithm), ("signature", .string response.signature)]

namespace WebSocketTransport

/-- `WebSocketTransport::new`. -/
def new (outboundBufferCapacity : ℕ) : WebSocketTransport where
  outboundBufferCapacity := outboundBufferCapacity
  socket := none
  state := .disconnected
  outbound := []
  authenticated := false
  helloSent := false

variable (transport : WebSocketTransport)

/-! ## Operations -/

/-- `buffer`. -/
def buffer (message : AgentMessage) : Outcome Unit :=
  match encodeAgentMessage message with
  | .error e => ⟨.error (.protocol e), transport, []⟩
  | .ok _ =>
      if isHello message then ⟨.error .helloCannotBeBuffered, transport, []⟩
      else if transport.outboundBufferCapacity ≤ transport.outbound.length then
        ⟨.error (.outboundBufferFull transport.outboundBufferCapacity), transport, []⟩
      else
        ⟨.ok (), { transport with outbound := transport.outbound ++ [message] },
          [.buffered message]⟩

/-- `disconnect`. -/
def disconnect : WebSocketTransport :=
  { transport with
    socket := none, authenticated := false, helloSent := false, state := .disconnected }

/-- `send_encoded`: how it ends, and the frame that is written. -/
def sendEncoded (buffered : Bool) (message : AgentMessage) (written : Written) :
    Except TransportError Unit × List TransportEvent :=
  match encodeAgentMessage message with
  | .error e => (.error (.protocol e), [])
  | .ok _ =>
      match transport.socket with
      | none => (.error .notConnected, [])
      | some _ =>
          (match written with
            | none => .ok ()
            | some text => .error (.webSocket text),
            [.frame buffered message written])

/-- `flush_buffer`, over what is left of the buffer; writes that no outcome is given for succeed. -/
def flushBuffer : List AgentMessage → List Written → Outcome Unit
  | [], _ => ⟨.ok (), { transport with outbound := [] }, []⟩
  | message :: outbound, writes =>
      match transport.sendEncoded true message (writes.head?.getD none) with
      | (.error e, events) => ⟨.error e, { transport with outbound := message :: outbound }, events⟩
      | (.ok (), events) =>
          let rest := flushBuffer outbound writes.tail
          ⟨rest.result, rest.transport, events ++ .unbuffered message :: rest.events⟩

/-- The socket is given up when a result is an error. -/
def orDisconnect {α : Type} (outcome : Outcome α) : Outcome α :=
  match outcome.result with
  | .ok _ => outcome
  | .error _ => ⟨outcome.result, outcome.transport.disconnect, outcome.events ++ [.ended]⟩

/-- `send` once its checks have passed. -/
def sendChecked (message : AgentMessage) (writes : List Written) : Outcome Unit :=
  match transport.sendEncoded false message (writes.head?.getD none) with
  | (.error e, events) => ⟨.error e, transport, events⟩
  | (.ok (), events) =>
      if isHello message then
        let rest := { transport with helloSent := true }.flushBuffer transport.outbound writes.tail
        ⟨rest.result, rest.transport, events ++ rest.events⟩
      else ⟨.ok (), transport, events⟩

/-- `send`. -/
def send (message : AgentMessage) (writes : List Written) : Outcome Unit :=
  if transport.state ≠ .connected then ⟨.error .notConnected, transport, []⟩
  else if transport.authenticated = false then ⟨.error .authenticationRequired, transport, []⟩
  else if transport.helloSent = false ∧ isHello message = false then
    ⟨.error .helloRequired, transport, []⟩
  else if transport.helloSent ∧ isHello message then ⟨.error .helloAlreadySent, transport, []⟩
  else orDisconnect (transport.sendChecked message writes)

/-- `receive_text_frame`, as far as frames come in; `none` while it waits for the next. -/
def receiveTextFrame : List Incoming → Option (Outcome String)
  | incoming =>
    match transport.socket with
    | none => some ⟨.error .notConnected, transport, []⟩
    | some _ => go incoming
where
  /-- The loop, on an open socket. -/
  go : List Incoming → Option (Outcome String)
    | [] => none
    | .idle :: _ => some ⟨.error .idleTimeout, transport.disconnect, [.ended]⟩
    | .ended :: _ => some ⟨.error (.closed none), transport.disconnect, [.ended]⟩
    | .failed text :: _ => some ⟨.error (.webSocket text), transport.disconnect, [.ended]⟩
    | .text text :: _ => some ⟨.ok text, transport, []⟩
    | .binary :: _ => some ⟨.error (.unexpectedFrame "binary"), transport.disconnect, [.ended]⟩
    | .ping (some text) :: _ => some ⟨.error (.webSocket text), transport.disconnect, [.ended]⟩
    | .ping none :: rest => go rest
    | .pong :: rest => go rest
    | .close reason :: _ =>
        some ⟨.error (.closed (reason.map fun reason => String.ofList (reason.toList.take 500))),
          transport.disconnect, [.ended]⟩
    | .frame :: rest => go rest

/-- `connect`: the socket it opens is the next one. -/
def connect (socket : ℕ) (opening : Opening) : Outcome Unit :=
  match transport.socket with
  | some _ => ⟨.error .alreadyConnected, transport, []⟩
  | none =>
      match opening with
      | .timeout => ⟨.error .connectTimeout, { transport with state := .disconnected }, []⟩
      | .failed text => ⟨.error (.webSocket text), { transport with state := .disconnected }, []⟩
      | .opened =>
          ⟨.ok (), { transport with
              socket := some socket, authenticated := false, helloSent := false
              state := .connected },
            [.opened socket]⟩

/-- `send_authentication_response`. -/
def sendAuthenticationResponse (response : GatewayAuthenticationResponse) (written : Written) :
    Outcome Unit :=
  let refuse (e : TransportError) : Outcome Unit := ⟨.error e, transport, []⟩
  if transport.state ≠ .connected then refuse .notConnected
  else if transport.authenticated ∨ transport.helloSent ∨
      response.messageType ≠ "auth.response" then
    refuse .unexpectedAuthenticationMessage
  else
    match response.validate with
    | .error _ => refuse .unexpectedAuthenticationMessage
    | .ok () =>
        if maxAuthMessageBytes < (responseValue response).toString.utf8ByteSize then
          refuse .unexpectedAuthenticationMessage
        else
          match transport.socket, written with
          | none, _ => refuse .notConnected
          | some _, some text => refuse (.webSocket text)
          | some _, none => ⟨.ok (), transport, []⟩

section Decoding

/-- How the texts of frames are read. -/
structure Decoder where
  authentication : String → Option GatewayAuthenticationServerMessage
  server : String → Except ProtocolError ServerMessage

variable (decoder : Decoder)

/-- What `receive_authentication` makes of a text. -/
def authenticate (text : String) : Outcome GatewayAuthenticationServerMessage :=
  let refuse (e : TransportError) : Outcome GatewayAuthenticationServerMessage :=
    ⟨.error e, transport, []⟩
  if maxAuthMessageBytes < text.utf8ByteSize then refuse .unexpectedAuthenticationMessage
  else
    match decoder.authentication text with
    | none => refuse .unexpectedAuthenticationMessage
    | some message =>
        match message.validate with
        | .error _ => refuse .unexpectedAuthenticationMessage
        | .ok () =>
            match message with
            | .challenge challenge =>
                if challenge.messageType = "auth.challenge" then ⟨.ok message, transport, []⟩
                else refuse .unexpectedAuthenticationMessage
            | .accepted accepted =>
                if accepted.messageType = "auth.accepted" then
                  ⟨.ok message, { transport with authenticated := true }, [.accepted]⟩
                else refuse .unexpectedAuthenticationMessage
            | .rejected rejected =>
                if rejected.messageType = "auth.rejected" then
                  refuse (.authenticationRejected rejected.code)
                else refuse .unexpectedAuthenticationMessage

/-- `receive_authentication`. -/
def receiveAuthentication (incoming : List Incoming) :
    Option (Outcome GatewayAuthenticationServerMessage) :=
  if transport.state ≠ .connected ∨ transport.authenticated ∨ transport.helloSent then
    some ⟨.error .unexpectedAuthenticationMessage, transport, []⟩
  else
    (transport.receiveTextFrame incoming).map fun received =>
      match received.result with
      | .error e => ⟨.error e, received.transport, received.events⟩
      | .ok text => received.transport.authenticate decoder text

/-- `receive`. -/
def receive (incoming : List Incoming) : Option (Outcome ServerMessage) :=
  if transport.state ≠ .connected then some ⟨.error .notConnected, transport, []⟩
  else if transport.authenticated = false then
    some ⟨.error .authenticationRequired, transport, []⟩
  else if transport.helloSent = false then some ⟨.error .helloRequired, transport, []⟩
  else
    (transport.receiveTextFrame incoming).map fun received =>
      match received.result with
      | .error e => ⟨.error e, received.transport, received.events⟩
      | .ok text =>
          match decoder.server text with
          | .error e => ⟨.error (.protocol e), received.transport.disconnect, [.ended]⟩
          | .ok message => ⟨.ok message, received.transport, []⟩

end Decoding

/-- `close`. -/
def close (closing : Closing) : Outcome Unit :=
  match transport.socket with
  | none => ⟨.ok (), transport.disconnect, []⟩
  | some _ =>
      ⟨match closing with
        | .closed => .ok ()
        | .timeout => .error .closeTimeout
        | .failed text => .error (.webSocket text),
        transport.disconnect, [.ended]⟩

end WebSocketTransport

/-! ## The system -/

/-- A call of an operation, with the outcomes of the socket. -/
inductive Operation
  | buffer (message : AgentMessage)
  | connect (socket : ℕ) (opening : Opening)
  | sendAuthenticationResponse (response : GatewayAuthenticationResponse) (written : Written)
  | receiveAuthentication (incoming : List Incoming)
  | send (message : AgentMessage) (writes : List Written)
  | receive (incoming : List Incoming)
  | close (closing : Closing)
  deriving DecidableEq, Repr

/-- The transport after an operation, and what can be told of it. -/
def Outcome.step {α : Type} (outcome : Outcome α) : WebSocketTransport × List TransportEvent :=
  (outcome.transport, outcome.events)

/-- The transport under any operations. -/
def operations (decoder : WebSocketTransport.Decoder) :
    System WebSocketTransport Operation TransportEvent where
  step transport
    | .buffer message => some (transport.buffer message).step
    | .connect socket opening => some (transport.connect socket opening).step
    | .sendAuthenticationResponse response written =>
        some (transport.sendAuthenticationResponse response written).step
    | .receiveAuthentication incoming =>
        (transport.receiveAuthentication decoder incoming).map Outcome.step
    | .send message writes => some (transport.send message writes).step
    | .receive incoming => (transport.receive decoder incoming).map Outcome.step
    | .close closing => some (transport.close closing).step

end Oppa.Transport
