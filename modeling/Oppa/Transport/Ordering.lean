import Oppa.Transport.WebSocket

/-!
# The order of frames

What a peer and the owner of the buffer may rely on, as an automaton over what can be told of a run.

* `Wire` — what is known of the connection and of the buffer.
* `Observes` — the guards: no application frame before `auth.accepted`, the hello first and once,
  then what was buffered, in order, before anything else; a message leaves the buffer only after its
  frame was written, and the buffer has a bound.
* `Matches` — the transport is where the automaton is.
* **`ordered`** — every run of the transport is one that the automaton follows.
-/

namespace Oppa.Transport

open Protocol History

/-! ## The automaton -/

/-- What is known of the connection and of the buffer. -/
structure Wire where
  isOpen : Bool
  /-- `auth.accepted` was received on this connection. -/
  accepted : Bool
  /-- The hello was written on this connection. -/
  greeted : Bool
  /-- A write has failed on this connection. -/
  broken : Bool
  /-- The message of the buffer whose frame was written last, until it leaves the buffer. -/
  leaving : Option AgentMessage
  queue : List AgentMessage
  /-- What is left in the buffer of what was in it at the hello. -/
  owed : List AgentMessage
  deriving DecidableEq, Repr

/-- Before the first connection. -/
def Wire.start : Wire where
  isOpen := false
  accepted := false
  greeted := false
  broken := false
  leaving := none
  queue := []
  owed := []

/-- An application frame may be written: the connection is authenticated, no write on it has failed,
and no message is about to leave the buffer. -/
structure Wire.Ready (wire : Wire) : Prop where
  isOpen : wire.isOpen = true
  accepted : wire.accepted = true
  whole : wire.broken = false
  settled : wire.leaving = none

/-- What may happen next. -/
inductive Observes (capacity : ℕ) : Wire → TransportEvent → Wire → Prop
  /-- Every connection starts unauthenticated and without a hello. -/
  | opened {wire : Wire} {socket : ℕ} (hclosed : wire.isOpen = false) :
      Observes capacity wire (.opened socket)
        { wire with
          isOpen := true, accepted := false, greeted := false, broken := false, leaving := none
          owed := [] }
  | accepted {wire : Wire} (hopen : wire.isOpen = true) :
      Observes capacity wire .accepted { wire with accepted := true }
  /-- The hello is the first application frame, and there is one. -/
  | hello {wire : Wire} {message : AgentMessage} {written : Written} (hready : wire.Ready)
      (hhello : isHello message = true) (hfirst : wire.greeted = false) :
      Observes capacity wire (.frame false message written)
        { wire with greeted := true, broken := written.isSome, owed := wire.queue }
  /-- What was buffered follows in order. -/
  | flushed {wire : Wire} {message : AgentMessage} {written : Written} (hready : wire.Ready)
      (hgreeted : wire.greeted = true) (howed : wire.owed.head? = some message) :
      Observes capacity wire (.frame true message written)
        { wire with
          broken := written.isSome
          leaving := if written.isSome then none else some message }
  /-- Anything else is sent once nothing is owed. -/
  | sent {wire : Wire} {message : AgentMessage} {written : Written} (hready : wire.Ready)
      (hgreeted : wire.greeted = true) (hother : isHello message = false) (howed : wire.owed = []) :
      Observes capacity wire (.frame false message written)
        { wire with broken := written.isSome }
  /-- The head of the buffer leaves it right after its frame was written. -/
  | unbuffered {wire : Wire} {message : AgentMessage} (hleaving : wire.leaving = some message)
      (hhead : wire.queue.head? = some message) :
      Observes capacity wire (.unbuffered message)
        { wire with leaving := none, queue := wire.queue.tail, owed := wire.owed.tail }
  | buffered {wire : Wire} {message : AgentMessage} (hother : isHello message = false)
      (hroom : wire.queue.length < capacity) :
      Observes capacity wire (.buffered message) { wire with queue := wire.queue ++ [message] }
  | ended {wire : Wire} (hopen : wire.isOpen = true) :
      Observes capacity wire .ended { wire with isOpen := false }

/-- A sequence of events that may happen. -/
inductive Follows (capacity : ℕ) : Wire → List TransportEvent → Wire → Prop
  | nil (wire : Wire) : Follows capacity wire [] wire
  | cons {wire middle last : Wire} {event : TransportEvent} {events : List TransportEvent}
      (hfirst : Observes capacity wire event middle) (hrest : Follows capacity middle events last) :
      Follows capacity wire (event :: events) last

section Follows

variable {capacity : ℕ} {wire middle last : Wire} {event : TransportEvent}
  {events others : List TransportEvent}

lemma Follows.single (hobserves : Observes capacity wire event last) :
    Follows capacity wire [event] last :=
  .cons hobserves (.nil last)

lemma Follows.append (hfirst : Follows capacity wire events middle)
    (hrest : Follows capacity middle others last) : Follows capacity wire (events ++ others) last := by
  induction hfirst with
  | nil => exact hrest
  | cons hobserves _ ih => exact .cons hobserves (ih hrest)

end Follows

/-! ## The transport follows it -/

/-- The transport is where the automaton is, between two operations. -/
structure Matches (capacity : ℕ) (transport : WebSocketTransport) (wire : Wire) : Prop where
  limit : transport.outboundBufferCapacity = capacity
  queue : wire.queue = transport.outbound
  bounded : transport.outbound.length ≤ capacity
  isOpen : wire.isOpen = transport.socket.isSome
  state : transport.state = .connected ↔ transport.socket.isSome = true
  authenticated : transport.authenticated = true → wire.isOpen = true ∧ wire.accepted = true
  helloSent : wire.isOpen = true → wire.greeted = transport.helloSent
  settled : wire.leaving = none
  whole : wire.isOpen = true → wire.broken = false
  paid : transport.helloSent = true → wire.owed = []

/-- What an operation leads to. -/
def Leads (capacity : ℕ) (wire : Wire) (step : WebSocketTransport × List TransportEvent) : Prop :=
  ∃ next, Follows capacity wire step.2 next ∧ Matches capacity step.1 next

section Operations

variable {capacity : ℕ} {transport : WebSocketTransport} {wire : Wire}

lemma Matches.stays (hmatches : Matches capacity transport wire) :
    Leads capacity wire (transport, []) := ⟨wire, .nil wire, hmatches⟩

lemma Matches.buffer (hmatches : Matches capacity transport wire) (message : AgentMessage) :
    Leads capacity wire (transport.buffer message).step := by
  rw [WebSocketTransport.buffer]
  split
  · exact hmatches.stays
  · split_ifs with hhello hfull
    · exact hmatches.stays
    · exact hmatches.stays
    · rw [hmatches.limit, not_le] at hfull
      rw [Bool.not_eq_true] at hhello
      have hroom : wire.queue.length < capacity := by
        rw [hmatches.queue]
        exact hfull
      refine ⟨_, .single (.buffered hhello hroom), ?_⟩
      show Matches capacity { transport with outbound := transport.outbound ++ [message] } _
      exact
        { hmatches with
          queue := by rw [hmatches.queue]
          bounded := by
            rw [List.length_append]
            exact hfull }

/-- A socket that is given up. -/
lemma leads_disconnect (hopen : wire.isOpen = true)
    (hlimit : transport.outboundBufferCapacity = capacity)
    (hqueue : wire.queue = transport.outbound) (hbounded : transport.outbound.length ≤ capacity)
    (hsettled : wire.leaving = none) : Leads capacity wire (transport.disconnect, [.ended]) := by
  refine ⟨_, .single (.ended hopen), ?_⟩
  exact
    { limit := hlimit
      queue := hqueue
      bounded := hbounded
      isOpen := rfl
      state := by simp [WebSocketTransport.disconnect]
      authenticated := nofun
      helloSent := nofun
      settled := hsettled
      whole := nofun
      paid := nofun }

lemma Matches.disconnects (hmatches : Matches capacity transport wire)
    (hsocket : transport.socket.isSome = true) :
    Leads capacity wire (transport.disconnect, [.ended]) :=
  leads_disconnect (hmatches.isOpen.trans hsocket) hmatches.limit hmatches.queue hmatches.bounded
    hmatches.settled

lemma Matches.connect (hmatches : Matches capacity transport wire) (socket : ℕ)
    (opening : Opening) : Leads capacity wire (transport.connect socket opening).step := by
  rw [WebSocketTransport.connect.eq_def]
  cases hsocket : transport.socket with
  | some _ => exact hmatches.stays
  | none =>
      have hclosed : wire.isOpen = false := by
        rw [hmatches.isOpen, hsocket]
        rfl
      have hstays : Leads capacity wire
          ({ transport with socket := none, state := .disconnected }, []) := by
        refine ⟨wire, .nil wire, ?_⟩
        exact { hmatches with isOpen := hclosed, state := by simp }
      cases opening with
      | timeout => exact hstays
      | failed text => exact hstays
      | opened =>
          refine ⟨_, .single (.opened hclosed), ?_⟩
          show Matches capacity
            { transport with
              socket := some socket, authenticated := false, helloSent := false
              state := .connected } _
          exact
            { limit := hmatches.limit
              queue := hmatches.queue
              bounded := hmatches.bounded
              isOpen := rfl
              state := by simp
              authenticated := nofun
              helloSent := fun _ => rfl
              settled := rfl
              whole := fun _ => rfl
              paid := nofun }

lemma Matches.close (hmatches : Matches capacity transport wire) (closing : Closing) :
    Leads capacity wire (transport.close closing).step := by
  rw [WebSocketTransport.close.eq_def]
  cases hsocket : transport.socket with
  | some socket => exact hmatches.disconnects (by rw [hsocket]; rfl)
  | none =>
      refine ⟨wire, .nil wire, ?_⟩
      have hclosed : wire.isOpen = false := by
        rw [hmatches.isOpen, hsocket]
        rfl
      show Matches capacity transport.disconnect wire
      exact
        { limit := hmatches.limit
          queue := hmatches.queue
          bounded := hmatches.bounded
          isOpen := hclosed
          state := by simp [WebSocketTransport.disconnect]
          authenticated := nofun
          helloSent := fun hopen => absurd hopen (by simp [hclosed])
          settled := hmatches.settled
          whole := fun hopen => absurd hopen (by simp [hclosed])
          paid := nofun }

lemma Matches.sendAuthenticationResponse (hmatches : Matches capacity transport wire)
    (response : GatewayAuthenticationResponse) (written : Written) :
    Leads capacity wire (transport.sendAuthenticationResponse response written).step := by
  have hsame : (transport.sendAuthenticationResponse response written).step = (transport, []) := by
    rw [WebSocketTransport.sendAuthenticationResponse.eq_def]
    cases transport.socket <;> cases written <;> split_ifs <;>
      first | rfl | (split <;> rfl)
  rw [hsame]
  exact hmatches.stays

/-- Waiting for a text either leaves the transport alone or gives the socket up. -/
lemma receiveTextFrame_go_cases {incoming : List Incoming} {outcome : Outcome String}
    (hreceived : WebSocketTransport.receiveTextFrame.go transport incoming = some outcome) :
    (∃ text, outcome = ⟨.ok text, transport, []⟩) ∨
      ∃ e, outcome = ⟨.error e, transport.disconnect, [.ended]⟩ := by
  induction incoming with
  | nil => cases hreceived
  | cons first rest ih =>
      cases first with
      | text text =>
          cases hreceived
          exact .inl ⟨text, rfl⟩
      | ping pong =>
          cases pong with
          | none => exact ih hreceived
          | some text =>
              cases hreceived
              exact .inr ⟨_, rfl⟩
      | pong => exact ih hreceived
      | frame => exact ih hreceived
      | _ =>
          cases hreceived
          exact .inr ⟨_, rfl⟩

lemma receiveTextFrame_cases {incoming : List Incoming} {outcome : Outcome String}
    (hsocket : transport.socket.isSome = true)
    (hreceived : transport.receiveTextFrame incoming = some outcome) :
    (∃ text, outcome = ⟨.ok text, transport, []⟩) ∨
      ∃ e, outcome = ⟨.error e, transport.disconnect, [.ended]⟩ := by
  rw [WebSocketTransport.receiveTextFrame] at hreceived
  rcases Option.isSome_iff_exists.mp hsocket with ⟨socket, hsome⟩
  rw [hsome] at hreceived
  exact receiveTextFrame_go_cases hreceived

/-- A frame that is no acceptance changes nothing. -/
lemma authenticate_cases (decoder : WebSocketTransport.Decoder) (text : String) :
    (transport.authenticate decoder text).step = (transport, []) ∨
      (transport.authenticate decoder text).step =
        ({ transport with authenticated := true }, [.accepted]) := by
  rw [WebSocketTransport.authenticate]
  split_ifs
  · exact .inl rfl
  · split
    · exact .inl rfl
    · split
      · exact .inl rfl
      · split
        · split_ifs <;> exact .inl rfl
        · split_ifs
          · exact .inr rfl
          · exact .inl rfl
        · split_ifs <;> exact .inl rfl

lemma Matches.receiveAuthentication (hmatches : Matches capacity transport wire)
    {decoder : WebSocketTransport.Decoder} {incoming : List Incoming}
    {outcome : Outcome GatewayAuthenticationServerMessage}
    (hreceived : transport.receiveAuthentication decoder incoming = some outcome) :
    Leads capacity wire outcome.step := by
  rw [WebSocketTransport.receiveAuthentication] at hreceived
  split_ifs at hreceived with hchecks
  · cases hreceived
    exact hmatches.stays
  · simp only [not_or, not_not, Bool.not_eq_true] at hchecks
    have hsocket := hmatches.state.mp hchecks.1
    rcases Option.map_eq_some_iff.mp hreceived with ⟨received, htext, rfl⟩
    rcases receiveTextFrame_cases hsocket htext with ⟨text, rfl⟩ | ⟨e, rfl⟩
    · show Leads capacity wire (transport.authenticate decoder text).step
      rcases authenticate_cases decoder text with hsame | haccepted
      · rw [hsame]
        exact hmatches.stays
      · rw [haccepted]
        have hopen : wire.isOpen = true := hmatches.isOpen.trans hsocket
        refine ⟨_, .single (.accepted hopen), ?_⟩
        exact { hmatches with authenticated := fun _ => ⟨hopen, rfl⟩ }
    · exact hmatches.disconnects hsocket

/-! ### Sending -/

/-- A frame that could be written, or the failure that is left of it. -/
lemma sendEncoded_cases (hsocket : transport.socket.isSome = true) (buffered : Bool)
    (message : AgentMessage) (written : Written) :
    (∃ e, transport.sendEncoded buffered message written = (.error e, [])) ∨
      (written = none ∧ transport.sendEncoded buffered message written =
        (.ok (), [.frame buffered message none])) ∨
      ∃ text, written = some text ∧ transport.sendEncoded buffered message written =
        (.error (.webSocket text), [.frame buffered message (some text)]) := by
  rcases Option.isSome_iff_exists.mp hsocket with ⟨socket, hsome⟩
  rw [WebSocketTransport.sendEncoded.eq_def, hsome]
  split
  · exact .inl ⟨_, rfl⟩
  · cases written with
    | none => exact .inr (.inl ⟨rfl, rfl⟩)
    | some text => exact .inr (.inr ⟨text, rfl, rfl⟩)

/-- What has happened on the wire while a message was sent: the buffer is as the automaton has it,
and a result that is no error leaves the connection whole. -/
structure Sends (capacity : ℕ) (wire : Wire) (transport : WebSocketTransport)
    (outcome : Outcome Unit) (last : Wire) : Prop where
  follows : Follows capacity wire outcome.events last
  isOpen : last.isOpen = true
  settled : last.leaving = none
  queue : last.queue = outcome.transport.outbound
  shorter : outcome.transport.outbound.length ≤ transport.outbound.length
  limit : outcome.transport.outboundBufferCapacity = transport.outboundBufferCapacity
  whole : ∀ result, outcome.result = .ok result →
    last.Ready ∧ last.owed = [] ∧ last.greeted = true ∧
      outcome.transport.socket = transport.socket ∧ outcome.transport.state = transport.state ∧
      outcome.transport.authenticated = transport.authenticated ∧
      outcome.transport.helloSent = true

/-- **Flushing writes the buffer in order.**  It stops at the first write that fails, and what was
not written stays. -/
lemma sends_flushBuffer (hsocket : transport.socket.isSome = true)
    (hhello : transport.helloSent = true) {outbound : List AgentMessage} {writes : List Written}
    (hready : wire.Ready) (hgreeted : wire.greeted = true) (hqueue : wire.queue = outbound)
    (howed : wire.owed = outbound) :
    ∃ last, Sends capacity wire { transport with outbound := outbound }
      (transport.flushBuffer outbound writes) last := by
  induction outbound generalizing wire writes with
  | nil =>
      refine ⟨wire, .nil wire, hready.isOpen, hready.settled, hqueue, le_refl _, rfl, ?_⟩
      rintro result -
      exact ⟨hready, howed, hgreeted, rfl, rfl, rfl, hhello⟩
  | cons message outbound ih =>
      have hhead : wire.owed.head? = some message := by
        rw [howed]
        rfl
      rw [WebSocketTransport.flushBuffer]
      rcases sendEncoded_cases hsocket true message (writes.head?.getD none) with
        ⟨e, hrefused⟩ | ⟨_, hwritten⟩ | ⟨text, _, hfailed⟩
      · rw [hrefused]
        exact ⟨wire, .nil wire, hready.isOpen, hready.settled, hqueue, le_refl _, rfl, nofun⟩
      · rw [hwritten]
        have hframe : Observes capacity wire (.frame true message none)
            { wire with broken := false, leaving := some message } :=
          .flushed hready hgreeted hhead
        have hleaves : Observes capacity { wire with broken := false, leaving := some message }
            (.unbuffered message)
            { wire with
              broken := false, leaving := none, queue := wire.queue.tail
              owed := wire.owed.tail } :=
          .unbuffered rfl (by rw [hqueue]; rfl)
        have hnext : Wire.Ready
            { wire with
              broken := false, leaving := none, queue := wire.queue.tail
              owed := wire.owed.tail } :=
          ⟨hready.isOpen, hready.accepted, rfl, rfl⟩
        rcases @ih _ writes.tail hnext hgreeted (by rw [hqueue]; rfl) (by rw [howed]; rfl) with
          ⟨last, hsends⟩
        refine ⟨last, .cons hframe (.cons hleaves hsends.follows), hsends.isOpen, hsends.settled,
          hsends.queue, ?_, hsends.limit, hsends.whole⟩
        exact hsends.shorter.trans (Nat.le_succ _)
      · rw [hfailed]
        have hframe : Observes capacity wire (.frame true message (some text))
            { wire with broken := true, leaving := none } :=
          .flushed hready hgreeted hhead
        exact ⟨_, .single hframe, hready.isOpen, rfl, hqueue, le_refl _, rfl, nofun⟩

/-- A message that passes the checks of `send`. -/
lemma Matches.sendChecked (hmatches : Matches capacity transport wire)
    (hsocket : transport.socket.isSome = true) (hauthenticated : transport.authenticated = true)
    {message : AgentMessage} (hhello : isHello message = !transport.helloSent)
    (writes : List Written) :
    ∃ last, Sends capacity wire transport (transport.sendChecked message writes) last := by
  have hready : wire.Ready :=
    ⟨hmatches.isOpen.trans hsocket, (hmatches.authenticated hauthenticated).2,
      hmatches.whole (hmatches.isOpen.trans hsocket), hmatches.settled⟩
  have hgreeted := hmatches.helloSent hready.isOpen
  rw [WebSocketTransport.sendChecked]
  cases hfirst : isHello message with
  | true =>
      rw [hfirst, eq_comm, Bool.not_eq_true'] at hhello
      rw [hhello] at hgreeted
      have hframe : ∀ written, Observes capacity wire (.frame false message written)
          { wire with greeted := true, broken := written.isSome, owed := wire.queue } :=
        fun written => .hello hready hfirst hgreeted
      rcases sendEncoded_cases hsocket false message (writes.head?.getD none) with
        ⟨e, hrefused⟩ | ⟨_, hwritten⟩ | ⟨text, _, hfailed⟩
      · rw [hrefused]
        exact ⟨wire, .nil wire, hready.isOpen, hready.settled, hmatches.queue, le_refl _, rfl,
          nofun⟩
      · rw [hwritten]
        have hnext : Wire.Ready { wire with greeted := true, broken := false, owed := wire.queue } :=
          ⟨hready.isOpen, hready.accepted, rfl, hready.settled⟩
        rcases @sends_flushBuffer capacity { transport with helloSent := true } _ hsocket rfl
          transport.outbound writes.tail hnext rfl hmatches.queue hmatches.queue with
          ⟨last, hsends⟩
        exact ⟨last, .cons (hframe none) hsends.follows, hsends.isOpen, hsends.settled,
          hsends.queue, hsends.shorter, hsends.limit, hsends.whole⟩
      · rw [hfailed]
        exact ⟨_, .single (hframe (some text)), hready.isOpen, hready.settled, hmatches.queue,
          le_refl _, rfl, nofun⟩
  | false =>
      rw [hfirst, eq_comm, Bool.not_eq_false'] at hhello
      rw [hhello] at hgreeted
      have howed := hmatches.paid hhello
      have hframe : ∀ written, Observes capacity wire (.frame false message written)
          { wire with broken := written.isSome } :=
        fun written => .sent hready hgreeted hfirst howed
      rcases sendEncoded_cases hsocket false message (writes.head?.getD none) with
        ⟨e, hrefused⟩ | ⟨_, hwritten⟩ | ⟨text, _, hfailed⟩
      · rw [hrefused]
        exact ⟨wire, .nil wire, hready.isOpen, hready.settled, hmatches.queue, le_refl _, rfl,
          nofun⟩
      · rw [hwritten]
        refine ⟨_, .single (hframe none), hready.isOpen, hready.settled, hmatches.queue, le_refl _,
          rfl, ?_⟩
        rintro result -
        exact ⟨⟨hready.isOpen, hready.accepted, rfl, hready.settled⟩, howed, hgreeted, rfl, rfl, rfl,
          hhello⟩
      · rw [hfailed]
        exact ⟨_, .single (hframe (some text)), hready.isOpen, hready.settled, hmatches.queue,
          le_refl _, rfl, nofun⟩

lemma Matches.send (hmatches : Matches capacity transport wire) (message : AgentMessage)
    (writes : List Written) : Leads capacity wire (transport.send message writes).step := by
  rw [WebSocketTransport.send]
  split_ifs with hstate hauthenticated hrequired hagain
  · exact hmatches.stays
  · exact hmatches.stays
  · exact hmatches.stays
  · exact hmatches.stays
  · have hsocket := hmatches.state.mp (not_not.mp hstate)
    rw [Bool.not_eq_false] at hauthenticated
    have hhello : isHello message = !transport.helloSent := by
      cases hsent : transport.helloSent <;> cases hmessage : isHello message <;> simp_all
    rcases hmatches.sendChecked hsocket hauthenticated hhello writes with ⟨last, hsends⟩
    rw [WebSocketTransport.orDisconnect.eq_def]
    cases hresult : (transport.sendChecked message writes).result with
    | ok result =>
        rcases hsends.whole result hresult with
          ⟨hready, howed, hgreeted, hsame, hstate', hauthenticated', hsent⟩
        refine ⟨last, hsends.follows, ?_⟩
        show Matches capacity (transport.sendChecked message writes).transport last
        exact
          { limit := hsends.limit.trans hmatches.limit
            queue := hsends.queue
            bounded := hsends.shorter.trans hmatches.bounded
            isOpen := by rw [hsame, hsocket, hready.isOpen]
            state := by
              rw [hsame, hstate']
              exact hmatches.state
            authenticated := fun _ => ⟨hready.isOpen, hready.accepted⟩
            helloSent := fun _ => by rw [hgreeted, hsent]
            settled := hready.settled
            whole := fun _ => hready.whole
            paid := fun _ => howed }
    | error e =>
        rcases leads_disconnect hsends.isOpen (hsends.limit.trans hmatches.limit) hsends.queue
          (hsends.shorter.trans hmatches.bounded) hsends.settled with ⟨next, hfollows, hnext⟩
        exact ⟨next, hsends.follows.append hfollows, hnext⟩

/-! ### Receiving -/

lemma Matches.receive (hmatches : Matches capacity transport wire)
    {decoder : WebSocketTransport.Decoder} {incoming : List Incoming}
    {outcome : Outcome ServerMessage}
    (hreceived : transport.receive decoder incoming = some outcome) :
    Leads capacity wire outcome.step := by
  rw [WebSocketTransport.receive] at hreceived
  split_ifs at hreceived with hstate hauthenticated hhello
  · cases hreceived
    exact hmatches.stays
  · cases hreceived
    exact hmatches.stays
  · cases hreceived
    exact hmatches.stays
  · have hsocket := hmatches.state.mp (not_not.mp hstate)
    rcases Option.map_eq_some_iff.mp hreceived with ⟨received, htext, rfl⟩
    rcases receiveTextFrame_cases hsocket htext with ⟨text, rfl⟩ | ⟨e, rfl⟩
    · simp only
      cases decoder.server text with
      | error e => exact hmatches.disconnects hsocket
      | ok message => exact hmatches.stays
    · exact hmatches.disconnects hsocket

/-- Every operation leads to where the automaton is. -/
lemma Matches.step (hmatches : Matches capacity transport wire)
    {decoder : WebSocketTransport.Decoder} {operation : Operation}
    {next : WebSocketTransport} {events : List TransportEvent}
    (hstep : (operations decoder).step transport operation = some (next, events)) :
    Leads capacity wire (next, events) := by
  cases operation with
  | buffer message =>
      rw [← Option.some.inj hstep]
      exact hmatches.buffer message
  | connect socket opening =>
      rw [← Option.some.inj hstep]
      exact hmatches.connect socket opening
  | sendAuthenticationResponse response written =>
      rw [← Option.some.inj hstep]
      exact hmatches.sendAuthenticationResponse response written
  | receiveAuthentication incoming =>
      rcases Option.map_eq_some_iff.mp hstep with ⟨outcome, houtcome, hsame⟩
      rw [← hsame]
      exact hmatches.receiveAuthentication houtcome
  | send message writes =>
      rw [← Option.some.inj hstep]
      exact hmatches.send message writes
  | receive incoming =>
      rcases Option.map_eq_some_iff.mp hstep with ⟨outcome, houtcome, hsame⟩
      rw [← hsame]
      exact hmatches.receive houtcome
  | close closing =>
      rw [← Option.some.inj hstep]
      exact hmatches.close closing

lemma matches_new (capacity : ℕ) : Matches capacity (.new capacity) .start where
  limit := rfl
  queue := rfl
  bounded := Nat.zero_le _
  isOpen := rfl
  state := by simp [WebSocketTransport.new]
  authenticated := nofun
  helloSent := nofun
  settled := rfl
  whole := nofun
  paid := nofun

/-- **The order of frames.**  Every run of the operations, whatever the socket does, is one that the
automaton follows, and the buffer is never longer than its capacity. -/
theorem ordered {decoder : WebSocketTransport.Decoder} {history : List TransportEvent}
    (hrun : (operations decoder).Runs anyStep (.new capacity) history transport) :
    (∃ wire, Follows capacity .start history wire ∧ Matches capacity transport wire) ∧
      transport.outbound.length ≤ capacity := by
  have hfollows : ∃ wire, Follows capacity .start history wire ∧
      Matches capacity transport wire := by
    induction hrun with
    | start => exact ⟨.start, .nil _, matches_new capacity⟩
    | step _ _ hstep ih =>
        rcases ih with ⟨wire, hfollows, hmatches⟩
        rcases hmatches.step hstep with ⟨next, hevents, hnext⟩
        exact ⟨next, hfollows.append hevents, hnext⟩
  rcases hfollows with ⟨wire, hfollows, hmatches⟩
  exact ⟨⟨wire, hfollows, hmatches⟩, hmatches.bounded⟩

end Operations

/-! ## A flush that is cut off -/

/-- A message that may be buffered. -/
def changedMessage (revision : UInt64) : AgentMessage where
  protocolVersion := .base
  messageId := "change"
  sentAt := "2026-01-01T00:00:00Z"
  correlationId := none
  kind := .printerInventoryChanged
    { revision := revision, added := [], updated := [], removedPrinterIds := [] }

/-- A hello. -/
def helloMessage : AgentMessage where
  protocolVersion := .base
  messageId := "hello"
  sentAt := "2026-01-01T00:00:00Z"
  correlationId := none
  kind := .hello
    { agentId := "agent", agentVersion := "1", productId := "oppa", productVersion := "1"
      supportedProtocolVersions := [.base] }

/-- A gateway that accepts. -/
def acceptingDecoder : WebSocketTransport.Decoder where
  authentication _ := some (.accepted
    { messageType := "auth.accepted", sessionId := "session", agentId := "agent"
      heartbeatIntervalMs := 15000 })
  server _ := .error (.messageTooLarge 0 0)

/-- The second message of the buffer cannot be written. -/
def cutOff : List Operation :=
  [.buffer (changedMessage 1), .buffer (changedMessage 2), .connect 0 .opened,
    .receiveAuthentication [.ping none, .text ""], .send helloMessage [none, none, some "reset"]]

/-- Every operation is performed. -/
def anyOperation : List TransportEvent → WebSocketTransport → Operation → Bool :=
  fun _ _ _ => true

lemma ordered_cutOff :
    ((∃ wire, Follows 2 .start
        ((operations acceptingDecoder).run anyOperation (.new 2) cutOff).1 wire ∧
      Matches 2 ((operations acceptingDecoder).run anyOperation (.new 2) cutOff).2 wire) ∧
    ((operations acceptingDecoder).run anyOperation (.new 2) cutOff).2.outbound.length ≤ 2) ∧
    ((operations acceptingDecoder).run anyOperation (.new 2) cutOff).2.outbound =
      [changedMessage 2] :=
  ⟨ordered (System.runs_run (fun _ _ _ _ => trivial) cutOff), by decide +kernel⟩

end Oppa.Transport
