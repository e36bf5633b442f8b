import Oppa.Agent.Status
import Oppa.Desktop.Session
import Oppa.Server.Handlers

/-!
# The frame limit of a server

The hello of a server tells how long a frame it accepts, and the agent does not keep it: what it
sends is bounded by the limit of its own encoder.

* `heartbeat_le` — a heartbeat is shorter than the least limit there is.
* `Carries` — what a session is given to send.
* **`frames_fit_iff`** — the frames of a session stay within the limit exactly when everything it is
  given to send does.
* `long_report_sent` — a report about a failed job that is longer than its server allows, so that
  the server closes the session.
-/

namespace Oppa.Desktop

open Protocol Transport History Text

/-- How many bytes the frame of a message takes. -/
def frameBytes (message : AgentMessage) : ℕ := message.toValue.toString.utf8ByteSize

/-! ## Heartbeats -/

section Heartbeats

open Json Json.Value

lemma isIdentifierCharacter_of_valid {value path : String} {max : ℕ}
    (hvalid : Protocol.validateIdentifier value path max = .ok ()) :
    ∀ c ∈ value.toList, isIdentifierCharacter c = true := by
  rw [Protocol.validateIdentifier] at hvalid
  split at hvalid
  · exact absurd hvalid refuse_ne_ok
  · rename_i first rest hvalue
    split_ifs at hvalid with hlong hcharacters
    · exact absurd hvalid refuse_ne_ok
    · rw [Bool.and_eq_true, List.all_eq_true] at hcharacters
      intro c hc
      rw [hvalue, List.mem_cons] at hc
      rcases hc with rfl | hc
      · rw [isIdentifierCharacter, hcharacters.1]
        rfl
      · exact hcharacters.2 c hc
    · exact absurd hvalid refuse_ne_ok

lemma isPlain_of_isIdentifierCharacter {c : Char} (hc : isIdentifierCharacter c = true) :
    IsPlain c := by
  have hrange := isIdentifierCharacter_lt hc
  refine ⟨by omega, hrange.2, ?_, ?_⟩
  · rintro rfl
    exact absurd hc (by decide)
  · rintro rfl
    exact absurd hc (by decide)

/-- An identifier takes one byte for each of its characters. -/
lemma bytes_quote_identifier {value path : String} {max : ℕ}
    (hvalid : Protocol.validateIdentifier value path max = .ok ()) :
    bytes (quote value) ≤ 2 + max := by
  have hvalue := (identifier_of_valid hvalid).2
  have hascii : utf16Length value = value.toList.length := by
    refine utf16Length_of_ascii fun c hc => ?_
    have hrange := hvalue.2 c hc
    omega
  have hplain : ∀ c ∈ value.toList, IsPlain c := fun c hc =>
    isPlain_of_isIdentifierCharacter (isIdentifierCharacter_of_valid hvalid c hc)
  rw [bytes_quote_of_plain hplain]
  omega

variable {message : AgentMessage} {heartbeat : AgentHeartbeat}

lemma bytes_uptime_le (heartbeat : AgentHeartbeat) : bytes heartbeat.toValue.print ≤ 102 := by
  have huptime : bytes (Value.number heartbeat.uptimeSeconds.toNat).print ≤ 4 * 20 :=
    (bytes_print_le _).trans
      (weight_number_le (by have := heartbeat.uptimeSeconds.toNat_lt; omega) (by decide))
  have hkey : bytes (quote "uptimeSeconds") = 15 := by decide
  have hobject := bytes_print_object_le
    [("uptimeSeconds", Value.number heartbeat.uptimeSeconds.toNat)]
  rw [membersLength_cons, membersLength_nil, hkey] at hobject
  rw [AgentHeartbeat.toValue]
  omega

/-- **A heartbeat fits every limit a server may have.** -/
theorem heartbeat_le (hkind : message.kind = .heartbeat heartbeat)
    (hvalid : message.validate = .ok ()) : frameBytes message ≤ 1024 := by
  simp only [AgentMessage.validate, validateEnvelope, andThen_eq_ok] at hvalid
  rcases hvalid with ⟨⟨hid, hsent, hcorrelation⟩, -⟩
  replace hid := bytes_quote_identifier hid
  have hsentAt : bytes (quote message.sentAt) ≤ 182 := by
    have hshort := (utf16Length_le_utf8ByteSize _).trans (timestamp_of_valid hsent)
    have hquote := bytes_quote_le message.sentAt
    omega
  have hmember : membersLength (optionalMember "correlationId"
      (message.correlationId.map Value.string)) ≤ 147 := by
    cases hsome : message.correlationId with
    | none => exact Nat.zero_le _
    | some text =>
        rw [hsome] at hcorrelation
        have htext := bytes_quote_identifier hcorrelation
        have hkey : bytes (quote "correlationId") = 15 := by decide
        show membersLength [("correlationId", Value.string text)] ≤ 147
        rw [membersLength_cons, membersLength_nil, hkey, print]
        omega
  have hversion : bytes (quote message.protocolVersion.asStr) = 3 := by
    cases message.protocolVersion <;> decide
  have hkeys : bytes (quote "messageId") = 11 ∧ bytes (quote "payload") = 9 ∧
      bytes (quote "protocolVersion") = 17 ∧ bytes (quote "sentAt") = 8 ∧
      bytes (quote "type") = 6 ∧ bytes (quote "agent.heartbeat") = 17 := by decide
  rcases hkeys with ⟨h1, h2, h3, h4, h5, h6⟩
  have hpayload := bytes_uptime_le heartbeat
  have hobject := bytes_print_object_le
    (optionalMember "correlationId" (message.correlationId.map Value.string) ++
      [("messageId", .string message.messageId), ("payload", heartbeat.toValue),
        ("protocolVersion", .string message.protocolVersion.asStr),
        ("sentAt", .string message.sentAt), ("type", .string "agent.heartbeat")])
  have hmessage : frameBytes message = bytes (Value.object
      (optionalMember "correlationId" (message.correlationId.map Value.string) ++
        [("messageId", .string message.messageId), ("payload", heartbeat.toValue),
          ("protocolVersion", .string message.protocolVersion.asStr),
          ("sentAt", .string message.sentAt), ("type", .string "agent.heartbeat")])).print := by
    rw [frameBytes, Value.toString, utf8ByteSize_ofList, AgentMessage.toValue, hkind]
    rfl
  rw [hmessage]
  refine hobject.trans ?_
  simp only [membersLength_append, membersLength_cons, membersLength_nil, print, h1, h2, h3, h4, h5,
    h6, hversion]
  omega

end Heartbeats

/-! ## What a session sends -/

section Conversation

/-- Every frame is one of a message that was handed over, and that can be encoded. -/
def Framed (events : List SessionEvent) : Prop :=
  ∀ buffered message written, .transport (.frame buffered message written) ∈ events →
    .handed message ∈ events ∧ isHello message = false ∧
      ∃ text, encodeAgentMessage message = .ok text

/-- Once a connection is open, its hello has been written. -/
def Greeted (transport : WebSocketTransport) : Prop :=
  transport.state = .connected → transport.helloSent = true

/-- What every turn of the loop keeps; only such hellos are accepted in it. -/
structure Turn.Sound (greets : ServerHello → Prop) (turn : Turn) : Prop where
  framed : Framed turn.events
  greeted : Greeted turn.session.transport
  greets : ∀ hello, .accepted hello ∈ turn.events → greets hello

variable {greets : ServerHello → Prop} {session : AgentSession} {message : AgentMessage}
  {occasion : Occasion} {display : Timestamp → String}

lemma framed_nil : Framed [] := by
  intro _ _ _ hmem
  cases hmem

lemma Framed.append {events others : List SessionEvent} (hevents : Framed events)
    (hothers : Framed others) : Framed (events ++ others) := by
  intro buffered message written hmem
  rcases List.mem_append.mp hmem with hmem | hmem
  · rcases hevents _ _ _ hmem with ⟨hhanded, hrest⟩
    exact ⟨List.mem_append_left _ hhanded, hrest⟩
  · rcases hothers _ _ _ hmem with ⟨hhanded, hrest⟩
    exact ⟨List.mem_append_right _ hhanded, hrest⟩

lemma Framed.cons {event : SessionEvent} {events : List SessionEvent} (hevents : Framed events)
    (hframe : ∀ buffered message written,
      event ≠ .transport (.frame buffered message written)) : Framed (event :: events) := by
  intro buffered message written hmem
  rcases List.mem_cons.mp hmem with heq | hmem
  · exact absurd heq.symm (hframe _ _ _)
  · rcases hevents _ _ _ hmem with ⟨hhanded, hrest⟩
    exact ⟨List.mem_cons_of_mem _ hhanded, hrest⟩

section Sending

variable {transport : WebSocketTransport} {writes : List Written} {buffered : Bool}

lemma frame_of_sendEncoded {written : Written} {event : TransportEvent}
    (hmem : event ∈ (transport.sendEncoded buffered message written).2) :
    event = .frame buffered message written ∧ ∃ text, encodeAgentMessage message = .ok text := by
  rw [WebSocketTransport.sendEncoded.eq_def] at hmem
  cases hencode : encodeAgentMessage message with
  | error e =>
      rw [hencode] at hmem
      cases hmem
  | ok text =>
      rw [hencode] at hmem
      cases hsocket : transport.socket with
      | none =>
          rw [hsocket] at hmem
          cases hmem
      | some socket =>
          rw [hsocket] at hmem
          exact ⟨List.mem_singleton.mp hmem, text, rfl⟩

lemma mem_orDisconnect {outcome : Transport.Outcome Unit} {event : TransportEvent}
    (hmem : event ∈ (WebSocketTransport.orDisconnect outcome).events) :
    event ∈ outcome.events ∨ event = .ended := by
  rw [WebSocketTransport.orDisconnect] at hmem
  split at hmem
  · exact .inl hmem
  · rcases List.mem_append.mp hmem with hmem | hmem
    · exact .inl hmem
    · exact .inr (List.mem_singleton.mp hmem)

lemma greeted_orDisconnect {outcome : Transport.Outcome Unit} (hgreeted : Greeted outcome.transport) :
    Greeted (WebSocketTransport.orDisconnect outcome).transport := by
  rw [WebSocketTransport.orDisconnect]
  split
  · exact hgreeted
  · intro hconnected
    cases hconnected

/-- What is left of a message that is no hello, on a connection that is greeted. -/
lemma sendChecked_eq (hhello : isHello message = false) :
    (transport.sendChecked message writes).transport = transport ∧
      (transport.sendChecked message writes).events =
        (transport.sendEncoded false message (writes.head?.getD none)).2 := by
  rw [WebSocketTransport.sendChecked]
  split
  · rename_i e events hencoded
    rw [hencoded]
    exact ⟨rfl, rfl⟩
  · rename_i events hencoded
    rw [hencoded, hhello]
    exact ⟨rfl, rfl⟩

/-- What sending a message over a connection writes. -/
lemma frame_of_send (hgreeted : Greeted transport) :
    (∀ buffered other written, .frame buffered other written ∈ (transport.send message writes).events →
      other = message ∧ isHello message = false ∧ ∃ text, encodeAgentMessage message = .ok text) ∧
    Greeted (transport.send message writes).transport := by
  have hrefused : ∀ e : TransportError, (∀ buffered other written,
      TransportEvent.frame buffered other written ∈ (⟨.error e, transport, []⟩ :
        Transport.Outcome Unit).events → other = message ∧ isHello message = false ∧
          ∃ text, encodeAgentMessage message = .ok text) ∧ Greeted transport := by
    intro e
    refine ⟨?_, hgreeted⟩
    intro _ _ _ hmem
    cases hmem
  rw [WebSocketTransport.send]
  split_ifs with hconnected hauthenticated hunsent hsent
  · exact hrefused _
  · exact hrefused _
  · exact hrefused _
  · exact hrefused _
  · have hhello : isHello message = false := by
      rw [hgreeted (not_not.mp hconnected)] at hsent
      simpa using hsent
    rcases @sendChecked_eq message transport writes hhello with ⟨htransport, hevents⟩
    refine ⟨?_, greeted_orDisconnect (by rw [htransport]; exact hgreeted)⟩
    intro buffered other written hmem
    rcases mem_orDisconnect hmem with hmem | hended
    · rw [hevents] at hmem
      rcases frame_of_sendEncoded hmem with ⟨heq, hencoded⟩
      cases heq
      exact ⟨rfl, hhello, hencoded⟩
    · cases hended

end Sending

/-! ### Turns -/

lemma sound_quiet (hgreeted : Greeted session.transport) (disposition : MessageDisposition) :
    (session.quiet disposition).Sound greets :=
  ⟨framed_nil, hgreeted, nofun⟩

lemma sound_transmit (hgreeted : Greeted session.transport) (message : AgentMessage)
    (written : Written) : (session.transmit message written).Sound greets := by
  rcases @frame_of_send message session.transport [written] hgreeted with ⟨hframes, hnext⟩
  refine ⟨?_, hnext, ?_⟩
  · intro buffered other written hmem
    rcases List.mem_cons.mp hmem with heq | hmem
    · cases heq
    · rcases List.mem_map.mp hmem with ⟨event, hevent, heq⟩
      cases heq
      rcases hframes _ _ _ hevent with ⟨rfl, hrest⟩
      exact ⟨List.mem_cons_self, hrest⟩
  · intro hello hmem
    rcases List.mem_cons.mp hmem with heq | hmem
    · cases heq
    · rcases List.mem_map.mp hmem with ⟨_, _, heq⟩
      cases heq

lemma sound_flushAwaiting (awaiting : List AgentMessage) :
    ∀ {session : AgentSession}, Greeted session.transport → ∀ writes,
      (session.flushAwaiting awaiting writes).Sound greets := by
  induction awaiting with
  | nil =>
      intro session hgreeted writes
      rw [AgentSession.flushAwaiting]
      exact @sound_quiet greets { session with awaitingHandshake := [] } hgreeted _
  | cons message awaiting ih =>
      intro session hgreeted writes
      have hsent : (session.transmit message (writes.head?.getD none)).Sound greets :=
        sound_transmit hgreeted _ _
      rw [AgentSession.flushAwaiting]
      split
      · have hrest := ih hsent.greeted writes.tail
        refine ⟨hsent.framed.append hrest.framed, hrest.greeted, ?_⟩
        intro hello hmem
        exact (List.mem_append.mp hmem).elim (hsent.greets hello) (hrest.greets hello)
      · exact ⟨hsent.framed, hsent.greeted, hsent.greets⟩

lemma sound_sendInventory (hgreeted : Greeted session.transport) (correlationId : Option String) :
    (session.sendInventory display occasion correlationId).Sound greets := by
  rw [AgentSession.sendInventory]
  split
  · exact sound_quiet hgreeted _
  · exact sound_transmit hgreeted _ _

lemma sound_completeHandshake (hgreeted : Greeted session.transport) {hello : ServerHello}
    (hgreets : greets hello) :
    (session.completeHandshake display hello occasion).Sound greets := by
  have haccepted : ∀ {events : List SessionEvent},
      (∀ other, .accepted other ∈ events → greets other) →
        ∀ other, .accepted other ∈ .accepted hello :: events → greets other := by
    intro events hevents other hmem
    rcases List.mem_cons.mp hmem with heq | hmem
    · cases heq
      exact hgreets
    · exact hevents other hmem
  have hnoframe : ∀ buffered message written, SessionEvent.accepted hello ≠
      .transport (.frame buffered message written) := by
    intro _ _ _ heq
    cases heq
  rw [AgentSession.completeHandshake]
  dsimp only
  have hdescribed := @sound_sendInventory greets
    { session with selected := some hello.selectedProtocolVersion, handshaken := true }
    occasion display hgreeted none
  generalize AgentSession.sendInventory
    { session with selected := some hello.selectedProtocolVersion, handshaken := true }
    display occasion none = described at hdescribed ⊢
  split
  · have hflushed : (described.session.flushAwaiting described.session.awaitingHandshake
        occasion.writes.tail).Sound greets := sound_flushAwaiting _ hdescribed.greeted _
    refine ⟨(hdescribed.framed.append hflushed.framed).cons hnoframe, hflushed.greeted,
      haccepted ?_⟩
    intro other hmem
    exact (List.mem_append.mp hmem).elim (hdescribed.greets other) (hflushed.greets other)
  · exact ⟨hdescribed.framed.cons hnoframe, hdescribed.greeted, haccepted hdescribed.greets⟩

lemma sound_handleServerMessage (hgreeted : Greeted session.transport) {message : ServerMessage}
    (hgreets : ∀ hello, message.kind = .hello hello → greets hello) :
    (session.handleServerMessage display message occasion).Sound greets := by
  have hquiet : ∀ disposition, (session.quiet disposition).Sound greets :=
    sound_quiet hgreeted
  rw [AgentSession.handleServerMessage]
  split
  · exact hquiet _
  split
  · exact hquiet _
  split
  · exact hquiet _
  cases hkind : message.kind with
  | hello hello =>
      dsimp only
      split_ifs
      · exact hquiet _
      · exact sound_completeHandshake hgreeted (hgreets hello hkind)
      · exact hquiet _
  | heartbeat request => exact sound_transmit hgreeted _ _
  | printJob job => exact hquiet _
  | cancelJob cancel => exact hquiet _
  | requestPrinterInventory => exact sound_sendInventory hgreeted _
  | configurationInvalidated invalidated => exact sound_sendInventory hgreeted _
  | disconnect disconnect =>
      dsimp only
      split_ifs
      · exact hquiet _
      · exact hquiet _

lemma sound_report (hgreeted : Greeted session.transport) :
    (session.report message occasion).Sound greets := by
  rw [AgentSession.report]
  split_ifs
  · exact sound_quiet hgreeted _
  · exact sound_transmit hgreeted _ _
  · exact ⟨framed_nil, hgreeted, nofun⟩
  · exact sound_quiet hgreeted _

lemma sound_publish (hgreeted : Greeted session.transport) :
    (session.publish display occasion).Sound greets := by
  rw [AgentSession.publish]
  split_ifs
  · exact sound_quiet hgreeted _
  · exact sound_quiet hgreeted _
  · exact sound_sendInventory hgreeted _

/-- Leaving the loop writes no frame. -/
lemma leave_cases (session : AgentSession) : Greeted session.leave.1.transport ∧
    ∀ event ∈ session.leave.2, event = .transport .ended := by
  rw [AgentSession.leave]
  show Greeted (session.transport.close .closed).transport ∧
    ∀ event ∈ (session.transport.close .closed).events.map SessionEvent.transport, _
  rw [WebSocketTransport.close]
  split
  · refine ⟨?_, ?_⟩
    · intro hconnected
      cases hconnected
    · intro event hmem
      cases hmem
  · refine ⟨?_, ?_⟩
    · intro hconnected
      cases hconnected
    · intro event hmem
      exact List.mem_singleton.mp hmem

lemma Turn.Sound.conclude {turn : Turn} (hsound : turn.Sound greets) :
    Framed turn.conclude.2 ∧ Greeted turn.conclude.1.transport ∧
      ∀ hello, .accepted hello ∈ turn.conclude.2 → greets hello := by
  rw [Turn.conclude.eq_def]
  split
  · exact ⟨hsound.framed, hsound.greeted, hsound.greets⟩
  · rcases leave_cases turn.session with ⟨hgreeted, hended⟩
    have hframed : Framed turn.session.leave.2 := by
      intro _ _ _ hmem
      cases hended _ hmem
    refine ⟨hsound.framed.append hframed, hgreeted, ?_⟩
    intro hello hmem
    rcases List.mem_append.mp hmem with hmem | hmem
    · exact hsound.greets hello hmem
    · cases hended _ hmem

/-! ### Runs -/

/-- What every run keeps. -/
structure Told (history : List SessionEvent) (session : AgentSession) : Prop where
  framed : Framed history
  greeted : Greeted session.transport
  hellos : ∀ hello, .accepted hello ∈ history → hello.validate = .ok ()

variable {history events : List SessionEvent} {next last : AgentSession} {action : SessionAction}

lemma Told.add (htold : Told history session)
    (hsound : Framed events ∧ Greeted next.transport ∧
      ∀ hello, .accepted hello ∈ events → hello.validate = .ok ()) :
    Told (history ++ events) next := by
  refine ⟨htold.framed.append hsound.1, hsound.2.1, ?_⟩
  intro hello hmem
  exact (List.mem_append.mp hmem).elim (htold.hellos hello) (hsound.2.2 hello)

/-- One step tells of frames of messages that were handed over, and of valid hellos. -/
lemma Told.step (htold : Told history session)
    (hstep : (conversation display).step session action = some (next, events)) :
    Told (history ++ events) next := by
  simp only [conversation] at hstep
  split at hstep
  · cases hstep
  cases action with
  | received message occasion =>
      dsimp only at hstep
      cases hvalid : message.validate with
      | error e =>
          rw [hvalid] at hstep
          cases hstep
      | ok u =>
          cases u
          rw [hvalid] at hstep
          have hconclude := Option.some.inj hstep
          have hgreets : ∀ hello, message.kind = .hello hello → hello.validate = .ok () := by
            intro hello hkind
            simp only [ServerMessage.validate, andThen_eq_ok, ServerMessageKind.validate, hkind,
              within_eq_ok] at hvalid
            exact hvalid.2.2.2
          have hsound := (@sound_handleServerMessage _ session occasion display htold.greeted message
            hgreets).conclude
          rw [hconclude] at hsound
          exact htold.add hsound
  | reported message occasion =>
      have hsound := (@sound_report (fun hello => hello.validate = .ok ()) session message occasion
        htold.greeted).conclude
      rw [Option.some.inj hstep] at hsound
      exact htold.add hsound
  | published occasion =>
      have hsound := (@sound_publish (fun hello => hello.validate = .ok ()) session occasion display
        htold.greeted).conclude
      rw [Option.some.inj hstep] at hsound
      exact htold.add hsound
  | dropped =>
      rcases leave_cases session with ⟨hgreeted, hended⟩
      rw [Option.some.inj hstep] at hgreeted hended
      refine htold.add ⟨?_, hgreeted, ?_⟩
      · intro _ _ _ hmem
        cases hended _ hmem
      · intro _ hmem
        cases hended _ hmem

/-- A connection over which messages can be sent. -/
structure Live (transport : WebSocketTransport) : Prop where
  connected : transport.state = .connected
  isOpen : transport.socket.isSome = true
  authenticated : transport.authenticated = true
  helloSent : transport.helloSent = true

/-- A session whose hello is written, before the server has said hello. -/
structure AgentSession.Ready (session : AgentSession) : Prop where
  live : Live session.transport
  unanswered : session.handshaken = false
  waiting : session.awaitingHandshake = []
  running : session.ended = false

lemma told_ready (hready : session.Ready) : Told [] session :=
  ⟨framed_nil, fun _ => hready.live.helloSent, nofun⟩

/-- What a run keeps, from a session that is ready. -/
theorem told (hready : session.Ready)
    (hrun : (conversation display).Runs anyStep session history last) : Told history last := by
  induction hrun with
  | start => exact told_ready hready
  | step _ _ hstep ih => exact ih.step hstep

/-- What a session is given to send, besides heartbeats, is of a kind. -/
def Carries (traffic : AgentMessage → Prop) (history : List SessionEvent) : Prop :=
  ∀ message, .handed message ∈ history →
    (∃ heartbeat, message.kind = .heartbeat heartbeat) ∨ traffic message

/-! ### Within the limit -/

section Limit

variable {hello : ServerHello} {descriptors : List Protocol.PrinterDescriptor} {other : AgentMessage}

/-- No server may have a smaller limit. -/
lemma least_of_valid (hvalid : hello.validate = .ok ()) : 1024 ≤ hello.maxMessageBytes.toNat := by
  simp only [ServerHello.validate, andThen_eq_ok] at hvalid
  have hrest := hvalid.2.2.2.2.2
  split_ifs at hrest with hversion hinterval hlimit
  · exact absurd hrest refuse_ne_ok
  · exact absurd hrest refuse_ne_ok
  · simp only [Bool.or_eq_true, decide_eq_true_eq, not_or, not_lt] at hlimit
    exact hlimit.1
  · exact absurd hrest refuse_ne_ok

/-- What a session is that has completed its handshake. -/
def AgentSession.greeted (session : AgentSession) (hello : ServerHello) : AgentSession :=
  { session with
    selected := some hello.selectedProtocolVersion, handshaken := true, awaitingHandshake := [] }

/-- Handing a message over to an open connection writes its frame. -/
lemma transmit_eq (hlive : Live session.transport) (hhello : isHello message = false)
    (hencoded : ∃ text, encodeAgentMessage message = .ok text) :
    session.transmit message none =
      ⟨session, [.handed message, .transport (.frame false message none)], .stay⟩ := by
  rcases hencoded with ⟨text, hencoded⟩
  rcases Option.isSome_iff_exists.mp hlive.isOpen with ⟨socket, hsocket⟩
  have hframe : session.transport.sendEncoded false message ([none].head?.getD none) =
      (.ok (), [.frame false message none]) := by
    rw [WebSocketTransport.sendEncoded.eq_def, hencoded, hsocket]
    rfl
  have hsend : session.transport.send message [none] =
      ⟨.ok (), session.transport, [.frame false message none]⟩ := by
    rw [WebSocketTransport.send, if_neg (not_not.mpr hlive.connected),
      if_neg (by rw [hlive.authenticated]; decide), if_neg (by rw [hlive.helloSent]; simp),
      if_neg (by rw [hhello]; simp), WebSocketTransport.sendChecked, hframe, hhello]
    rfl
  rw [AgentSession.transmit, hsend]
  rfl

/-- A hello that is accepted, when the inventory can be sent. -/
lemma handshake_step (hready : session.Ready) {message : ServerMessage}
    (hvalid : message.validate = .ok ()) (hkind : message.kind = .hello hello)
    (hcorrelation : message.correlationId = some session.helloMessageId)
    (hoffered : hello.selectedProtocolVersion ∈ session.offered)
    (hcurrent : occasion.current = true) (hdescriptors : occasion.descriptors = .ok descriptors)
    (hwrites : occasion.writes = [])
    (hencoded : ∃ text, encodeAgentMessage (inventoryMessage display descriptors occasion none
      hello.selectedProtocolVersion) = .ok text) :
    (conversation display).step session (.received message occasion) =
      some (session.greeted hello,
        [.accepted hello,
          .handed (inventoryMessage display descriptors occasion none
            hello.selectedProtocolVersion),
          .transport (.frame false (inventoryMessage display descriptors occasion none
            hello.selectedProtocolVersion) none)]) := by
  let connected : AgentSession :=
    { session with selected := some hello.selectedProtocolVersion, handshaken := true }
  let inventory := inventoryMessage display descriptors occasion none hello.selectedProtocolVersion
  have hdescribed : connected.sendInventory display occasion none =
      ⟨connected, [.handed inventory, .transport (.frame false inventory none)], .stay⟩ := by
    rw [AgentSession.sendInventory, hdescriptors, hwrites]
    exact @transmit_eq connected inventory hready.live rfl hencoded
  have hturn : session.handleServerMessage display message occasion =
      ⟨session.greeted hello, [.accepted hello, .handed inventory,
        .transport (.frame false inventory none)], .stay⟩ := by
    have hhandshake : message.isHandshake = true := by rw [ServerMessage.isHandshake, hkind]
    rw [AgentSession.handleServerMessage, if_neg (by rw [hcurrent]; decide),
      if_neg (by rw [hhandshake]; simp), if_neg (by rw [hready.unanswered]; simp), hkind]
    dsimp only
    rw [if_neg (by rw [hready.unanswered, hcorrelation]; simp), if_neg (not_not.mpr hoffered),
      AgentSession.completeHandshake]
    simp only [connected] at hdescribed
    simp only [hdescribed]
    show Turn.mk _ _ _ = _
    have hwaiting : connected.awaitingHandshake = [] := hready.waiting
    rw [hwaiting]
    rfl
  simp only [conversation, hready.running, hvalid, hturn]
  rfl

/-- A report that is written. -/
lemma report_step (hready : session.Ready) (hhello : isHello other = false)
    (hcurrent : occasion.current = true) (hwrites : occasion.writes = [])
    (hencoded : ∃ text, encodeAgentMessage other = .ok text) :
    (conversation display).step (session.greeted hello) (.reported other occasion) =
      some (session.greeted hello,
        [.handed other, .transport (.frame false other none)]) := by
  have hturn : (session.greeted hello).report other occasion =
      ⟨session.greeted hello, [.handed other, .transport (.frame false other none)], .stay⟩ := by
    rw [AgentSession.report, if_neg (by rw [hcurrent]; decide), hwrites]
    exact transmit_eq hready.live hhello hencoded
  have hrunning : (session.greeted hello).ended = false := hready.running
  simp only [conversation, hrunning, hturn]
  rfl

/-- **The frames of a session stay within the limit exactly when all it is given to send does.** -/
theorem frames_fit_iff {traffic : AgentMessage → Prop} (hready : session.Ready)
    {message : ServerMessage} (hvalid : message.validate = .ok ())
    (hkind : message.kind = .hello hello)
    (hcorrelation : message.correlationId = some session.helloMessageId)
    (hoffered : hello.selectedProtocolVersion ∈ session.offered)
    (hcurrent : occasion.current = true) (hdescriptors : occasion.descriptors = .ok descriptors)
    (hwrites : occasion.writes = [])
    (hinventory : traffic (inventoryMessage display descriptors occasion none
      hello.selectedProtocolVersion))
    (hencoded : ∃ text, encodeAgentMessage (inventoryMessage display descriptors occasion none
      hello.selectedProtocolVersion) = .ok text) :
    (∀ history last, (conversation display).Runs anyStep session history last →
      .accepted hello ∈ history → Carries traffic history →
        ∀ buffered other written, .transport (.frame buffered other written) ∈ history →
          frameBytes other ≤ hello.maxMessageBytes.toNat) ↔
      ∀ other, traffic other → isHello other = false →
        (∃ text, encodeAgentMessage other = .ok text) →
          frameBytes other ≤ hello.maxMessageBytes.toNat := by
  constructor
  · intro hfit other htraffic hhello hother
    let inventory :=
      inventoryMessage display descriptors occasion none hello.selectedProtocolVersion
    have hfirst : (conversation display).Runs anyStep session
        [.accepted hello, .handed inventory, .transport (.frame false inventory none)]
        (session.greeted hello) :=
      .step .start trivial (handshake_step hready hvalid hkind hcorrelation hoffered hcurrent
        hdescriptors hwrites hencoded)
    have hrun := hfirst.step trivial
      (@report_step session occasion display hello other hready hhello hcurrent hwrites hother)
    refine hfit _ _ hrun (by simp) ?_ false other none (by simp)
    intro sent hsent
    simp only [List.cons_append, List.nil_append, List.mem_cons, reduceCtorEq, false_or,
      SessionEvent.handed.injEq, List.not_mem_nil, or_false] at hsent
    rcases hsent with rfl | rfl
    · exact .inr hinventory
    · exact .inr htraffic
  · intro htraffic history last hrun haccepted hcarries buffered other written hframe
    have htold := told hready hrun
    rcases htold.framed _ _ _ hframe with ⟨hhanded, hhello, hother⟩
    rcases hcarries other hhanded with ⟨heartbeat, hbeats⟩ | hgiven
    · have hleast : 1024 ≤ hello.maxMessageBytes.toNat :=
        least_of_valid (htold.hellos hello haccepted)
      exact (heartbeat_le hbeats (encodeAgentMessage_isOk.mp hother).1).trans hleast
    · exact htraffic other hgiven hhello hother

end Limit

end Conversation

/-! ## A server with the least limit -/

/-- A session that waits for the hello of its server. -/
def waitingSession : AgentSession where
  transport :=
    { WebSocketTransport.new outboundBufferCapacity with
      socket := some 0, state := .connected, authenticated := true, helloSent := true }
  helloMessageId := "message_0"
  offered := [.v1, .v2]
  handshaken := false
  selected := none
  awaitingHandshake := []
  ended := false

lemma ready_waitingSession : waitingSession.Ready := ⟨⟨rfl, rfl, rfl, rfl⟩, rfl, rfl, rfl⟩

/-- A hello with the least limit there is. -/
def leastHello : ServerHello where
  serverId := "srv_1"
  serverVersion := "1"
  brand := ⟨"Print"⟩
  sessionId := "session_1"
  supportedProtocolVersions := [.v2]
  selectedProtocolVersion := .v2
  heartbeatIntervalMs := 15000
  maxMessageBytes := 1024

/-- The message it comes in. -/
def leastHelloMessage : ServerMessage where
  protocolVersion := .base
  messageId := "message_1"
  sentAt := "2026-07-01T09:00:00.000Z"
  correlationId := some "message_0"
  kind := .hello leastHello

/-- The printers of a catalog, and a network that does not fail. -/
def describedOccasion (descriptors : List Protocol.PrinterDescriptor) : Occasion where
  current := true
  descriptors := .ok descriptors
  revision := 1
  uptimeSeconds := 0
  uuid := 0
  sentAt := ⟨0⟩
  writes := []

/-- A clock that is printed as a timestamp. -/
def fixedDisplay : Timestamp → String := fun _ => "2026-07-01T09:00:00.000Z"

/-- The inventory of such a session. -/
def fixedInventory (descriptors : List Protocol.PrinterDescriptor) : AgentMessage :=
  inventoryMessage fixedDisplay descriptors (describedOccasion descriptors) none .v2

/-- A catalog without printers can be described. -/
lemma encodes_fixedInventory : ∃ text, encodeAgentMessage (fixedInventory []) = .ok text :=
  encodeAgentMessage_isOk.mpr (by decide +kernel)

theorem frames_fit_noPrinters :
    (∀ history last, (conversation fixedDisplay).Runs anyStep waitingSession history last →
      .accepted leastHello ∈ history → Carries (fun _ => True) history →
        ∀ buffered other written, .transport (.frame buffered other written) ∈ history →
          frameBytes other ≤ leastHello.maxMessageBytes.toNat) ↔
      ∀ other : AgentMessage, True → isHello other = false →
        (∃ text, encodeAgentMessage other = .ok text) →
          frameBytes other ≤ leastHello.maxMessageBytes.toNat :=
  @frames_fit_iff waitingSession (describedOccasion []) fixedDisplay leastHello [] (fun _ => True)
    ready_waitingSession leastHelloMessage (by decide +kernel) rfl rfl (by decide) rfl rfl rfl
    trivial encodes_fixedInventory

/-- A failed job whose printer had so much to say. -/
def failedReport (length : ℕ) : AgentMessage where
  protocolVersion := .base
  messageId := "message_2"
  sentAt := "2026-07-01T09:00:00.000Z"
  correlationId := some "message_3"
  kind := .jobFailed
    { jobId := "job_1"
      idempotencyKey := "key"
      status := .failed
      failedAt := "2026-07-01T09:00:00.000Z"
      error :=
        { code := "printer_error"
          message := String.ofList (List.replicate length 'x')
          retryable := false } }

lemma failedReport_valid {length : ℕ} (hleast : 1 ≤ length) (hmost : length ≤ 1024) :
    (failedReport length).validate = .ok () := by
  have hlength : utf16Length (String.ofList (List.replicate length 'x')) = length := by
    rw [utf16Length, String.toList_ofList, List.map_replicate, List.sum_replicate_nat]
    exact Nat.mul_one length
  have hmessage : validateString (String.ofList (List.replicate length 'x')) "message" 1 1024 =
      .ok () := by
    rw [validateString, hlength, if_pos (by rw [Bool.and_eq_true]; simp [hleast, hmost])]
  simp only [AgentMessage.validate, failedReport, andThen_eq_ok, AgentMessageKind.validate,
    within_eq_ok, JobFailed.validate, FailureDetail.validate, hmessage]
  exact ⟨by decide +kernel, rfl, rfl, by decide +kernel, rfl, by decide +kernel, by decide +kernel,
    trivial⟩

/-- Such a report is longer than what the printer had to say. -/
lemma le_frameBytes_failedReport (length : ℕ) : length + 74 ≤ frameBytes (failedReport length) := by
  have hlength : (String.ofList (List.replicate length 'x')).toList.length = length := by
    rw [String.toList_ofList, List.length_replicate]
  have hfloor := Json.Value.floor_le_utf8ByteSize_toString (failedReport length).toValue
  refine le_trans ?_ hfloor
  simp only [AgentMessage.toValue, failedReport, AgentMessageKind.toValue, JobFailed.toValue,
    FailureDetail.toValue, Json.Value.floor, Json.Value.floorMembers, Json.optionalMember,
    Option.map_some, Option.toList_some, List.cons_append, List.nil_append, hlength]
  omega

/-- A server closes a session over a frame that is longer than its limit. -/
lemma receiveMessage_of_long {Input : Type} (config : Server.SessionConfig Input)
    (session : Server.Session Input) (input : Input) (hopen : session.isClosing = false)
    (hlong : config.maxMessageBytes < config.byteLength input) :
    (Server.receiveMessage config session input).next =
      .continue [.protocolViolation .messageTooLarge] := by
  rw [Server.receiveMessage, if_neg (by rw [hopen]; decide), if_pos hlong]
  rfl

/-- **A report breaks the limit**: the agent sends it to a server whose limit is shorter, and the
server closes the session. -/
theorem long_report_sent :
    (∃ history last, (conversation fixedDisplay).Runs anyStep waitingSession history last ∧
      .accepted leastHello ∈ history ∧
      .transport (.frame false (failedReport 1000) none) ∈ history ∧
      leastHello.maxMessageBytes.toNat < frameBytes (failedReport 1000)) ∧
    ∀ (Input : Type) (config : Server.SessionConfig Input) (session : Server.Session Input)
      (input : Input), config.maxMessageBytes = leastHello.maxMessageBytes.toNat →
        config.byteLength input = frameBytes (failedReport 1000) → session.isClosing = false →
          (Server.receiveMessage config session input).next =
            .continue [.protocolViolation .messageTooLarge] := by
  have hlong : leastHello.maxMessageBytes.toNat < frameBytes (failedReport 1000) := by
    have hfloor := le_frameBytes_failedReport 1000
    show 1024 < _
    omega
  have hvalid : (failedReport 1000).validate = .ok () := failedReport_valid (by decide) (by decide)
  have hencoded : ∃ text, encodeAgentMessage (failedReport 1000) = .ok text := by
    refine encodeAgentMessage_isOk.mpr ⟨hvalid, ?_⟩
    exact (utf8ByteSize_terminal_le hvalid rfl).trans (by decide)
  have hfirst : (conversation fixedDisplay).Runs anyStep waitingSession
      [.accepted leastHello, .handed (fixedInventory []),
        .transport (.frame false (fixedInventory []) none)] (waitingSession.greeted leastHello) :=
    .step .start trivial (@handshake_step waitingSession (describedOccasion []) fixedDisplay
      leastHello [] ready_waitingSession leastHelloMessage (by decide +kernel) rfl rfl (by decide)
      rfl rfl rfl encodes_fixedInventory)
  have hrun := hfirst.step trivial (@report_step waitingSession (describedOccasion []) fixedDisplay
    leastHello (failedReport 1000) ready_waitingSession rfl rfl rfl hencoded)
  refine ⟨⟨_, _, hrun, by simp, by simp, hlong⟩, ?_⟩
  intro Input config session input hlimit hlength hopen
  refine receiveMessage_of_long config session input hopen ?_
  rw [hlimit, hlength]
  exact hlong

end Oppa.Desktop
