import Oppa.Server.EventLoop

/-!
# What one instruction of a session does

`Performs` lists everything an instruction can do, with the session before and after it and the
condition under which it does it.  **`performs`**, with one lemma for each method, is the only place
that unfolds the methods.

* `Offers`, `Concludes`, `Notifies` — the three ways in which an instruction comes to wait.
* `Farewell` — what is left to do once a session has told its agent that it closes.
-/

namespace Oppa.Server

open Protocol

variable {Input : Type} {config : SessionConfig Input}

/-! ## Instructions -/

/-- How a write is enqueued by a session that requires a state for it. -/
inductive Offers (state allowed : SessionState) (frame : Frame) (purpose : Written) :
    Next Input → Prop
  | enqueued : state = allowed → Offers state allowed frame purpose (.write frame purpose [])
  | refused : state ≠ allowed →
      Offers state allowed frame purpose (.continue [.written purpose .notWritable])
  | raised : Offers state allowed frame purpose .fail

/-- How the last frame of a session is written. -/
inductive Concludes (frame : Frame) (codes : List (Code Input)) : Next Input → Prop
  | enqueued : Concludes frame codes (.write frame .last codes)
  | raised : Concludes frame codes .fail

/-- How a callback is invoked, if it is registered. -/
inductive Notifies (event : HostEvent) (codes : List (Code Input)) : Next Input → Prop
  | invoked : Notifies event codes (.callback event codes)
  | unregistered : Notifies event codes (.continue codes)

/-- Events of messages of a connected agent. -/
def HostEvent.isRouted : HostEvent → Bool
  | .printersChanged _ _ _ | .jobReceived _ _ | .jobSubmitted _ _ | .jobFailed _ _
  | .diagnostics _ _ => true
  | _ => false

/-- What is left to do when a session has told its agent that it closes. -/
inductive Farewell (state : SessionState) : Code Input → Prop
  | expired (agent : Option Snapshot) (at_ : ℕ) :
      state = .connected → Farewell state (.invoke (.heartbeatTimeout agent at_))
  | violated (agent : Option Snapshot) (agentId : String) (code : ProtocolErrorCode) :
      Farewell state (.invoke (.protocolError agent agentId code))
  | disconnected : Farewell state .returnDisconnect

/-- What a session shows when it begins to close. -/
inductive Closes (s : Session Input) : List (Effect Input) → Prop
  | silently : Closes s [.entered .closing]
  | refusing (input : Input) : Closes s [.authenticating input s.now, .entered .closing]
  | accusing (violation : ProtocolErrorCode) : Closes s [.violated violation, .entered .closing]

/-- **What one instruction can do.** -/
inductive Performs (config : SessionConfig Input) : Session Input → Code Input → Session Input →
    Next Input → List (Effect Input) → Prop
  | nothing {s code} : Performs config s code s (.continue []) []
  | raised {s code} : Performs config s code s .fail []
  | violates {s code t violation} :
      Performs config s code { s with lastSeenAt := t } (.continue [.protocolViolation violation]) []
  -- authentication
  | began {s challenge next} :
      Offers s.state .authenticating (.challenge challenge) .challenge next →
      Performs config s .beginAuthentication { s.draw with challenge := some challenge } next
        [.challenged challenge]
  | refused {s input code} :
      s.state = .authenticating →
      Performs config s (.receiveMessage input) { s with challengeConsumed := true }
        (.continue [.rejectAuthentication code]) [.authenticating input s.now]
  | lookedUp {s input challenge response} :
      s.state = .authenticating → s.challenge = some challenge → s.challengeConsumed = false →
      config.decodeResponse input = .ok response →
      response.challengeId = challenge.challengeId → s.now < challenge.expiresAt →
      Performs config s (.receiveMessage input) { s with challengeConsumed := true }
        (.lookup response)
        [.authenticating input s.now, .lookedUp response.agentId response.keyId]
  | distrusted {s response answer code} :
      Performs config s (.credentialFound response answer) s
        (.continue [.rejectAuthentication code]) []
  | identified {s challenge response credential next} :
      s.challenge = some challenge → credential.revokedAt = none →
      config.verify credential.publicKey challenge.payload response.signature = true →
      Offers s.state .authenticating (.accepted credential.agentId) .accepted next →
      Performs config s (.credentialFound response (some credential))
        { s with authenticationTimer := none, identity := some credential.agentId } next
        [.identified credential.agentId]
  | rejected {s code failure next effects} :
      s.state = .authenticating → Closes s effects →
      Concludes (.rejected failure)
        [.requestTransportClose ⟨.authenticationFailed, failure.name⟩,
          .finalize .authenticationFailed none] next →
      Performs config s code
        { s.beginClosing .authenticationFailed with authenticationTimer := none } next effects
  -- inbound messages
  | greeted {s input message hello} :
      s.state = .handshaking → config.decodeAgentMessage input = .ok message →
      message.kind = .hello hello →
      Performs config s (.receiveMessage input) { s with lastSeenAt := s.now }
        (.continue [.completeHandshake message.messageId hello]) []
  | routes {s input message} :
      s.state = .connected → config.decodeAgentMessage input = .ok message →
      Performs config s (.receiveMessage input) { s with lastSeenAt := s.now }
        (.continue [.routeMessage message]) []
  | offersHello {s messageId hello selected message payload next} :
      s.identity = some hello.agentId →
      selectProtocolVersion config.protocolVersions hello.supportedProtocolVersions
        = some selected →
      message.kind = .hello payload →
      Offers s.state .handshaking (.server message) (.hello hello selected) next →
      Performs config s (.completeHandshake messageId hello) s.draw next []
  | heartbeat {s message messageId at_} :
      message.correlationId = some messageId → (messageId, at_) ∈ s.pendingHeartbeats →
      Performs config s (.routeMessage message)
        { ({ s with
            pendingHeartbeats := s.pendingHeartbeats.filter fun other => other.1 ≠ messageId
            lastHeartbeatAt := s.now }).prunePendingHeartbeats config with
          heartbeatDeadline := some (s.now + config.heartbeatTimeoutMs) }
        (.continue []) [.heartbeatAnswered messageId s.now]
  | uncorrelated {s message} :
      (∀ entry ∈ s.pendingHeartbeats, some entry.1 ≠ message.correlationId) →
      Performs config s (.routeMessage message) s
        (.continue [.protocolViolation .unexpectedMessage]) []
  | routed {s message printers revision event next} :
      event.isRouted = true → Notifies event [] next →
      Performs config s (.routeMessage message)
        { s with printers := printers, printerRevision := revision } next []
  -- heartbeats
  | offersHeartbeat {s next} :
      s.state = .connected →
      Offers s.state .connected
        (.server ((s.prunePendingHeartbeats config).newMessage config none
          (.heartbeat ⟨UInt32.ofNat config.heartbeatTimeoutMs⟩)))
        (.heartbeat (config.uuid s.drawn)) next →
      Performs config s .sendHeartbeat
        { (s.prunePendingHeartbeats config).draw with
          pendingHeartbeats := (s.prunePendingHeartbeats config).pendingHeartbeats ++
            [(config.uuid s.drawn, s.now)] } next []
  -- closing
  | bidsFarewell {s code reason detail payload last next effects} :
      s.state = .connected → Farewell s.state last → Closes s effects →
      (reason = .heartbeatTimeout → code = .heartbeatExpired) →
      Concludes (.server (s.newMessage config none (.disconnect payload)))
        [.requestTransportClose ⟨reason, detail⟩, .finalize reason none, last] next →
      Performs config s code (s.draw.beginClosing reason) next effects
  | refers {s violation} :
      s.state = .authenticating →
      Performs config s (.protocolViolation violation) s
        (.continue [.rejectAuthentication .challengeInvalid]) [.violated violation]
  | breaksOff {s code reason detail last effects} :
      s.state = .authenticating ∨ s.state = .handshaking → Farewell s.state last →
      Closes s effects →
      reason ≠ .heartbeatTimeout →
      Performs config s code (s.beginClosing reason)
        (.continue [.requestTransportClose ⟨reason, detail⟩, .finalize reason none, last]) effects
  | transportClosed {s reason detail} :
      s.state ≠ .closed →
      Performs config s (.handleTransportClosed reason detail) s
        (.continue [.finalize ((s.disconnectReason.or reason).getD .peerClosed) detail]) []
  | transportFailed {s detail} :
      s.state ≠ .closed →
      Performs config s (.transportFailed detail) (s.beginClosing .transportError)
        (.continue [.requestTransportClose ⟨.transportError, detail⟩,
          .finalize .transportError (some detail)]) [.entered .closing]
  | closesTransport {s request} :
      s.transportCloseRequested = false →
      Performs config s (.requestTransportClose request) { s with transportCloseRequested := true }
        .close [.closeRequested request]
  | finalized {s reason detail next} :
      s.state ≠ .closed →
      (next = .continue [] ∨ ∃ agent, s.snapshot = some agent ∧
        Notifies (.agentDisconnected agent reason detail) [] next) →
      Performs config s (.finalize reason detail)
        { s.clearTimers with
          state := .closed
          disconnectReason := some reason
          pendingHeartbeats := [] } next [.entered .closed]
  -- callbacks and returns
  | invokes {s event next} :
      Notifies event [] next → Performs config s (.invoke event) s next []
  | returnsSend {s code result} : Performs config s code s (.continue []) [.sendReturned result]
  | throwsSend {s code} : Performs config s code s (.continue []) [.sendThrew]
  | returnsDisconnect {s code result} :
      Performs config s code s (.continue []) [.disconnectReturned result]
  -- writes
  | armsAuthentication {s} :
      Performs config s (.written .challenge .ok)
        { s with authenticationTimer := some (s.now + config.authenticationTimeoutMs) }
        (.continue []) []
  | accepted {s} :
      Performs config s (.written .accepted .ok)
        { s with
          state := .handshaking
          handshakeTimer := some (s.now + config.handshakeTimeoutMs) }
        (.continue []) [.entered .handshaking]
  | connected {s hello selected agent next} :
      Notifies (.agentConnected agent) [.sendHeartbeat] next →
      Performs config s (.written (.hello hello selected) .ok)
        { s with
          handshakeTimer := none
          protocolVersion := selected
          hello := some hello
          connectedAt := some s.now
          lastHeartbeatAt := s.now
          state := .connected
          heartbeatTimer := some (s.now + config.heartbeatIntervalMs)
          heartbeatDeadline := some (s.now + config.heartbeatTimeoutMs) }
        next [.negotiated selected, .entered .connected]
  | delivered {s message} :
      Performs config s (.written (.application message) .ok) s
        (.continue [.returnSend (.ok message.messageId message.sentAt)]) []
  | failed {s purpose name pending} :
      (∀ entry ∈ pending, entry ∈ s.pendingHeartbeats) →
      Performs config s (.written purpose (.failed name)) { s with pendingHeartbeats := pending }
        (.continue [.transportFailed name]) []
  | undelivered {s message name} :
      Performs config s (.written (.application message) (.failed name)) s
        (.continue [.transportFailed name, .returnSend .transportError]) []
  | offersMessage {s application next} :
      s.state = .connected →
      (application.message.kind.requiredVersion = .extended → s.protocolVersion = .extended) →
      Offers s.state .connected
        (.server { application.message with
          protocolVersion := application.message.kind.requiredVersion })
        (.application { application.message with
          protocolVersion := application.message.kind.requiredVersion }) next →
      Performs config s (.send application) s next []

lemma Closes.mem {s : Session Input} {effects : List (Effect Input)} (hcloses : Closes s effects)
    {e : Effect Input} (he : e ∈ effects) :
    e = .entered .closing ∨ (∃ input, e = .authenticating input s.now) ∨
      ∃ violation, e = .violated violation := by
  cases hcloses with
  | silently => exact Or.inl (List.mem_singleton.mp he)
  | refusing input =>
      rcases List.mem_cons.mp he with rfl | hlast
      · exact Or.inr (Or.inl ⟨input, rfl⟩)
      · exact Or.inl (List.mem_singleton.mp hlast)
  | accusing violation =>
      rcases List.mem_cons.mp he with rfl | hlast
      · exact Or.inr (Or.inr ⟨violation, rfl⟩)
      · exact Or.inl (List.mem_singleton.mp hlast)

/-- An outcome is one of those listed. -/
def Outcome.Listed (config : SessionConfig Input) (s : Session Input) (code : Code Input)
    (outcome : Outcome Input) : Prop :=
  Performs config s code outcome.session outcome.next outcome.effects

section Methods

variable {s : Session Input}

lemma offers_write {allowed : SessionState} {frame : Frame} {purpose : Written} :
    Offers s.state allowed frame purpose (s.write allowed frame purpose []) := by
  simp only [Session.write]
  split
  · exact .enqueued ‹_›
  · exact .refused ‹_›

/-- A frame that the encoder refuses is not offered. -/
lemma offers_encoded {allowed : SessionState} {frame : Frame} {purpose : Written} :
    Offers s.state allowed frame purpose
      (if config.encodes frame then s.write allowed frame purpose [] else .fail) := by
  split
  · exact offers_write
  · exact .raised

lemma concludes_encoded {frame : Frame} {codes : List (Code Input)} :
    Concludes frame codes (if config.encodes frame then .write frame .last codes else .fail) := by
  split
  · exact .enqueued
  · exact .raised

lemma notifies_notify {event : HostEvent} {codes : List (Code Input)} :
    Notifies event codes (notify config event codes) := by
  simp only [notify]
  split
  · exact .invoked
  · exact .unregistered

lemma listed_closeWith {code : Code Input} {reason : DisconnectReason} {detail : String}
    {payload : Disconnect} {last : Code Input} (hstate : s.state = .connected)
    (hlast : Farewell s.state last) (hreason : reason = .heartbeatTimeout → code = .heartbeatExpired) :
    (closeWith config s reason detail payload [last]).Listed config s code := by
  exact .bidsFarewell hstate hlast .silently hreason concludes_encoded

lemma listed_beginAuthentication :
    (beginAuthentication config s).Listed config s .beginAuthentication := by
  exact .began offers_encoded

lemma listed_authenticate {input : Input} (hstate : s.state = .authenticating) :
    (authenticate config s input).Listed config s (.receiveMessage input) := by
  simp only [authenticate]
  split
  · simp only [rejectAuthentication, if_pos hstate]
    exact .rejected hstate (.refusing input) concludes_encoded
  · rename_i challenge hchallenge
    split
    · exact .refused hstate
    · rename_i response hresponse
      split
      · rename_i hconsumed
        have hsame : s = { s with challengeConsumed := true } := by rw [← hconsumed]
        show Performs config s _ s _ _
        conv => arg 4; rw [hsame]
        exact .refused hstate
      · rename_i hconsumed
        split
        · exact .refused hstate
        · rename_i hid
          split
          · exact .refused hstate
          · rename_i hexpiry
            exact .lookedUp hstate hchallenge (by simpa using hconsumed) hresponse
              (by simpa using hid) (by omega)

lemma listed_credentialFound (response : AuthenticationResponse)
    (answer : Option AgentCredentialRecord) :
    (credentialFound config s response answer).Listed config s
      (.credentialFound response answer) := by
  simp only [credentialFound]
  split
  · rename_i credential challenge hchallenge
    split
    · exact .distrusted
    · rename_i hrevoked
      split
      · rename_i hverified
        exact .identified hchallenge (by simpa using hrevoked) hverified offers_encoded
      · exact .distrusted
  · exact .distrusted

lemma listed_rejectAuthentication (code : FailureCode) :
    (rejectAuthentication config s code).Listed config s (.rejectAuthentication code) := by
  simp only [rejectAuthentication]
  split
  · exact .rejected ‹_› .silently concludes_encoded
  · exact .nothing

/-- A violation leaves the session as it is. -/
lemma listed_violates {code : Code Input} (violation : ProtocolErrorCode) :
    (goto s (.protocolViolation violation) []).Listed config s code :=
  .violates

lemma listed_receiveMessage (input : Input) :
    (receiveMessage config s input).Listed config s (.receiveMessage input) := by
  simp only [receiveMessage]
  split
  · exact .nothing
  · rename_i hopen
    split
    · exact listed_violates _
    · split
      · exact listed_authenticate ‹_›
      · rename_i hauth
        split
        · exact listed_violates _
        · rename_i message hmessage
          split
          · exact listed_violates _
          · split
            · rename_i hello hkind
              split
              · exact .greeted ‹_› hmessage hkind
              · exact .violates
            · split
              · exact .violates
              · rename_i hshake
                refine .routes ?_ hmessage
                cases hstate : s.state <;> simp_all [Session.isClosing]

lemma listed_completeHandshake (messageId : String) (hello : AgentHello) :
    (completeHandshake config s messageId hello).Listed config s
      (.completeHandshake messageId hello) := by
  simp only [completeHandshake]
  split
  · exact .raised
  · rename_i agentId hidentity
    split
    · exact listed_violates _
    · rename_i hagent
      split
      · exact listed_violates _
      · rename_i selected hselected
        have hsame : hello.agentId = agentId := by simpa using hagent
        refine @Performs.offersHello _ _ _ _ _ _ (s.newMessage config (some messageId)
          (.hello (helloPayload config selected))) _ _ ?_ hselected rfl offers_encoded
        rw [hidentity, hsame]

lemma listed_routeHeartbeat {message : AgentMessage} {correlationId : Option String}
    (hmessage : message.correlationId = correlationId) :
    (routeHeartbeat config s correlationId).Listed config s (.routeMessage message) := by
  simp only [routeHeartbeat]
  split
  · rename_i hnone
    refine .uncorrelated fun entry hentry hsame => ?_
    have hnot := List.find?_eq_none.mp hnone entry hentry
    simp [hsame, hmessage] at hnot
  · rename_i entry hsome
    have hid : some entry.1 = correlationId := by simpa using List.find?_some hsome
    exact .heartbeat (hmessage.trans hid.symm) (List.mem_of_find?_eq_some hsome)

/-- An event of a message whose agent is described by the session. -/
lemma listed_routed {message : AgentMessage} {printers : List PrinterDescriptor}
    {revision : Option UInt64} {event : HostEvent} (hrouted : event.isRouted = true) :
    Performs config s (.routeMessage message)
      { s with printers := printers, printerRevision := revision } (notify config event []) [] :=
  .routed hrouted notifies_notify

lemma listed_routeMessage (message : AgentMessage) :
    (routeMessage config s message).Listed config s (.routeMessage message) := by
  simp only [routeMessage]
  split
  · exact .nothing
  · exact listed_routeHeartbeat rfl
  · simp only [routeInventory]
    split
    · exact listed_violates _
    · split
      · split
        · exact .nothing
        · exact listed_violates _
      · exact listed_routed rfl
  · simp only [routeInventoryChanged]
    split
    · exact listed_violates _
    · exact listed_routed rfl
  · exact listed_routed rfl
  · exact listed_routed rfl
  · exact listed_routed rfl
  · split
    · exact .raised
    · split
      · exact listed_violates _
      · exact listed_routed rfl

lemma listed_sendHeartbeat : (sendHeartbeat config s).Listed config s .sendHeartbeat := by
  simp only [sendHeartbeat]
  split
  · rename_i hstate
    split
    · exact .offersHeartbeat hstate offers_write
    · exact .offersHeartbeat hstate .raised
  · exact .nothing

lemma listed_heartbeatExpired :
    (heartbeatExpired config s).Listed config s .heartbeatExpired := by
  simp only [heartbeatExpired]
  split
  · exact listed_closeWith ‹_› (.expired _ _ ‹_›) fun _ => rfl
  · exact .nothing

lemma listed_protocolViolation (violation : ProtocolErrorCode) :
    (protocolViolation config s violation).Listed config s (.protocolViolation violation) := by
  simp only [protocolViolation]
  split
  · exact .nothing
  · exact .nothing
  · exact .refers ‹_›
  · rename_i hstate
    exact .bidsFarewell hstate (.violated _ _ _) (.accusing violation) (by simp)
      concludes_encoded
  · exact .breaksOff (Or.inr ‹_›) (.violated _ _ _) (.accusing violation) (by simp)

lemma listed_send (application : ApplicationMessage) :
    (send config s application).Listed config s (.send application) := by
  simp only [send]
  split
  · exact .returnsSend
  · rename_i hversion
    split
    · exact .throwsSend
    · split
      · exact .returnsSend
      · split
        · exact .returnsSend
        · rename_i hstate
          have hconnected : s.state = .connected := by simpa using hstate
          refine .offersMessage hconnected (fun hextended => ?_) offers_write
          by_contra hother
          exact hversion ⟨hconnected, hextended, hother⟩

lemma listed_disconnect (options : DisconnectOptions) :
    (disconnect config s options).Listed config s (.disconnect options) := by
  simp only [disconnect]
  split
  · exact .returnsDisconnect
  · rename_i hopen
    split
    · exact listed_closeWith ‹_› .disconnected (by simp)
    · refine .breaksOff ?_ .disconnected .silently (by simp)
      cases hstate : s.state <;> simp_all [Session.isClosing]

lemma listed_finalize (reason : DisconnectReason) (detail : Option String) :
    (finalize config s reason detail).Listed config s (.finalize reason detail) := by
  simp only [finalize]
  split
  · exact .nothing
  · rename_i hopen
    split
    · exact .finalized hopen (Or.inl rfl)
    · exact .finalized hopen (Or.inr ⟨_, ‹_›, notifies_notify⟩)

lemma listed_written (purpose : Written) (result : WriteResult) :
    (perform config s (.written purpose result)).Listed config s (.written purpose result) := by
  cases result with
  | ok =>
      simp only [perform]
      cases purpose with
      | challenge => exact .armsAuthentication
      | accepted => exact .accepted
      | hello hello selected => exact .connected notifies_notify
      | application message => exact .delivered
      | heartbeat messageId => exact .nothing
      | last => exact .nothing
  | failed name =>
      simp only [perform]
      cases purpose with
      | heartbeat messageId => exact .failed fun entry hentry => (List.mem_filter.mp hentry).1
      | application message => exact .undelivered
      | last => exact .nothing
      | challenge => exact .failed fun entry hentry => hentry
      | accepted => exact .failed fun entry hentry => hentry
      | hello hello selected => exact .failed fun entry hentry => hentry

/-- **Every instruction does one of the listed things.** -/
theorem performs (s : Session Input) (code : Code Input) :
    (perform config s code).Listed config s code := by
  cases code with
  | beginAuthentication => exact listed_beginAuthentication
  | receiveMessage input => exact listed_receiveMessage input
  | credentialFound response answer => exact listed_credentialFound response answer
  | rejectAuthentication code => exact listed_rejectAuthentication code
  | completeHandshake messageId hello => exact listed_completeHandshake messageId hello
  | routeMessage message => exact listed_routeMessage message
  | sendHeartbeat => exact listed_sendHeartbeat
  | heartbeatExpired => exact listed_heartbeatExpired
  | protocolViolation violation => exact listed_protocolViolation violation
  | handleTransportClosed reason detail =>
      simp only [perform, handleTransportClosed]
      split
      · exact .nothing
      · exact .transportClosed ‹_›
  | transportFailed detail =>
      simp only [perform, transportFailed]
      split
      · exact .nothing
      · exact .transportFailed ‹_›
  | requestTransportClose request =>
      simp only [perform, requestTransportClose]
      split
      · exact .nothing
      · rename_i hopen
        exact .closesTransport (by simpa using hopen)
  | finalize reason detail => exact listed_finalize reason detail
  | invoke event => exact .invokes notifies_notify
  | written purpose result => exact listed_written purpose result
  | send application => exact listed_send application
  | returnSend result => exact .returnsSend
  | disconnect options => exact listed_disconnect options
  | returnDisconnect => exact .returnsDisconnect

end Methods

end Oppa.Server
