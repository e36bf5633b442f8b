import Oppa.Foundation.History
import Oppa.Foundation.Result
import Oppa.Server.Handlers

/-!
# Quiet sessions

A session in which the server sends its heartbeats, the agent answers them at once, and nobody has
anything else to say.  Time passes in milliseconds, and every frame takes less than a second.

* `Heartbeats` — the fields of a connected session that its heartbeats touch; `Shows` ties them to
  the session, and `shows_writtenOk`, `shows_sendHeartbeat` and `shows_routeHeartbeat` to its
  instructions.
* `QuietSession`, `quiet` — both parties, the frames under way, and the steps.
* `QuietSession.nextAnswer`, `QuietSession.nextFrame` — the latest times at which the server hears
  of the agent again, and the agent of the server; `Timely` is the invariant about them.
* **`stays_connected_iff`** — the options under which no deadline can pass in a quiet session.
* `patient_server_loses_agent` — accepted options under which one does.
-/

namespace Oppa.Server

open Protocol History

/-! ## The heartbeats of a session -/

/-- What a connected session keeps for its heartbeats. -/
structure Heartbeats where
  now : ℕ
  /-- How many random identifiers have been drawn. -/
  drawn : ℕ
  pending : List (String × ℕ)
  /-- When the next heartbeat is due. -/
  timer : ℕ
  deadline : ℕ
  deriving DecidableEq, Repr

namespace Heartbeats

variable (options : ResolvedOptions) (uuid : ℕ → String) (server : Heartbeats)

/-- `#startHeartbeats`. -/
def started (now drawn : ℕ) : Heartbeats where
  now := now
  drawn := drawn
  pending := []
  timer := now + options.heartbeatIntervalMs
  deadline := now + options.heartbeatTimeoutMs

/-- `#prunePendingHeartbeats`. -/
def pruned : Heartbeats :=
  { server with
    pending := server.pending.filter fun entry =>
      server.now ≤ entry.2 + options.heartbeatTimeoutMs }

/-- `#sendHeartbeat`. -/
def sent : Heartbeats :=
  { server.pruned options with
    drawn := server.drawn + 1
    pending := (server.pruned options).pending ++ [(uuid server.drawn, server.now)] }

/-- The interval timer fires. -/
def ticked : Heartbeats := { server with timer := server.timer + options.heartbeatIntervalMs }

/-- `agent.heartbeat` with the id of a heartbeat that is pending. -/
def answered (id : String) : Heartbeats :=
  { { server with pending := server.pending.filter fun entry => entry.1 ≠ id }.pruned options with
    deadline := server.now + options.heartbeatTimeoutMs }

end Heartbeats

/-- The heartbeats of a connected session. -/
structure Shows {Input : Type} (session : Session Input) (server : Heartbeats) : Prop where
  state : session.state = .connected
  now : session.now = server.now
  drawn : session.drawn = server.drawn
  pending : session.pendingHeartbeats = server.pending
  timer : session.heartbeatTimer = some server.timer
  deadline : session.heartbeatDeadline = some server.deadline

section Instructions

variable {Input : Type} {config : SessionConfig Input} {session : Session Input}
  {server : Heartbeats}

/-- A handshake that is complete starts the heartbeats. -/
lemma shows_writtenOk (hello : AgentHello) (selected : ProtocolVersion)
    (hpending : session.pendingHeartbeats = []) :
    Shows (writtenOk config session (.hello hello selected)).session
      (.started config.toResolvedOptions session.now session.drawn) :=
  ⟨rfl, rfl, rfl, hpending, rfl, rfl⟩

/-- A heartbeat is registered. -/
lemma shows_sendHeartbeat (hshows : Shows session server) :
    Shows (sendHeartbeat config session).session
      (server.sent config.toResolvedOptions config.uuid) := by
  obtain ⟨hstate, hnow, hdrawn, hpending, htimer, hdeadline⟩ := hshows
  have hsession : (sendHeartbeat config session).session =
      { (session.prunePendingHeartbeats config).draw with
        pendingHeartbeats := (session.prunePendingHeartbeats config).pendingHeartbeats ++
          [(config.uuid session.drawn, session.now)] } := by
    simp only [sendHeartbeat, if_pos hstate]
    split <;> rfl
  rw [hsession]
  refine ⟨hstate, hnow, congrArg (· + 1) hdrawn, ?_, htimer, hdeadline⟩
  simp only [Session.prunePendingHeartbeats, Heartbeats.sent, Heartbeats.pruned, hnow, hdrawn,
    hpending]

/-- What is written is the heartbeat, unless the encoder refuses it. -/
lemma frame_of_sendHeartbeat (hshows : Shows session server) {frame : Frame} {purpose : Written}
    {codes : List (Code Input)}
    (hwrite : (sendHeartbeat config session).next = .write frame purpose codes) :
    ∃ message, frame = .server message ∧ message.messageId = config.uuid server.drawn ∧
      message.kind = .heartbeat ⟨UInt32.ofNat config.heartbeatTimeoutMs⟩ := by
  simp only [sendHeartbeat, if_pos hshows.state] at hwrite
  split at hwrite
  · rw [Session.write] at hwrite
    split at hwrite
    · cases hwrite
      exact ⟨_, rfl, congrArg config.uuid hshows.drawn, rfl⟩
    · cases hwrite
  · cases hwrite

/-- An answer to a heartbeat that is pending postpones the deadline. -/
lemma shows_routeHeartbeat {id : String} (hshows : Shows session server)
    (hmem : id ∈ server.pending.map Prod.fst) :
    Shows (routeHeartbeat config session (some id)).session
      (server.answered config.toResolvedOptions id) := by
  obtain ⟨hstate, hnow, hdrawn, hpending, htimer, hdeadline⟩ := hshows
  rw [← hpending] at hmem
  cases hfind : session.pendingHeartbeats.find? fun entry => some entry.1 = some id with
  | none =>
      rcases List.mem_map.mp hmem with ⟨entry, hentry, rfl⟩
      exact absurd (List.find?_eq_none.mp hfind entry hentry) (by simp)
  | some entry =>
      have hid : entry.1 = id := by simpa using List.find?_some hfind
      simp only [routeHeartbeat, hfind, done]
      refine ⟨hstate, hnow, hdrawn, ?_, htimer, ?_⟩
      · simp only [Session.prunePendingHeartbeats, Heartbeats.answered, Heartbeats.pruned, hpending,
          hnow, hid]
      · simp only [hnow, Heartbeats.answered]

/-- An answer to a heartbeat that is not pending violates the protocol. -/
lemma routeHeartbeat_of_not_mem {id : String} (hshows : Shows session server)
    (hmem : id ∉ server.pending.map Prod.fst) :
    (routeHeartbeat config session (some id)).next =
      .continue [.protocolViolation .unexpectedMessage] := by
  have hfind : session.pendingHeartbeats.find? (fun entry => some entry.1 = some id) = none := by
    rw [List.find?_eq_none, hshows.pending]
    intro entry hentry heq
    simp only [Option.some.injEq, decide_eq_true_eq] at heq
    exact hmem (heq ▸ List.mem_map_of_mem hentry)
  simp only [routeHeartbeat, hfind, goto]

end Instructions

/-! ## Both parties -/

/-- `IDLE_TIMEOUT` of the agent, in milliseconds. -/
def idleTimeoutMs : ℕ := 90 * 1000

/-- What every frame takes less than, in milliseconds. -/
def frameTimeMs : ℕ := 1000

/-- What the server sends. -/
inductive Downward
  | hello
  | heartbeat (id : String)
  deriving DecidableEq, Repr

/-- How a session can end. -/
inductive Ending
  /-- The transport of the agent has waited too long for a frame. -/
  | idleTimeout
  /-- The server has waited too long for an answer. -/
  | heartbeatTimeout
  /-- A party gets a message that it does not expect. -/
  | unexpectedMessage
  deriving DecidableEq, Repr

/-- A session that is handshaken, and the frames under way with the times they were sent. -/
structure QuietSession where
  server : Heartbeats
  /-- Whether `onAgentConnected` still runs: what arrives waits until it has returned. -/
  hosting : Bool
  /-- The answers that have arrived and wait for their turn. -/
  inbox : List String
  down : List (Downward × ℕ)
  up : List (String × ℕ)
  /-- Since when the agent waits for a frame, once it has the hello. -/
  waiting : Option ℕ
  ended : Bool
  deriving DecidableEq, Repr

/-- What happens next. -/
inductive QuietAction
  /-- A millisecond passes. -/
  | pass
  /-- The interval timer fires. -/
  | beat
  /-- `onAgentConnected` returns, and the first heartbeat is sent. -/
  | hosted
  /-- A frame reaches the agent, which answers a heartbeat and waits again. -/
  | deliver
  /-- An answer reaches the server. -/
  | arrive
  /-- An answer has its turn. -/
  | process
  /-- The deadline of the server passes. -/
  | expire
  /-- The agent has waited too long. -/
  | idle
  deriving DecidableEq, Repr

namespace QuietSession

variable (options : ResolvedOptions) (uuid : ℕ → String) (session : QuietSession)

/-- The session when the server has written its hello. -/
def start : QuietSession where
  server := .started options 0 0
  hosting := true
  inbox := []
  down := [(.hello, 0)]
  up := []
  waiting := none
  ended := false

/-- Whether a frame may still be under way after a millisecond. -/
def onTime (sentAt : ℕ) : Bool := session.server.now + 1 < sentAt + frameTimeMs

/-- Whether nothing has to happen before the next millisecond. -/
def mayPass : Bool :=
  session.server.now < session.server.timer &&
    (if session.hosting then session.server.now < options.callbackTimeoutMs
      else session.inbox.isEmpty) &&
    session.down.all (fun frame => session.onTime frame.2) &&
    session.up.all fun frame => session.onTime frame.2

/-- The server sends a heartbeat. -/
def beaten : QuietSession :=
  { session with
    server := session.server.sent options uuid
    down := session.down ++ [(.heartbeat (uuid session.server.drawn), session.server.now)] }

/-- A step of a quiet session. -/
def step : QuietAction → Option (QuietSession × List Ending)
  | .pass =>
      if session.mayPass options then
        some ({ session with
          server := { session.server with now := session.server.now + 1 } }, [])
      else none
  | .beat =>
      if session.server.timer ≤ session.server.now then
        some (({ session with server := session.server.ticked options }).beaten options uuid, [])
      else none
  | .hosted =>
      if session.hosting then
        some (({ session with hosting := false }).beaten options uuid, [])
      else none
  | .deliver =>
      match session.down with
      | (.hello, _) :: down =>
          some ({ session with down := down, waiting := some session.server.now }, [])
      | (.heartbeat id, _) :: down =>
          if session.waiting.isSome then
            some ({ session with
              down := down
              up := session.up ++ [(id, session.server.now)]
              waiting := some session.server.now }, [])
          else some ({ session with ended := true }, [.unexpectedMessage])
      | [] => none
  | .arrive =>
      match session.up with
      | (id, _) :: up => some ({ session with up := up, inbox := session.inbox ++ [id] }, [])
      | [] => none
  | .process =>
      match session.hosting, session.inbox with
      | false, id :: inbox =>
          if id ∈ session.server.pending.map Prod.fst then
            some ({ session with inbox := inbox, server := session.server.answered options id }, [])
          else some ({ session with ended := true }, [.unexpectedMessage])
      | _, _ => none
  | .expire =>
      if session.server.deadline ≤ session.server.now then
        some ({ session with ended := true }, [.heartbeatTimeout])
      else none
  | .idle =>
      if session.waiting.any fun since => since + idleTimeoutMs ≤ session.server.now then
        some ({ session with ended := true }, [.idleTimeout])
      else none

end QuietSession

/-- Quiet sessions as a system.  What can be told of a run is how the session ends. -/
def quiet (options : ResolvedOptions) (uuid : ℕ → String) :
    System QuietSession QuietAction Ending where
  step session action := if session.ended then none else session.step options uuid action

/-! ## No deadline passes -/

/-- The most milliseconds a frame takes. -/
def maxFrameMs : ℕ := frameTimeMs - 1

/-- The server allows an interval and the way there and back, the agent an interval and the way
there. -/
def Tolerant (options : ResolvedOptions) : Prop :=
  options.heartbeatIntervalMs + 2 * maxFrameMs < options.heartbeatTimeoutMs ∧
    options.heartbeatIntervalMs + maxFrameMs < idleTimeoutMs

instance (options : ResolvedOptions) : Decidable (Tolerant options) := by
  unfold Tolerant
  infer_instance

namespace QuietSession

variable (session : QuietSession)

/-- When the heartbeats under way were sent. -/
def beats : List ℕ := session.down.filterMap fun frame =>
  match frame.1 with
  | .hello => none
  | .heartbeat _ => some frame.2

/-- When the next answer arrives at the latest. -/
def nextAnswer : ℕ :=
  match session.up, session.beats with
  | (_, sentAt) :: _, _ => sentAt + maxFrameMs
  | [], sentAt :: _ => sentAt + 2 * maxFrameMs
  | [], [] => session.server.timer + 2 * maxFrameMs

/-- When the next frame reaches the agent at the latest. -/
def nextFrame : ℕ :=
  match session.down with
  | (_, sentAt) :: _ => sentAt + maxFrameMs
  | [] => session.server.timer + maxFrameMs

end QuietSession

/-- A time at which a frame that is under way can have been sent. -/
def Fresh (now sentAt : ℕ) : Prop := sentAt ≤ now ∧ now < sentAt + frameTimeMs

/-- How the timers, the deadlines and the frames under way of a quiet session stand. -/
structure Timely (options : ResolvedOptions) (session : QuietSession) : Prop where
  timer : session.server.now ≤ session.server.timer ∧
    session.server.timer ≤ session.server.now + options.heartbeatIntervalMs
  hosting : session.hosting = true → session.server.now ≤ options.callbackTimeoutMs
  deadline : options.heartbeatTimeoutMs ≤ session.server.deadline
  down : ∀ frame ∈ session.down, Fresh session.server.now frame.2
  up : ∀ frame ∈ session.up, Fresh session.server.now frame.2
  /-- What has arrived has come in time. -/
  inbox : session.inbox ≠ [] → session.server.now < session.server.deadline
  /-- What has not arrived will come an interval and two frames after the last answer. -/
  answer : session.inbox = [] → session.nextAnswer + options.heartbeatTimeoutMs ≤
    session.server.deadline + options.heartbeatIntervalMs + 2 * maxFrameMs
  /-- The next frame comes an interval and its own time after the last. -/
  frame : ∀ since, session.waiting = some since →
    session.nextFrame ≤ since + options.heartbeatIntervalMs + maxFrameMs

section Timely

variable {options : ResolvedOptions} {uuid : ℕ → String} {session next : QuietSession}
  {endings : List Ending}

lemma mem_beats {sentAt : ℕ} (hbeat : sentAt ∈ session.beats) :
    ∃ frame ∈ session.down, frame.2 = sentAt := by
  rcases List.mem_filterMap.mp hbeat with ⟨frame, hframe, hsome⟩
  refine ⟨frame, hframe, ?_⟩
  split at hsome
  · cases hsome
  · exact Option.some.inj hsome

lemma Timely.now_le_nextAnswer (htimely : Timely options session) :
    session.server.now ≤ session.nextAnswer := by
  have hfresh : ∀ sentAt, Fresh session.server.now sentAt →
      session.server.now ≤ sentAt + maxFrameMs := by
    intro sentAt hfresh
    have := hfresh.2
    simp only [maxFrameMs, frameTimeMs] at this ⊢
    omega
  have htimer := htimely.timer.1
  unfold QuietSession.nextAnswer
  split
  next hup => exact hfresh _ (htimely.up _ (hup ▸ List.mem_cons_self))
  next sentAt _ hup hbeats =>
    obtain ⟨frame, hframe, heq⟩ := mem_beats (hbeats ▸ List.mem_cons_self)
    have := hfresh _ (heq ▸ htimely.down frame hframe)
    omega
  next => omega

lemma Timely.now_le_nextFrame (htimely : Timely options session) :
    session.server.now ≤ session.nextFrame := by
  have htimer := htimely.timer.1
  unfold QuietSession.nextFrame
  split
  next sentAt _ hdown =>
    have hfresh := (htimely.down _ (hdown ▸ List.mem_cons_self)).2
    simp only [maxFrameMs, frameTimeMs] at hfresh ⊢
    omega
  next => omega

/-- The deadline of the server is ahead. -/
lemma Timely.now_lt_deadline (htolerant : Tolerant options) (htimely : Timely options session) :
    session.server.now < session.server.deadline := by
  by_cases hinbox : session.inbox = []
  · have hanswer := htimely.answer hinbox
    have hnow := htimely.now_le_nextAnswer
    have hroom := htolerant.1
    omega
  · exact htimely.inbox hinbox

/-- The agent has not waited too long. -/
lemma Timely.now_lt_idle (htolerant : Tolerant options) (htimely : Timely options session)
    {since : ℕ} (hwaiting : session.waiting = some since) :
    session.server.now < since + idleTimeoutMs := by
  have hframe := htimely.frame since hwaiting
  have hnow := htimely.now_le_nextFrame
  have hroom := htolerant.2
  omega

lemma timely_start : Timely options (.start options) := by
  have hinterval := options.interval_pos
  refine ⟨⟨?_, ?_⟩, ?_, ?_, ?_, ?_, ?_, ?_, ?_⟩
  · exact Nat.zero_le _
  · exact le_refl _
  · exact fun _ => Nat.zero_le _
  · show _ ≤ 0 + options.heartbeatTimeoutMs
    omega
  · intro frame hframe
    rw [QuietSession.start, List.mem_singleton] at hframe
    subst hframe
    exact ⟨le_refl _, (by decide : 0 < 0 + frameTimeMs)⟩
  · intro frame hframe
    cases hframe
  · exact fun h => absurd rfl h
  · intro _
    show 0 + options.heartbeatIntervalMs + 2 * maxFrameMs + options.heartbeatTimeoutMs ≤
      0 + options.heartbeatTimeoutMs + options.heartbeatIntervalMs + 2 * maxFrameMs
    omega
  · intro since hsince
    cases hsince

/-! ### One step -/

/-- A heartbeat that is sent before the next one is due. -/
lemma nextAnswer_beaten {hosting : Bool} {timer : ℕ}
    (htimer : session.server.now ≤ session.server.timer) :
    (QuietSession.beaten options uuid { session with
      hosting := hosting
      server := { session.server with timer := timer } }).nextAnswer ≤ session.nextAnswer := by
  have hbeats : (QuietSession.beaten options uuid { session with
      hosting := hosting
      server := { session.server with timer := timer } }).beats =
      session.beats ++ [session.server.now] := by
    simp only [QuietSession.beats, QuietSession.beaten, List.filterMap_append]
    rfl
  rw [QuietSession.nextAnswer, QuietSession.nextAnswer, hbeats]
  show (match session.up, session.beats ++ [session.server.now] with
    | (_, sentAt) :: _, _ => sentAt + maxFrameMs
    | [], sentAt :: _ => sentAt + 2 * maxFrameMs
    | [], [] => _) ≤ _
  cases session.up with
  | cons frame up => exact le_refl _
  | nil =>
      cases session.beats with
      | cons beat beats => exact le_refl _
      | nil => exact Nat.add_le_add_right htimer _

lemma nextFrame_beaten {hosting : Bool} {timer : ℕ}
    (htimer : session.server.now ≤ session.server.timer) :
    (QuietSession.beaten options uuid { session with
      hosting := hosting
      server := { session.server with timer := timer } }).nextFrame ≤ session.nextFrame := by
  simp only [QuietSession.nextFrame, QuietSession.beaten]
  cases session.down with
  | cons frame down => exact le_refl _
  | nil => exact Nat.add_le_add_right htimer _

/-- A heartbeat is sent. -/
lemma Timely.beaten {hosting : Bool} {timer : ℕ} (htimely : Timely options session)
    (hhosting : hosting = true → session.hosting = true) (hlower : session.server.now ≤ timer)
    (hupper : timer ≤ session.server.now + options.heartbeatIntervalMs) :
    Timely options (QuietSession.beaten options uuid { session with
      hosting := hosting
      server := { session.server with timer := timer } }) where
  timer := ⟨hlower, hupper⟩
  hosting h := htimely.hosting (hhosting h)
  deadline := htimely.deadline
  down := by
    intro frame hframe
    rcases List.mem_append.mp hframe with hframe | hframe
    · exact htimely.down frame hframe
    · rw [List.mem_singleton.mp hframe]
      exact ⟨le_refl _, Nat.lt_add_of_pos_right (by decide)⟩
  up := htimely.up
  inbox := htimely.inbox
  answer hinbox := le_trans
    (Nat.add_le_add_right (nextAnswer_beaten htimely.timer.1) _) (htimely.answer hinbox)
  frame since hsince := le_trans (nextFrame_beaten htimely.timer.1) (htimely.frame since hsince)

/-- A millisecond passes. -/
lemma Timely.pass (htimely : Timely options session) (hpass : session.mayPass options = true) :
    Timely options { session with
      server := { session.server with now := session.server.now + 1 } } := by
  simp only [QuietSession.mayPass, QuietSession.onTime, Bool.and_eq_true, decide_eq_true_eq,
    List.all_eq_true] at hpass
  obtain ⟨⟨⟨htimer, hhost⟩, hdown⟩, hup⟩ := hpass
  have hcallback := options.callback_lt
  refine ⟨⟨htimer, ?_⟩, ?_, htimely.deadline, ?_, ?_, ?_, htimely.answer, htimely.frame⟩
  · have := htimely.timer.2
    show session.server.timer ≤ session.server.now + 1 + options.heartbeatIntervalMs
    omega
  · intro hhosting
    rw [if_pos hhosting, decide_eq_true_eq] at hhost
    exact hhost
  · exact fun frame hframe => ⟨Nat.le_succ_of_le (htimely.down frame hframe).1, hdown frame hframe⟩
  · exact fun frame hframe => ⟨Nat.le_succ_of_le (htimely.up frame hframe).1, hup frame hframe⟩
  · intro hinbox
    have hdeadline := htimely.deadline
    by_cases hhosting : session.hosting = true
    · rw [if_pos hhosting, decide_eq_true_eq] at hhost
      show session.server.now + 1 < session.server.deadline
      omega
    · rw [if_neg hhosting, List.isEmpty_iff] at hhost
      exact absurd hhost hinbox

/-- The agent begins to wait again. -/
lemma Timely.frame_of_delivered {frame : Downward × ℕ} {down : List (Downward × ℕ)}
    (htimely : Timely options session) (hdown : session.down = frame :: down) :
    { session with down := down }.nextFrame ≤
      session.server.now + options.heartbeatIntervalMs + maxFrameMs := by
  have htimer := htimely.timer.2
  cases down with
  | nil => exact Nat.add_le_add_right htimer _
  | cons second down =>
      have hfresh := (htimely.down second (by rw [hdown]; simp)).1
      show second.2 + maxFrameMs ≤ _
      omega

/-- The hello reaches the agent. -/
lemma Timely.greeted {sentAt : ℕ} {down : List (Downward × ℕ)}
    (htimely : Timely options session) (hdown : session.down = (.hello, sentAt) :: down) :
    Timely options { session with down := down, waiting := some session.server.now } where
  timer := htimely.timer
  hosting := htimely.hosting
  deadline := htimely.deadline
  down frame hframe := htimely.down frame (hdown ▸ List.mem_cons_of_mem _ hframe)
  up := htimely.up
  inbox := htimely.inbox
  answer hinbox := by
    have hbeats : session.beats = { session with down := down }.beats := by
      rw [QuietSession.beats, hdown]
      rfl
    have hanswer := htimely.answer hinbox
    simp only [QuietSession.nextAnswer, hbeats] at hanswer ⊢
    exact hanswer
  frame since hsince := by
    cases hsince
    exact htimely.frame_of_delivered hdown

/-- A heartbeat reaches the agent, which answers it. -/
lemma Timely.delivered {id : String} {sentAt : ℕ} {down : List (Downward × ℕ)}
    (htimely : Timely options session) (hdown : session.down = (.heartbeat id, sentAt) :: down) :
    Timely options { session with
      down := down
      up := session.up ++ [(id, session.server.now)]
      waiting := some session.server.now } where
  timer := htimely.timer
  hosting := htimely.hosting
  deadline := htimely.deadline
  down frame hframe := htimely.down frame (hdown ▸ List.mem_cons_of_mem _ hframe)
  up := by
    intro frame hframe
    rcases List.mem_append.mp hframe with hframe | hframe
    · exact htimely.up frame hframe
    · rw [List.mem_singleton.mp hframe]
      exact ⟨le_refl _, Nat.lt_add_of_pos_right (by decide)⟩
  inbox := htimely.inbox
  answer hinbox := by
    have hanswer := htimely.answer hinbox
    have hfresh := (htimely.down _ (hdown ▸ List.mem_cons_self)).2
    have hbeats : session.beats = sentAt :: { session with down := down }.beats := by
      rw [QuietSession.beats, hdown]
      rfl
    simp only [QuietSession.nextAnswer, hbeats] at hanswer ⊢
    cases hup : session.up with
    | cons frame up =>
        rw [hup] at hanswer
        exact hanswer
    | nil =>
        simp only [hup] at hanswer
        simp only [List.nil_append]
        simp only [maxFrameMs, frameTimeMs] at hanswer hfresh ⊢
        omega
  frame since hsince := by
    cases hsince
    exact htimely.frame_of_delivered hdown

/-- An answer reaches the server. -/
lemma Timely.arrived {id : String} {sentAt : ℕ} {up : List (String × ℕ)}
    (htolerant : Tolerant options) (htimely : Timely options session)
    (hup : session.up = (id, sentAt) :: up) :
    Timely options { session with up := up, inbox := session.inbox ++ [id] } where
  timer := htimely.timer
  hosting := htimely.hosting
  deadline := htimely.deadline
  down := htimely.down
  up frame hframe := htimely.up frame (hup ▸ List.mem_cons_of_mem _ hframe)
  inbox _ := by
    have hahead := htimely.now_lt_deadline htolerant
    exact hahead
  answer hinbox := by
    rw [List.append_eq_nil_iff] at hinbox
    cases hinbox.2
  frame := htimely.frame

/-- An answer is taken, and the deadline is armed again. -/
lemma Timely.answered {id : String} {inbox : List String} (htimely : Timely options session) :
    Timely options { session with
      inbox := inbox
      server := session.server.answered options id } where
  timer := htimely.timer
  hosting := htimely.hosting
  deadline := Nat.le_add_left _ _
  down := htimely.down
  up := htimely.up
  inbox _ := Nat.lt_add_of_pos_right (lt_trans options.interval_pos options.interval_lt)
  answer _ := by
    have htimer := htimely.timer.2
    have hnext : session.nextAnswer ≤
        session.server.now + options.heartbeatIntervalMs + 2 * maxFrameMs := by
      unfold QuietSession.nextAnswer
      split
      next hup =>
        have hfresh := (htimely.up _ (hup ▸ List.mem_cons_self)).1
        simp only at hfresh
        omega
      next hbeats =>
        obtain ⟨frame, hframe, heq⟩ := mem_beats (hbeats ▸ List.mem_cons_self)
        have hfresh := (htimely.down frame hframe).1
        omega
      next => omega
    show session.nextAnswer + options.heartbeatTimeoutMs ≤
      session.server.now + options.heartbeatTimeoutMs + options.heartbeatIntervalMs +
        2 * maxFrameMs
    omega
  frame := htimely.frame

/-- **One step of a session that is in time**, under options that are tolerant. -/
theorem Timely.step (htolerant : Tolerant options) (htimely : Timely options session)
    {action : QuietAction} (hstep : session.step options uuid action = some (next, endings)) :
    (Timely options next ∧ endings = []) ∨
      (next.ended = true ∧ endings = [.unexpectedMessage]) := by
  cases action with
  | pass =>
      simp only [QuietSession.step, Option.ite_none_right_eq_some, Option.some.injEq,
        Prod.mk.injEq] at hstep
      rcases hstep with ⟨hpass, rfl, rfl⟩
      exact .inl ⟨htimely.pass hpass, rfl⟩
  | beat =>
      simp only [QuietSession.step, Option.ite_none_right_eq_some, Option.some.injEq,
        Prod.mk.injEq] at hstep
      rcases hstep with ⟨hdue, rfl, rfl⟩
      have htimer := htimely.timer
      exact .inl ⟨@Timely.beaten _ uuid _ session.hosting
        (session.server.timer + options.heartbeatIntervalMs) htimely id (by omega) (by omega), rfl⟩
  | hosted =>
      simp only [QuietSession.step, Option.ite_none_right_eq_some, Option.some.injEq,
        Prod.mk.injEq] at hstep
      rcases hstep with ⟨-, rfl, rfl⟩
      exact .inl ⟨@Timely.beaten _ uuid _ false session.server.timer htimely (nomatch ·)
        htimely.timer.1 htimely.timer.2, rfl⟩
  | deliver =>
      simp only [QuietSession.step] at hstep
      split at hstep
      next hdown =>
        cases hstep
        exact .inl ⟨htimely.greeted hdown, rfl⟩
      next hdown =>
        split_ifs at hstep
        · cases hstep
          exact .inl ⟨htimely.delivered hdown, rfl⟩
        · cases hstep
          exact .inr ⟨rfl, rfl⟩
      next => cases hstep
  | arrive =>
      simp only [QuietSession.step] at hstep
      split at hstep
      next hup =>
        cases hstep
        exact .inl ⟨htimely.arrived htolerant hup, rfl⟩
      next => cases hstep
  | process =>
      simp only [QuietSession.step] at hstep
      split at hstep
      next =>
        split_ifs at hstep
        · cases hstep
          exact .inl ⟨htimely.answered, rfl⟩
        · cases hstep
          exact .inr ⟨rfl, rfl⟩
      next => cases hstep
  | expire =>
      simp only [QuietSession.step, Option.ite_none_right_eq_some] at hstep
      exact absurd hstep.1 (not_le.mpr (htimely.now_lt_deadline htolerant))
  | idle =>
      simp only [QuietSession.step, Option.ite_none_right_eq_some, Option.any_eq_true,
        decide_eq_true_eq] at hstep
      rcases hstep with ⟨⟨since, hwaiting, hlong⟩, -⟩
      exact absurd hlong (not_le.mpr (htimely.now_lt_idle htolerant hwaiting))

/-- **No deadline passes in a quiet session** under options that are tolerant. -/
theorem no_timeout (htolerant : Tolerant options) {history : List Ending}
    (hrun : (quiet options uuid).Runs anyStep (.start options) history session) :
    (session.ended = false → Timely options session) ∧
      ∀ ending ∈ history, ending = .unexpectedMessage := by
  refine hrun.invariant (I := fun history session =>
    (session.ended = false → Timely options session) ∧
      ∀ ending ∈ history, ending = .unexpectedMessage) ⟨fun _ => timely_start, nofun⟩ ?_
  intro history session action next endings _ hprevious _ hstep
  simp only [quiet, Option.ite_none_left_eq_some, Bool.not_eq_true] at hstep
  rcases (hprevious.1 hstep.1).step htolerant hstep.2 with ⟨htimely, rfl⟩ | ⟨hended, rfl⟩
  · rw [List.append_nil]
    exact ⟨fun _ => htimely, hprevious.2⟩
  · refine ⟨fun h => absurd (hended.symm.trans h) (by decide), ?_⟩
    intro ending hending
    rcases List.mem_append.mp hending with hending | hending
    · exact hprevious.2 ending hending
    · exact List.mem_singleton.mp hending

end Timely

/-! ## Deadlines that pass -/

section Passing

variable {options : ResolvedOptions} {uuid : ℕ → String} {session : QuietSession}
  {history : List Ending}

/-- So many milliseconds pass. -/
def QuietSession.after (session : QuietSession) (ms : ℕ) : QuietSession :=
  { session with server := { session.server with now := session.server.now + ms } }

/-- Time passes as long as no heartbeat is due and every frame is on time. -/
lemma runs_after (hrun : (quiet options uuid).Runs anyStep (.start options) history session)
    (hended : session.ended = false) (hhosting : session.hosting = false)
    (hinbox : session.inbox = []) :
    ∀ ms, session.server.now + ms ≤ session.server.timer →
      (∀ frame ∈ session.down, session.server.now + ms < frame.2 + frameTimeMs) →
        (∀ frame ∈ session.up, session.server.now + ms < frame.2 + frameTimeMs) →
          (quiet options uuid).Runs anyStep (.start options) history (session.after ms) := by
  intro ms
  induction ms with
  | zero => exact fun _ _ _ => hrun
  | succ ms ih =>
      intro htimer hdown hup
      have hprevious := ih (by omega)
        (fun frame hframe => lt_of_le_of_lt (by omega) (hdown frame hframe))
        (fun frame hframe => lt_of_le_of_lt (by omega) (hup frame hframe))
      have hpass : (session.after ms).mayPass options = true := by
        simp only [QuietSession.mayPass, QuietSession.onTime, QuietSession.after, hhosting, hinbox,
          Bool.and_eq_true, decide_eq_true_eq, List.all_eq_true]
        exact ⟨⟨⟨by omega, rfl⟩, hdown⟩, hup⟩
      have hstep : (quiet options uuid).step (session.after ms) .pass =
          some (session.after (ms + 1), []) := by
        simp only [quiet, QuietSession.step, QuietSession.after] at hpass ⊢
        rw [if_neg (by rw [hended]; decide), if_pos hpass]
        rfl
      simpa using hprevious.step trivial hstep

/-- The session when the first heartbeat has been answered at once. -/
def settled (options : ResolvedOptions) : QuietSession where
  server :=
    { now := 0
      drawn := 1
      pending := []
      timer := options.heartbeatIntervalMs
      deadline := options.heartbeatTimeoutMs }
  hosting := false
  inbox := []
  down := []
  up := []
  waiting := some 0
  ended := false

lemma runs_settled :
    (quiet options uuid).Runs anyStep (.start options) [] (settled options) := by
  have hdelivered : (quiet options uuid).Runs anyStep (.start options) []
      { settled options with
        server := { (settled options).server with pending := [(uuid 0, 0)] }
        inbox := [uuid 0] } := by
    have hexec : (quiet options uuid).exec (fun _ _ _ => true) [] (.start options)
        [.deliver, .hosted, .deliver, .arrive] = some ([], { settled options with
          server := { (settled options).server with pending := [(uuid 0, 0)] }
          inbox := [uuid 0] }) := by
      simp [System.exec, quiet, QuietSession.step, QuietSession.start, QuietSession.beaten,
        Heartbeats.started, Heartbeats.sent, Heartbeats.pruned, settled]
    exact System.Runs.exec (fun _ _ _ _ => trivial) .start hexec
  have hstep : (quiet options uuid).step { settled options with
      server := { (settled options).server with pending := [(uuid 0, 0)] }
      inbox := [uuid 0] } .process = some (settled options, []) := by
    simp [quiet, QuietSession.step, settled, Heartbeats.answered, Heartbeats.pruned]
  exact hdelivered.step trivial hstep

/-- The session when the second heartbeat has been sent. -/
def second (options : ResolvedOptions) (uuid : ℕ → String) : QuietSession :=
  { settled options with
    server :=
      { now := options.heartbeatIntervalMs
        drawn := 2
        pending := [(uuid 1, options.heartbeatIntervalMs)]
        timer := options.heartbeatIntervalMs + options.heartbeatIntervalMs
        deadline := options.heartbeatTimeoutMs }
    down := [(.heartbeat (uuid 1), options.heartbeatIntervalMs)] }

lemma runs_second :
    (quiet options uuid).Runs anyStep (.start options) [] (second options uuid) := by
  have hrun := runs_after (@runs_settled options uuid) rfl rfl rfl options.heartbeatIntervalMs
    (by simp [settled]) (fun _ h => by cases h) (fun _ h => by cases h)
  have hstep : (quiet options uuid).step ((settled options).after options.heartbeatIntervalMs)
      .beat = some (second options uuid, []) := by
    simp [quiet, QuietSession.step, QuietSession.after, QuietSession.beaten, settled, second,
      Heartbeats.ticked, Heartbeats.sent, Heartbeats.pruned]
  exact hrun.step trivial hstep

/-- **The deadline of the server can pass** before an answer that is under way has arrived. -/
lemma heartbeatTimeout_of_tight (hinterval : 2 * frameTimeMs ≤ options.heartbeatIntervalMs)
    (htight : options.heartbeatTimeoutMs ≤ options.heartbeatIntervalMs + 2 * maxFrameMs) :
    ∃ session, (quiet options uuid).Runs anyStep (.start options) [.heartbeatTimeout] session := by
  obtain ⟨session, hrun, hdeadline⟩ : ∃ session,
      (quiet options uuid).Runs anyStep (.start options) [] session ∧ session.ended = false ∧
        session.server.deadline ≤ session.server.now := by
    have hlt := options.interval_lt
    simp only [maxFrameMs, frameTimeMs] at hinterval htight
    -- the answer is still at the agent, or on its way back
    by_cases hfirst : options.heartbeatTimeoutMs < options.heartbeatIntervalMs + 1000
    · refine ⟨_, runs_after (@runs_second options uuid) rfl rfl rfl
        (options.heartbeatTimeoutMs - options.heartbeatIntervalMs) ?_ ?_ ?_, rfl, ?_⟩
      · simp only [second]
        omega
      · intro frame hframe
        rw [second, List.mem_singleton] at hframe
        subst hframe
        simp only [second, frameTimeMs]
        omega
      · exact fun _ h => by cases h
      · simp only [QuietSession.after, second]
        omega
    · have hlate := runs_after (@runs_second options uuid) rfl rfl rfl maxFrameMs
        (by simp only [second, maxFrameMs, frameTimeMs]; omega)
        (by simp [second, maxFrameMs, frameTimeMs]) (fun _ h => by cases h)
      have hdelivered := hlate.step (a := .deliver) trivial rfl
      refine ⟨_, runs_after hdelivered rfl rfl rfl (options.heartbeatTimeoutMs -
        (options.heartbeatIntervalMs + maxFrameMs)) ?_ ?_ ?_, rfl, ?_⟩
      · simp only [second, QuietSession.after, maxFrameMs, frameTimeMs]
        omega
      · exact fun _ h => by cases h
      · intro frame hframe
        simp only [second, settled, QuietSession.after, List.nil_append,
          List.mem_singleton] at hframe
        subst hframe
        simp only [second, QuietSession.after, maxFrameMs, frameTimeMs] at hfirst ⊢
        omega
      · simp only [QuietSession.after, second, maxFrameMs, frameTimeMs] at hfirst ⊢
        omega
  refine ⟨{ session with ended := true }, hrun.step (a := .expire) trivial ?_⟩
  simp only [quiet, QuietSession.step]
  rw [if_neg (by rw [hdeadline.1]; decide), if_pos hdeadline.2]

/-- **The agent can have waited too long** before a heartbeat arrives. -/
lemma idleTimeout_of_slow (hslow : idleTimeoutMs ≤ options.heartbeatIntervalMs + maxFrameMs) :
    ∃ session, (quiet options uuid).Runs anyStep (.start options) [.idleTimeout] session := by
  obtain ⟨session, hrun, hended, hwaiting, hnow⟩ : ∃ session,
      (quiet options uuid).Runs anyStep (.start options) [] session ∧ session.ended = false ∧
        session.waiting = some 0 ∧ idleTimeoutMs ≤ session.server.now := by
    by_cases hsecond : idleTimeoutMs ≤ options.heartbeatIntervalMs
    · refine ⟨_, runs_after (@runs_settled options uuid) rfl rfl rfl idleTimeoutMs ?_ ?_ ?_, rfl,
        rfl, ?_⟩
      · simp only [settled]
        omega
      · exact fun _ h => by cases h
      · exact fun _ h => by cases h
      · simp [QuietSession.after, settled]
    · refine ⟨_, runs_after (@runs_second options uuid) rfl rfl rfl
        (idleTimeoutMs - options.heartbeatIntervalMs) ?_ ?_ ?_, rfl, rfl, ?_⟩
      · simp only [second, idleTimeoutMs, maxFrameMs, frameTimeMs] at hslow ⊢
        omega
      · intro frame hframe
        rw [second, List.mem_singleton] at hframe
        subst hframe
        simp only [second, idleTimeoutMs, maxFrameMs, frameTimeMs] at hslow ⊢
        omega
      · exact fun _ h => by cases h
      · simp only [QuietSession.after, second]
        omega
  refine ⟨{ session with ended := true }, hrun.step (a := .idle) trivial ?_⟩
  simp only [quiet, QuietSession.step]
  rw [if_neg (by rw [hended]; decide), if_pos]
  rw [hwaiting]
  simpa using hnow

end Passing

/-! ## The options -/

/-- What `validateOptions` accepts of the heartbeats. -/
lemma bounds_of_validateOptions {options : OpenPrinterServerOptions} {resolved : ResolvedOptions}
    (hvalid : validateOptions options = .ok resolved) :
    5000 ≤ resolved.heartbeatIntervalMs ∧ resolved.heartbeatTimeoutMs ≤ 120000 := by
  simp only [validateOptions, Result.bind_eq_ok, Except.ok.injEq] at hvalid
  obtain ⟨_, _, _, _, _, _, _, _, _, _, interval, _, timeout, _, _, _, _, _, _, _, _, _, _, _, _, _,
    _, _, _, _, _, _, rfl⟩ := hvalid
  exact ⟨interval.property.1, timeout.property.2⟩

/-- **Quiet sessions stay connected exactly under tolerant options**, whatever identifiers are
drawn: each heartbeat with its answer has to fit between the interval and the timeout of the server,
and the heartbeat itself between the interval and the timeout of the agent. -/
theorem stays_connected_iff {options : OpenPrinterServerOptions} {resolved : ResolvedOptions}
    (hvalid : validateOptions options = .ok resolved) (uuid : ℕ → String) :
    (∀ history session, (quiet resolved uuid).Runs anyStep (.start resolved) history session →
      .idleTimeout ∉ history ∧ .heartbeatTimeout ∉ history) ↔ Tolerant resolved := by
  constructor
  · intro hstays
    by_contra hintolerant
    rw [Tolerant, not_and_or, not_lt, not_lt] at hintolerant
    rcases hintolerant with htight | hslow
    · have hinterval := (bounds_of_validateOptions hvalid).1
      obtain ⟨session, hrun⟩ := @heartbeatTimeout_of_tight resolved uuid
        (by simp only [frameTimeMs]; omega) htight
      exact (hstays _ _ hrun).2 (List.mem_singleton_self _)
    · obtain ⟨session, hrun⟩ := @idleTimeout_of_slow resolved uuid hslow
      exact (hstays _ _ hrun).1 (List.mem_singleton_self _)
  · intro htolerant history session hrun
    have hending := (no_timeout htolerant hrun).2
    exact ⟨fun h => absurd (hending _ h) (by decide), fun h => absurd (hending _ h) (by decide)⟩

/-- Options that leave everything but the heartbeats to its default. -/
def heartbeatOptions (interval timeout : ℤ) : OpenPrinterServerOptions where
  brand := "Brand"
  callbackTimeoutMs := none
  authenticationTimeoutMs := none
  challengeTtlMs := none
  handshakeTimeoutMs := none
  heartbeatIntervalMs := some interval
  heartbeatTimeoutMs := some timeout
  maxMessageBytes := none
  transportTimeoutMs := none
  protocolVersions := none
  serverId := none
  serverVersion := none

/-- The options that `validateOptions` makes of an interval and a timeout. -/
lemma validateOptions_heartbeatOptions {interval timeout : ℕ}
    (haccepted : ((validateOptions (heartbeatOptions interval timeout)).toOption.map fun options =>
      (options.heartbeatIntervalMs, options.heartbeatTimeoutMs)) = some (interval, timeout)) :
    ∃ resolved, validateOptions (heartbeatOptions interval timeout) = .ok resolved ∧
      resolved.heartbeatIntervalMs = interval ∧ resolved.heartbeatTimeoutMs = timeout := by
  cases hvalid : validateOptions (heartbeatOptions interval timeout) with
  | error e =>
      rw [hvalid] at haccepted
      cases haccepted
  | ok resolved =>
      rw [hvalid] at haccepted
      simp only [Except.toOption, Option.map_some, Option.some.injEq, Prod.mk.injEq] at haccepted
      exact ⟨resolved, rfl, haccepted⟩

theorem stays_connected_default :
    ∃ resolved, validateOptions (heartbeatOptions 15000 45000) = .ok resolved ∧
      ∀ history session, (quiet resolved toString).Runs anyStep (.start resolved) history session →
        .idleTimeout ∉ history ∧ .heartbeatTimeout ∉ history := by
  obtain ⟨resolved, hvalid, hinterval, htimeout⟩ :=
    @validateOptions_heartbeatOptions 15000 45000 (by decide)
  refine ⟨resolved, hvalid, (stays_connected_iff hvalid toString).mpr ?_⟩
  rw [Tolerant, hinterval, htimeout]
  decide

/-- **A server with a long interval loses its agent**, and one whose timeout is barely over its
interval gives its agent up: both are accepted, and nothing is late. -/
theorem patient_server_loses_agent :
    (∃ resolved, validateOptions (heartbeatOptions 100000 120000) = .ok resolved ∧
      ∃ session, (quiet resolved toString).Runs anyStep (.start resolved) [.idleTimeout] session) ∧
    ∃ resolved, validateOptions (heartbeatOptions 15000 15001) = .ok resolved ∧
      ∃ session,
        (quiet resolved toString).Runs anyStep (.start resolved) [.heartbeatTimeout] session := by
  constructor
  · obtain ⟨resolved, hvalid, hinterval, -⟩ :=
      @validateOptions_heartbeatOptions 100000 120000 (by decide)
    refine ⟨resolved, hvalid, idleTimeout_of_slow ?_⟩
    rw [hinterval]
    decide
  · obtain ⟨resolved, hvalid, hinterval, htimeout⟩ :=
      @validateOptions_heartbeatOptions 15000 15001 (by decide)
    refine ⟨resolved, hvalid, heartbeatTimeout_of_tight ?_ ?_⟩
    · rw [hinterval]
      decide
    · rw [hinterval, htimeout]
      decide

end Oppa.Server
