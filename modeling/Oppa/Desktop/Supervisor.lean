import Oppa.Foundation.Channel
import Oppa.Foundation.History

/-!
# The connection supervisor and the operations of the host

The desktop host runs its operations beside a supervisor that owns the connection.  Pairing,
forgetting a server and changing the server configuration hold the lock `provider_operation` and tell
the supervisor by a bounded channel; reconnect requests and printer operations send on that channel
without the lock.  The supervisor takes the lock at a dozen points of its loop, and receives from the
channel at three others.

* `Station`, `Phase` — where the supervisor stands; `Operation` — where an operation stands.
* `Host`, `Action`, `Host.step` — both, with the lock and the channel between them.
* `Host.Settles`, `Host.Attends` — what the supervisor does with and without the lock.
* **`supervises`** — every step of the supervisor, by what it does to the lock and the channel.
-/

namespace Oppa.Desktop

open Foundation History

/-! ## The supervisor -/

/-- `ConnectionControl`. -/
inductive ConnectionControl
  | reconnect
  | configurationChanged
  | publishInventory
  | shutdown
  deriving DecidableEq, Repr

/-- What the supervisor wants the lock for. -/
inductive Station
  /-- To read which connection to use. -/
  | planning
  /-- Before it opens a socket. -/
  | connecting
  | transportRefused
  | connectFailed
  /-- Once the socket is open. -/
  | connected
  | helloFailed
  | helloTimedOut
  | publishing
  | reporting
  /-- For a message of the server. -/
  | message
  | receiveFailed
  /-- At the end of a connection. -/
  | ended
  deriving DecidableEq, Repr

/-- Why an inventory is sent. -/
inductive Errand
  | hello
  | requested
  | published
  | invalidated
  deriving DecidableEq, Repr

/-- Where the supervisor stands. -/
inductive Phase
  /-- `wait_for_reconnect`. -/
  | waitingForReconnect
  /-- `wait_delay_or_control`, at the head of the loop or after a failed connect. -/
  | backingOff (afterConnect : Bool)
  /-- Awaits the lock. -/
  | waiting (station : Station)
  /-- Has the lock. -/
  | holding (station : Station)
  | discovering
  | opening
  | authenticating
  /-- Sends the hello. -/
  | greeting
  /-- The `select!` of a connection. -/
  | session
  /-- Refreshes the printers, with the lock. -/
  | refreshing
  /-- Is about to read the descriptors of an inventory, with the lock. -/
  | describing (errand : Errand)
  /-- Has read them, and is about to read the revision and to send. -/
  | sending (errand : Errand)
  /-- Sends the reports that waited for the hello, with the lock. -/
  | flushing
  | stopped
  deriving DecidableEq, Repr

/-- The supervisor and the variables of its loop. -/
structure Supervisor where
  phase : Phase
  automaticReconnect : Bool
  /-- Whether a delay is set for the next attempt. -/
  retryAfter : Bool
  handshaken : Bool
  /-- The generation its connection belongs to. -/
  generation : ℕ
  deriving DecidableEq, Repr

/-! ## The operations -/

/-- The operations that take the lock. -/
inductive Request
  | pairServer
  | forgetServer
  | applyServerConfiguration
  deriving DecidableEq, Repr

/-- What an operation tells the supervisor. -/
def Request.control : Request → ConnectionControl
  | .pairServer => .reconnect
  | .forgetServer | .applyServerConfiguration => .configurationChanged

/-- Where an operation stands. -/
inductive Operation
  /-- Awaits the lock. -/
  | waiting (request : Request)
  /-- Has the lock. -/
  | holding (request : Request)
  /-- Has the lock, and has called `send`. -/
  | told
  /-- `reconnect` or `shutdown`: has called `send`, without the lock. -/
  | asked
  deriving DecidableEq, Repr

/-- Who has `provider_operation`. -/
inductive Holder
  | supervisor
  | operation (n : ℕ)
  deriving DecidableEq, Repr

/-- The part of the host that the supervisor and the operations share. -/
structure Host where
  supervisor : Supervisor
  /-- The operations that are running. -/
  operations : ℕ → Option Operation
  providerOperation : Option Holder
  connectionControl : Channel ℕ ConnectionControl
  providerGeneration : ℕ
  /-- Whether a connection is stored. -/
  paired : Bool
  /-- The token that is cancelled at shutdown. -/
  shutdown : Bool

namespace Host

variable (host : Host)

/-! ## Steps of the supervisor -/

/-- Moves the supervisor. -/
def goto (phase : Phase) : Host :=
  { host with supervisor := { host.supervisor with phase := phase } }

/-- The supervisor returns, and drops its end of the channel. -/
def stop : Host :=
  { host.goto .stopped with connectionControl := host.connectionControl.close }

/-- The supervisor lets the lock go. -/
def unlock : Host := { host with providerOperation := none }

/-- From the check of `retry_after` on. -/
def schedule : Host :=
  if host.supervisor.retryAfter then
    { host with
      supervisor := { host.supervisor with phase := .backingOff false, retryAfter := false } }
  else host.goto (.waiting .planning)

/-- The head of the loop. -/
def resume : Host :=
  if host.shutdown then host.stop
  else if host.supervisor.automaticReconnect then host.schedule
  else host.goto .waitingForReconnect

/-- Sets `automatic_reconnect`. -/
def reconnecting (automatic : Bool) : Host :=
  { host with supervisor := { host.supervisor with automaticReconnect := automatic } }

/-- Sets `retry_after`; without a delay the supervisor stops trying. -/
def retry (delay : Bool) : Host :=
  { host with
    supervisor :=
      { host.supervisor with
        retryAfter := delay
        automaticReconnect := host.supervisor.automaticReconnect && delay } }

/-- The inner loop ends: the socket is closed, and the lock is wanted once more. -/
def endConnection : Host := host.goto (.waiting .ended)

/-- Whether the connection is still that of the configuration. -/
def current : Bool := host.providerGeneration = host.supervisor.generation

end Host

/-- How what the supervisor has tried comes out. -/
inductive Outcome
  | done
  /-- It failed, and may be tried again when there is a delay. -/
  | retry (delay : Bool)
  | giveUp
  deriving DecidableEq, Repr

/-- What the host does next, with the answers of everything around it. -/
inductive Action
  /-- An operation that takes the lock is called. -/
  | call (n : ℕ) (request : Request)
  | acquire (n : ℕ)
  /-- An operation returns before it tells the supervisor; it may have forgotten the connection. -/
  | abort (n : ℕ) (forgotten : Bool)
  /-- An operation has done its work and tells the supervisor. -/
  | tell (n : ℕ)
  /-- The `send` of an operation has returned, and the operation returns. -/
  | finish (n : ℕ)
  | reconnect (n : ℕ)
  | shutdown (n : ℕ)
  /-- A printer operation publishes. -/
  | publishInventory
  /-- The supervisor gets the lock it waits for. -/
  | lock
  | receive
  | observeShutdown
  /-- A delay is over. -/
  | elapse
  /-- What the supervisor has tried comes out. -/
  | answer (outcome : Outcome)
  /-- The server did not say hello in time. -/
  | timeOut
  /-- The agent hands over a report. -/
  | report
  | incoming (received : Bool)
  | helloAccepted
  | inventoryRequested
  | invalidated
  /-- The descriptors of an inventory are read. -/
  | describe
  deriving DecidableEq, Repr

namespace Host

variable (host : Host)

/-- The operation moves. -/
def move (n : ℕ) (operation : Option Operation) : Host :=
  { host with operations := Function.update host.operations n operation }

/-- A step of an operation. -/
def operate : Action → Option Host
  | .call n request =>
      match host.operations n with
      | none => some (host.move n (some (.waiting request)))
      | some _ => none
  | .acquire n =>
      match host.operations n, host.providerOperation with
      | some (.waiting request), none =>
          some { host.move n (some (.holding request)) with
            providerOperation := some (.operation n) }
      | _, _ => none
  | .abort n forgotten =>
      match host.operations n with
      | some (.holding request) =>
          some { (host.move n none).unlock with
            paired := host.paired && !(forgotten && request.control = .configurationChanged) }
      | _ => none
  | .tell n =>
      match host.operations n with
      | some (.holding .pairServer) =>
          if host.paired then none
          else some { host.move n (some .told) with
            paired := true
            connectionControl := host.connectionControl.send n .reconnect }
      | some (.holding request) =>
          some { host.move n (some .told) with
            paired := false
            providerGeneration := host.providerGeneration + 1
            connectionControl := host.connectionControl.send n request.control }
      | _ => none
  | .finish n =>
      if host.connectionControl.Blocks n then none
      else
        match host.operations n with
        | some .told => some (host.move n none).unlock
        | some .asked => some (host.move n none)
        | _ => none
  | .reconnect n =>
      match host.operations n with
      | none => some { host.move n (some .asked) with
          connectionControl := host.connectionControl.send n .reconnect }
      | some _ => none
  | .shutdown n =>
      match host.operations n with
      | none => some { host.move n (some .asked) with
          shutdown := true
          connectionControl := host.connectionControl.send n .shutdown }
      | some _ => none
  | .publishInventory =>
      some { host with connectionControl := host.connectionControl.trySend .publishInventory }
  | _ => none

/-- What the supervisor does with a control message. -/
def obey (control : ConnectionControl) : Option Host :=
  match host.supervisor.phase, control with
  | .waitingForReconnect, .reconnect => some (host.reconnecting true).schedule
  | .waitingForReconnect, .shutdown => some host.stop
  | .waitingForReconnect, _ => some host.resume
  | .backingOff afterConnect, .reconnect =>
      some (if afterConnect then host.resume else host.goto (.waiting .planning))
  | .backingOff _, .configurationChanged => some (host.reconnecting false).resume
  | .backingOff _, .publishInventory => some host
  | .backingOff _, .shutdown => some host.stop
  | .session, .reconnect => some host.endConnection
  | .session, .configurationChanged => some (host.reconnecting false).endConnection
  | .session, .publishInventory =>
      some (if host.supervisor.handshaken then host.goto (.waiting .publishing) else host)
  | .session, .shutdown => some host.stop
  | _, _ => none

/-- What the supervisor tries next when something has come out, while it does not have the lock. -/
def proceed (outcome : Outcome) : Option Host :=
  match host.supervisor.phase, outcome with
  | .discovering, .done => some (host.goto (.waiting .connecting))
  | .discovering, .retry delay => some (host.retry delay).resume
  | .discovering, .giveUp => some (host.reconnecting false).resume
  | .opening, .done => some (host.goto (.waiting .connected))
  | .opening, _ => some (host.goto (.waiting .connectFailed))
  | .authenticating, .done => some (host.goto .greeting)
  | .authenticating, .retry delay =>
      some { host with supervisor := { host.supervisor with retryAfter := delay } }.resume
  | .authenticating, .giveUp => some (host.reconnecting false).resume
  | .greeting, .done =>
      some { host with
        supervisor := { host.supervisor with phase := .session, handshaken := false } }
  | .greeting, _ => some (host.goto (.waiting .helloFailed))
  | _, _ => none

/-- The connection fails; the lock is let go. -/
def failConnection (delay : Bool) : Host := (host.retry delay).unlock.endConnection

/-- The connection ends because its configuration is gone. -/
def abandonConnection : Host := (host.reconnecting false).unlock.endConnection

/-- What the supervisor does with a message of the server that is no hello and asks for no
inventory. -/
def heed : Outcome → Option Host
  | .done => if host.supervisor.handshaken then some (host.unlock.goto .session) else none
  | .retry delay => some (host.failConnection delay)
  | .giveUp => if host.supervisor.handshaken then some host.abandonConnection else none

/-- What the supervisor does about a connection that was lost. -/
def mourn : Outcome → Option Host
  | .done =>
      -- the server may know the base protocol only: the next attempt follows at once
      if host.supervisor.handshaken then none
      else
        some { host with
          supervisor := { host.supervisor with retryAfter := true } }.unlock.endConnection
  | .retry delay =>
      some { host with
        supervisor := { host.supervisor with retryAfter := delay } }.unlock.endConnection
  | .giveUp => some host.abandonConnection

/-- What the supervisor does at a station, when the connection is still that of the
configuration. -/
def attendCurrent (outcome : Outcome) : Station → Option Host
  | .connecting =>
      if outcome = .done then some (host.unlock.goto .opening)
      else some (host.unlock.goto (.waiting .transportRefused))
  | .connectFailed =>
      if outcome = .retry true then some (host.unlock.goto (.backingOff true))
      else some (host.reconnecting false).unlock.resume
  | .connected => some (host.unlock.goto .authenticating)
  | .helloFailed => some (host.retry (outcome = .retry true)).unlock.resume
  | .helloTimedOut => some (host.failConnection (outcome = .retry true))
  | .publishing => some (host.goto (.describing .published))
  | .reporting =>
      if outcome = .done then some (host.unlock.goto .session)
      else some (host.failConnection (outcome = .retry true))
  | .message => host.heed outcome
  | .receiveFailed => host.mourn outcome
  | .planning | .transportRefused | .ended => none

/-- What the supervisor does at a station, when the configuration has changed. -/
def desert : Station → Host
  | .connecting | .connectFailed | .connected | .helloFailed =>
      (host.reconnecting false).unlock.resume
  | _ => host.abandonConnection

/-- What the supervisor does with the lock. -/
def attend (outcome : Outcome) : Option Host :=
  match host.supervisor.phase with
  | .holding .planning =>
      if host.paired then
        some { host with
          supervisor :=
            { host.supervisor with
              phase := .discovering, generation := host.providerGeneration } }.unlock
      else some (host.reconnecting false).unlock.resume
  | .holding .transportRefused => some (host.reconnecting false).unlock.resume
  | .holding .ended => some host.unlock.resume
  | .holding station =>
      if host.current then host.attendCurrent outcome station
      else some (host.desert station)
  | .refreshing => some (host.goto (.describing .invalidated))
  | .describing _ =>
      if outcome = .done then none else some (host.failConnection (outcome = .retry true))
  | .sending errand =>
      if outcome ≠ .done then some (host.failConnection (outcome = .retry true))
      else if errand = .hello then some (host.goto .flushing)
      else some (host.unlock.goto .session)
  | .flushing =>
      if outcome = .done then some (host.unlock.goto .session)
      else some (host.failConnection (outcome = .retry true))
  | _ => none

/-- A step of the supervisor. -/
def supervise : Action → Option Host
  | .lock =>
      match host.supervisor.phase, host.providerOperation with
      | .waiting station, none =>
          some { host.goto (.holding station) with providerOperation := some .supervisor }
      | _, _ => none
  | .receive =>
      match host.connectionControl.receive with
      | some (control, channel) => { host with connectionControl := channel }.obey control
      | none => none
  | .observeShutdown =>
      if host.shutdown then
        match host.supervisor.phase with
        | .waitingForReconnect | .backingOff _ | .session => some host.stop
        | _ => none
      else none
  | .elapse =>
      match host.supervisor.phase with
      | .backingOff true => some host.resume
      | .backingOff false => some (host.goto (.waiting .planning))
      | _ => none
  | .answer outcome => (host.proceed outcome).or (host.attend outcome)
  | .timeOut =>
      if host.supervisor.phase = .session ∧ host.supervisor.handshaken = false then
        some (host.goto (.waiting .helloTimedOut))
      else none
  | .report =>
      if host.supervisor.phase = .session then some (host.goto (.waiting .reporting)) else none
  | .incoming received =>
      if host.supervisor.phase = .session then
        some (host.goto (.waiting (if received then .message else .receiveFailed)))
      else none
  | .helloAccepted =>
      if host.supervisor.phase = .holding .message ∧ host.current ∧
          host.supervisor.handshaken = false then
        some { host with
          supervisor :=
            { host.supervisor with phase := .describing .hello, handshaken := true } }
      else none
  | .inventoryRequested =>
      if host.supervisor.phase = .holding .message ∧ host.current ∧ host.supervisor.handshaken then
        some (host.goto (.describing .requested))
      else none
  | .invalidated =>
      if host.supervisor.phase = .holding .message ∧ host.current ∧ host.supervisor.handshaken then
        some (host.goto .refreshing)
      else none
  | .describe =>
      match host.supervisor.phase with
      | .describing errand => some (host.goto (.sending errand))
      | _ => none
  | _ => none

/-- A step of the host. -/
def step (action : Action) : Option Host := (host.operate action).or (host.supervise action)

/-- The host as a system; nothing but its state is observed. -/
def system : System Host Action Empty where
  step host action := (host.step action).map fun next => (next, [])

/-- The host as it starts: the supervisor reads the stored connection first. -/
def initial (paired : Bool) : Host where
  supervisor :=
    { phase := .waiting .planning
      automaticReconnect := true
      retryAfter := false
      handshaken := false
      generation := 0 }
  operations _ := none
  providerOperation := none
  connectionControl := .empty 8
  providerGeneration := 0
  paired := paired
  shutdown := false

end Host

/-! ## What a step of the supervisor changes -/

/-- The supervisor has the lock. -/
def Phase.Holds : Phase → Prop
  | .holding _ | .refreshing | .describing _ | .sending _ | .flushing => True
  | _ => False

namespace Host

/-- The supervisor has got to a point without the lock, and has changed nothing that is shared,
except that it may have returned. -/
structure Settles (host next : Host) : Prop where
  operations : next.operations = host.operations
  providerOperation : next.providerOperation = host.providerOperation
  connectionControl : next.connectionControl = host.connectionControl ∨
    next.connectionControl = host.connectionControl.close
  free : ¬ next.supervisor.phase.Holds

/-- The variables of the loop are not shared. -/
lemma Settles.with_supervisor {host next : Host} {supervisor : Supervisor}
    (hsettles : Settles { host with supervisor := supervisor } next) : host.Settles next :=
  ⟨hsettles.operations, hsettles.providerOperation, hsettles.connectionControl, hsettles.free⟩

section Settling

variable (host : Host)

lemma settles_goto {phase : Phase} (hfree : ¬ phase.Holds) : host.Settles (host.goto phase) :=
  ⟨rfl, rfl, .inl rfl, hfree⟩

lemma settles_stop : host.Settles host.stop := ⟨rfl, rfl, .inr rfl, id⟩

lemma settles_schedule : host.Settles host.schedule := by
  simp only [schedule]
  split
  · exact ⟨rfl, rfl, .inl rfl, id⟩
  · exact host.settles_goto id

lemma settles_resume : host.Settles host.resume := by
  simp only [resume]
  split_ifs
  · exact host.settles_stop
  · exact host.settles_schedule
  · exact host.settles_goto id

end Settling

variable {host next : Host} {control : ConnectionControl} {outcome : Outcome}

/-- Obeying a control message. -/
lemma settles_obey (hobey : host.obey control = some next) (hfree : ¬ host.supervisor.phase.Holds) :
    host.Settles next := by
  simp only [obey] at hobey
  split at hobey
  · cases hobey
    exact (settles_schedule _).with_supervisor
  · cases hobey
    exact host.settles_stop
  · cases hobey
    exact host.settles_resume
  · cases hobey
    split
    · exact host.settles_resume
    · exact host.settles_goto id
  · cases hobey
    exact (settles_resume _).with_supervisor
  · cases hobey
    exact ⟨rfl, rfl, .inl rfl, hfree⟩
  · cases hobey
    exact host.settles_stop
  · cases hobey
    exact host.settles_goto id
  · cases hobey
    exact ⟨rfl, rfl, .inl rfl, id⟩
  · cases hobey
    split
    · exact host.settles_goto id
    · exact ⟨rfl, rfl, .inl rfl, hfree⟩
  · cases hobey
    exact host.settles_stop
  · cases hobey

/-- Trying the next thing without the lock. -/
lemma settles_proceed (hproceed : host.proceed outcome = some next) : host.Settles next := by
  simp only [proceed] at hproceed
  split at hproceed <;> cases hproceed
  · exact host.settles_goto id
  · exact (settles_resume _).with_supervisor
  · exact (settles_resume _).with_supervisor
  · exact host.settles_goto id
  · exact host.settles_goto id
  · exact host.settles_goto id
  · exact (settles_resume _).with_supervisor
  · exact (settles_resume _).with_supervisor
  · exact ⟨rfl, rfl, .inl rfl, id⟩
  · exact host.settles_goto id

/-- What the supervisor has done with the lock: it has let it go, or keeps it and has changed nothing
that is shared. -/
inductive Attends (host next : Host) : Prop
  | released (hsettles : host.unlock.Settles next)
  | kept (hoperations : next.operations = host.operations)
      (hlock : next.providerOperation = host.providerOperation)
      (hcontrol : next.connectionControl = host.connectionControl)
      (hholds : next.supervisor.phase.Holds)

lemma attends_failConnection (host : Host) (delay : Bool) :
    host.Attends (host.failConnection delay) :=
  .released ⟨rfl, rfl, .inl rfl, id⟩

lemma attends_abandonConnection (host : Host) : host.Attends host.abandonConnection :=
  .released ⟨rfl, rfl, .inl rfl, id⟩

lemma attends_resume (host : Host) (supervisor : Supervisor) :
    host.Attends { host with supervisor := supervisor }.unlock.resume :=
  .released (settles_resume _).with_supervisor

lemma attends_goto (host : Host) {phase : Phase} (hfree : ¬ phase.Holds) :
    host.Attends (host.unlock.goto phase) :=
  .released (host.unlock.settles_goto hfree)

lemma attends_keep (host : Host) {phase : Phase} (hholds : phase.Holds) :
    host.Attends (host.goto phase) :=
  .kept rfl rfl rfl hholds

lemma attends_desert (host : Host) (station : Station) : host.Attends (host.desert station) := by
  cases station <;>
    first | exact host.attends_resume _ | exact host.attends_abandonConnection

lemma attends_heed (hheed : host.heed outcome = some next) : host.Attends next := by
  cases outcome with
  | done =>
      simp only [heed, Option.ite_none_right_eq_some, Option.some.injEq] at hheed
      exact hheed.2 ▸ host.attends_goto id
  | retry delay =>
      cases hheed
      exact host.attends_failConnection delay
  | giveUp =>
      simp only [heed, Option.ite_none_right_eq_some, Option.some.injEq] at hheed
      exact hheed.2 ▸ host.attends_abandonConnection

lemma attends_mourn (hmourn : host.mourn outcome = some next) : host.Attends next := by
  cases outcome with
  | done =>
      simp only [mourn, Option.ite_none_left_eq_some, Option.some.injEq] at hmourn
      exact hmourn.2 ▸ .released ⟨rfl, rfl, .inl rfl, id⟩
  | retry delay =>
      cases hmourn
      exact .released ⟨rfl, rfl, .inl rfl, id⟩
  | giveUp =>
      cases hmourn
      exact host.attends_abandonConnection

/-- Working with the lock, for a configuration that stands. -/
lemma attends_attendCurrent {station : Station}
    (hattend : host.attendCurrent outcome station = some next) : host.Attends next := by
  cases station with
  | planning | transportRefused | ended => cases hattend
  | connecting =>
      simp only [attendCurrent] at hattend
      split at hattend <;> cases hattend <;> exact host.attends_goto id
  | connectFailed =>
      simp only [attendCurrent] at hattend
      split at hattend <;> cases hattend
      · exact host.attends_goto id
      · exact host.attends_resume _
  | connected =>
      cases hattend
      exact host.attends_goto id
  | helloFailed =>
      cases hattend
      exact host.attends_resume _
  | helloTimedOut =>
      cases hattend
      exact host.attends_failConnection _
  | publishing =>
      cases hattend
      exact host.attends_keep trivial
  | reporting =>
      simp only [attendCurrent] at hattend
      split at hattend <;> cases hattend
      · exact host.attends_goto id
      · exact host.attends_failConnection _
  | message => exact attends_heed hattend
  | receiveFailed => exact attends_mourn hattend

/-- Working with the lock. -/
lemma attends_attend (hattend : host.attend outcome = some next) : host.Attends next := by
  simp only [attend] at hattend
  split at hattend
  · split at hattend <;> cases hattend
    · exact .released ⟨rfl, rfl, .inl rfl, id⟩
    · exact host.attends_resume _
  · cases hattend
    exact host.attends_resume _
  · cases hattend
    exact host.attends_resume host.supervisor
  · split at hattend
    · exact attends_attendCurrent hattend
    · cases hattend
      exact host.attends_desert _
  · cases hattend
    exact host.attends_keep trivial
  · split at hattend <;> cases hattend
    exact host.attends_failConnection _
  · split_ifs at hattend <;> cases hattend
    · exact host.attends_failConnection _
    · exact host.attends_keep trivial
    · exact host.attends_goto id
  · split at hattend <;> cases hattend
    · exact host.attends_goto id
    · exact host.attends_failConnection _
  · cases hattend

/-- Only a supervisor without the lock obeys and proceeds, and only one with the lock attends. -/
lemma free_of_obey (hobey : host.obey control = some next) : ¬ host.supervisor.phase.Holds := by
  intro hholds
  simp only [obey] at hobey
  split at hobey <;> simp_all [Phase.Holds]

lemma free_of_proceed (hproceed : host.proceed outcome = some next) :
    ¬ host.supervisor.phase.Holds := by
  intro hholds
  simp only [proceed] at hproceed
  split at hproceed <;> simp_all [Phase.Holds]

lemma holds_of_attend (hattend : host.attend outcome = some next) :
    host.supervisor.phase.Holds := by
  simp only [attend] at hattend
  split at hattend <;> simp_all [Phase.Holds]

/-- What a step of the supervisor does. -/
inductive Supervises (host next : Host) : Prop
  | locked (station : Station) (hwaiting : host.supervisor.phase = .waiting station)
      (hfree : host.providerOperation = none)
      (hnext : next = { host.goto (.holding station) with providerOperation := some .supervisor })
  | received (control : ConnectionControl) (channel : Channel ℕ ConnectionControl)
      (hreceive : host.connectionControl.receive = some (control, channel))
      (hfree : ¬ host.supervisor.phase.Holds)
      (hobey : { host with connectionControl := channel }.obey control = some next)
  | settled (hfree : ¬ host.supervisor.phase.Holds) (hsettles : host.Settles next)
      (hleaves : host.supervisor.phase = .waitingForReconnect →
        next.connectionControl = host.connectionControl.close)
  | attended (hholds : host.supervisor.phase.Holds) (hattends : host.Attends next)

/-- **Every step of the supervisor is one of these.** -/
theorem supervises {action : Action} (hstep : host.supervise action = some next) :
    host.Supervises next := by
  cases action with
  | lock =>
      simp only [supervise] at hstep
      split at hstep
      · rename_i station hwaiting hfree
        cases hstep
        exact .locked station hwaiting hfree rfl
      · cases hstep
  | receive =>
      simp only [supervise] at hstep
      split at hstep
      · rename_i control channel hreceive
        have hfree := free_of_obey hstep
        exact .received control channel hreceive hfree hstep
      · cases hstep
  | observeShutdown =>
      simp only [supervise, Option.ite_none_right_eq_some] at hstep
      rcases hstep with ⟨_, hstep⟩
      split at hstep <;> cases hstep
      all_goals
        rename_i hphase
        exact .settled (by simp [hphase, Phase.Holds]) host.settles_stop fun _ => rfl
  | elapse =>
      simp only [supervise] at hstep
      split at hstep <;> cases hstep
      · rename_i hphase
        exact .settled (by simp [hphase, Phase.Holds]) host.settles_resume (by simp [hphase])
      · rename_i hphase
        exact .settled (by simp [hphase, Phase.Holds]) (host.settles_goto id) (by simp [hphase])
  | answer outcome =>
      simp only [supervise, Option.or_eq_some_iff] at hstep
      rcases hstep with hproceed | ⟨_, hattend⟩
      · refine .settled (free_of_proceed hproceed) (settles_proceed hproceed) fun hphase => ?_
        simp [proceed, hphase] at hproceed
      · exact .attended (holds_of_attend hattend) (attends_attend hattend)
  | timeOut =>
      simp only [supervise, Option.ite_none_right_eq_some, Option.some.injEq] at hstep
      rcases hstep with ⟨⟨hphase, _⟩, rfl⟩
      exact .settled (by simp [hphase, Phase.Holds]) (host.settles_goto id) (by simp [hphase])
  | report =>
      simp only [supervise, Option.ite_none_right_eq_some, Option.some.injEq] at hstep
      rcases hstep with ⟨hphase, rfl⟩
      exact .settled (by simp [hphase, Phase.Holds]) (host.settles_goto id) (by simp [hphase])
  | incoming received =>
      simp only [supervise, Option.ite_none_right_eq_some, Option.some.injEq] at hstep
      rcases hstep with ⟨hphase, rfl⟩
      exact .settled (by simp [hphase, Phase.Holds]) (host.settles_goto id) (by simp [hphase])
  | helloAccepted =>
      simp only [supervise, Option.ite_none_right_eq_some, Option.some.injEq] at hstep
      rcases hstep with ⟨⟨hphase, _⟩, rfl⟩
      exact .attended (by simp [hphase, Phase.Holds]) (.kept rfl rfl rfl trivial)
  | inventoryRequested | invalidated =>
      simp only [supervise, Option.ite_none_right_eq_some, Option.some.injEq] at hstep
      rcases hstep with ⟨⟨hphase, _⟩, rfl⟩
      exact .attended (by simp [hphase, Phase.Holds]) (host.attends_keep trivial)
  | describe =>
      simp only [supervise] at hstep
      split at hstep
      · rename_i hphase
        cases hstep
        exact .attended (by simp [hphase, Phase.Holds]) (host.attends_keep trivial)
      · cases hstep
  | _ => cases hstep

end Host

end Oppa.Desktop
