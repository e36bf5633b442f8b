import Oppa.Server.Step
import Mathlib.Algebra.Order.Group.Multiset
import Mathlib.Data.List.Perm.Basic
import Mathlib.Tactic.Abel

/-!
# What one step of a session does

`SessionStep` lists the steps of the machine: an instruction of the task that runs, its end, or a
step of the event loop.  **`step_cases`** is the only place that unfolds the machine.

* `Session.Pending` — what is still to be done, by any task or operation.
* `Arises` — where an instruction that is to be done after a step comes from:
  **`SessionStep.pending`**.
* `Session.handed` — the writes that were handed to the transport.  **`SessionStep.outbound`** and
  **`SessionStep.handed`** say where writes come from.
* `SameFields`, `Effect.isOwn` — what a step of the event loop leaves alone, and what only
  instructions show.
-/

namespace Oppa.Server

open Protocol

variable {Input : Type} {config : SessionConfig Input}

/-! ## Steps -/

/-- **What the event loop can do while no task runs.** -/
inductive Reacts (config : SessionConfig Input) (s : Session Input) : Action Input →
    Session Input → List (Effect Input) → Prop
  | received {input} :
      Reacts config s (.receive input)
        { s with processing := s.processing ++ [.receiveMessage input] } [.received input s.now]
  | transportClosed {reason detail} :
      Reacts config s (.transportClosed reason detail)
        { s with processing := s.processing ++ [.handleTransportClosed reason detail] } []
  | sends {message} : Reacts config s (.send message) (s.resume .call [.send message]) []
  | disconnects {options} :
      Reacts config s (.disconnect options) (s.resume .call [.disconnect options]) []
  | elapsed {ms} : Reacts config s (.elapse ms) { s with now := s.now + ms } []
  | authenticationDue {due} :
      s.authenticationTimer = some due → due ≤ s.now →
      Reacts config s .authenticationTimer
        { s with
          authenticationTimer := none
          processing := s.processing ++ [.rejectAuthentication .authenticationTimeout] } []
  | handshakeDue {due} :
      s.handshakeTimer = some due → due ≤ s.now →
      Reacts config s .handshakeTimer
        { s with
          handshakeTimer := none
          processing := s.processing ++ [.protocolViolation .handshakeTimeout] } []
  | heartbeatDue {due} :
      s.heartbeatTimer = some due → due ≤ s.now →
      Reacts config s .heartbeatTimer
        (({ s with heartbeatTimer := some (due + config.heartbeatIntervalMs) }).resume .call
          [.sendHeartbeat]) []
  | deadlineDue {due} :
      s.heartbeatDeadline = some due → due ≤ s.now →
      Reacts config s .heartbeatDeadline
        (({ s with heartbeatDeadline := none }).resume .call [.heartbeatExpired]) []
  | operationStarts {operation rest} :
      s.processing = operation :: rest → s.busy = false →
      Reacts config s .process
        (({ s with processing := rest, busy := true }).resume .processing [operation]) []
  | writeStarts {write rest} :
      s.inFlight = none → s.outbound = write :: rest →
      Reacts config s .startWrite { s with inFlight := some write, outbound := rest }
        [.sent write.frame s.now]
  | writeSettles {write result} :
      s.inFlight = some write →
      Reacts config s (.settleWrite result)
        { s with inFlight := none, settled := s.settled ++ [(write, result)] } []
  | writeResumes {index write result} :
      s.settled[index]? = some (write, result) →
      Reacts config s (.resumeWrite index)
        (({ s with settled := s.settled.eraseIdx index }).resume write.task.owner
          (.written write.purpose result :: write.task.stack)) []
  | closeSettles {index task} :
      s.closing[index]? = some task →
      Reacts config s (.settleClose index)
        (({ s with closing := s.closing.eraseIdx index }).resume task.owner task.stack) []
  | credentialAnswered {response task answer} :
      s.lookup = some (response, task) →
      Reacts config s (.answerLookup (some answer))
        (({ s with lookup := none }).resume task.owner
          (.credentialFound response answer :: task.stack)) [.found answer]
  | lookupFails {response task} :
      s.lookup = some (response, task) →
      Reacts config s (.answerLookup none) (({ s with lookup := none }).throw task.owner) []
  | callbackReturns {index event task ok} :
      s.callbacks[index]? = some (event, task) →
      Reacts config s (.settleCallback index ok)
        (({ s with callbacks := s.callbacks.eraseIdx index }).resume task.owner task.stack) []
  | callbackFails {index event task} :
      s.callbacks[index]? = some (event, task) → event.name ≠ .onCallbackError →
      Reacts config s (.settleCallback index false)
        (({ s with callbacks := s.callbacks.eraseIdx index }).resume task.owner
          (.invoke (.callbackError event.name) :: task.stack)) []

/-- A timer that is due is armed and its time has come. -/
lemma exists_of_isDue {s : Session Input} {timer : Option ℕ} (hdue : s.isDue timer = true) :
    ∃ due, timer = some due ∧ due ≤ s.now := by
  cases timer with
  | none => simp [Session.isDue] at hdue
  | some due => exact ⟨due, rfl, by simpa [Session.isDue] using hdue⟩

lemma reacts {s s' : Session Input} {action : Action Input} {es : List (Effect Input)}
    (hreact : s.react config action = some (s', es)) : Reacts config s action s' es := by
  cases action with
  | receive input =>
      cases hreact
      exact .received
  | transportClosed reason detail =>
      cases hreact
      exact .transportClosed
  | send message =>
      cases hreact
      exact .sends
  | disconnect options =>
      cases hreact
      exact .disconnects
  | elapse ms =>
      cases hreact
      exact .elapsed
  | authenticationTimer =>
      simp only [Session.react, Option.ite_none_right_eq_some] at hreact
      rcases exists_of_isDue hreact.1 with ⟨due, hdue, hle⟩
      cases hreact.2
      exact .authenticationDue hdue hle
  | handshakeTimer =>
      simp only [Session.react, Option.ite_none_right_eq_some] at hreact
      rcases exists_of_isDue hreact.1 with ⟨due, hdue, hle⟩
      cases hreact.2
      exact .handshakeDue hdue hle
  | heartbeatTimer =>
      simp only [Session.react, Option.ite_none_right_eq_some] at hreact
      rcases exists_of_isDue hreact.1 with ⟨due, hdue, hle⟩
      rw [hdue] at hreact
      cases hreact.2
      exact .heartbeatDue hdue hle
  | heartbeatDeadline =>
      simp only [Session.react, Option.ite_none_right_eq_some] at hreact
      rcases exists_of_isDue hreact.1 with ⟨due, hdue, hle⟩
      cases hreact.2
      exact .deadlineDue hdue hle
  | process =>
      simp only [Session.react] at hreact
      split at hreact
      · rename_i operation rest hqueue
        simp only [Option.ite_none_left_eq_some] at hreact
        cases hreact.2
        exact .operationStarts hqueue (by simpa using hreact.1)
      · cases hreact
  | startWrite =>
      simp only [Session.react] at hreact
      split at hreact
      · rename_i write rest hidle hqueue
        cases hreact
        exact .writeStarts hidle hqueue
      · cases hreact
  | settleWrite result =>
      simp only [Session.react, Option.map_eq_some_iff] at hreact
      rcases hreact with ⟨write, hwrite, heq⟩
      cases heq
      exact .writeSettles hwrite
  | resumeWrite index =>
      simp only [Session.react, Option.map_eq_some_iff] at hreact
      rcases hreact with ⟨entry, hentry, heq⟩
      cases heq
      exact .writeResumes hentry
  | settleClose index =>
      simp only [Session.react, Option.map_eq_some_iff] at hreact
      rcases hreact with ⟨task, htask, heq⟩
      cases heq
      exact .closeSettles htask
  | answerLookup answer =>
      simp only [Session.react, Option.map_eq_some_iff] at hreact
      rcases hreact with ⟨⟨response, task⟩, hlookup, heq⟩
      cases answer with
      | some answer =>
          cases heq
          exact .credentialAnswered hlookup
      | none =>
          cases heq
          exact .lookupFails hlookup
  | settleCallback index ok =>
      simp only [Session.react, Option.map_eq_some_iff] at hreact
      rcases hreact with ⟨⟨event, task⟩, hcallback, heq⟩
      split at heq
      · cases heq
        exact .callbackReturns hcallback
      · rename_i hfails
        cases ok with
        | true => exact absurd (Bool.true_or _) hfails
        | false =>
            cases heq
            exact .callbackFails hcallback (by simpa using hfails)
  | advance => cases hreact

/-- **What one step can do.** -/
inductive SessionStep (config : SessionConfig Input) (s : Session Input) : Action Input →
    Session Input → List (Effect Input) → Prop
  | performed {owner code stack t next effects} :
      s.running = some ⟨owner, code :: stack⟩ → Performs config s code t next effects →
      SessionStep config s .advance (t.proceed owner stack next)
        (effects ++ Session.nextEffects next)
  | finished {owner} :
      s.running = some ⟨owner, []⟩ → SessionStep config s .advance (s.finish owner) []
  | reacted {action s' es} :
      s.running = none → Reacts config s action s' es → SessionStep config s action s' es

/-- **The steps of the machine are those listed.** -/
theorem step_cases {s s' : Session Input} {action : Action Input} {es : List (Effect Input)}
    (hstep : (sessionSystem config).step s action = some (s', es)) :
    SessionStep config s action s' es := by
  simp only [sessionSystem, Session.step] at hstep
  split at hstep
  · rename_i task hrunning
    rcases task with ⟨owner, stack⟩
    cases stack with
    | nil =>
        cases hstep
        exact .finished hrunning
    | cons code stack =>
        cases hstep
        exact .performed hrunning (performs s code)
  · cases hstep
  · rename_i hidle
    exact .reacted hidle (reacts hstep)

/-! ## What is still to be done -/

/-- The instructions of some tasks. -/
def work (tasks : List (Task Input)) : Multiset (Code Input) := tasks.flatMap Task.stack

@[simp] lemma work_nil : work ([] : List (Task Input)) = 0 := rfl

@[simp] lemma work_cons {task : Task Input} {tasks : List (Task Input)} :
    work (task :: tasks) = ↑task.stack + work tasks := by
  simp [work]

@[simp] lemma work_append {tasks others : List (Task Input)} :
    work (tasks ++ others) = work tasks + work others := by
  simp [work]

lemma coe_cons {code : Code Input} {stack : List (Code Input)} :
    (↑(code :: stack) : Multiset (Code Input)) = {code} + ↑stack := rfl

lemma coe_append {codes stack : List (Code Input)} :
    (↑(codes ++ stack) : Multiset (Code Input)) = ↑codes + ↑stack := rfl

/-- A task that is taken from a list takes its instructions with it. -/
lemma work_eraseIdx {tasks : List (Task Input)} {index : ℕ} {task : Task Input}
    (htask : tasks[index]? = some task) : work (tasks.eraseIdx index) + ↑task.stack = work tasks := by
  rcases List.getElem?_eq_some_iff.mp htask with ⟨hlt, rfl⟩
  have hperm := (List.getElem_cons_eraseIdx_perm hlt).flatMap_right Task.stack
  rw [add_comm]
  simpa [work] using hperm

namespace Session

variable (s : Session Input)

/-- What the operations and the tasks have still before them. -/
def codes : Multiset (Code Input) :=
  ↑s.processing + work s.running.toList + work (s.outbound.map Write.task) +
    work (s.inFlight.toList.map Write.task) + work (s.settled.map fun entry => entry.1.task) +
    work s.closing + work (s.lookup.toList.map Prod.snd) + work (s.callbacks.map Prod.snd)

/-- An instruction that is still to be done. -/
def Pending (code : Code Input) : Prop := code ∈ s.codes

/-- The writes that were handed to the transport. -/
def handed : List (Write Input) := s.inFlight.toList ++ s.settled.map Prod.fst

variable {s} {owner : Owner} {code : Code Input} {stack : List (Code Input)}

/-- A session begins with its authentication. -/
lemma codes_initial : (initial config).codes = {.beginAuthentication} := by
  simp only [codes, initial, Option.toList_none, List.map_nil, work_nil, add_zero]
  rfl

lemma pending_initial : (initial config).Pending code ↔ code = .beginAuthentication := by
  rw [Pending, codes_initial, Multiset.mem_singleton]

/-- The task that runs has its next instruction before it. -/
lemma pending_running (hrunning : s.running = some ⟨owner, stack⟩) (hmem : code ∈ stack) :
    s.Pending code := by
  simp [Pending, codes, hrunning, hmem]

end Session

/-- The instructions an instruction adds before its task goes on. -/
def Next.codes : Next Input → List (Code Input)
  | .continue codes | .write _ _ codes | .callback _ codes => codes
  | _ => []

/-- The instructions that an instruction may add. -/
inductive Adds (config : SessionConfig Input) (s : Session Input) : Code Input → Code Input → Prop
  | violation {head violation} : Adds config s head (.protocolViolation violation)
  | rejection {head code} : Adds config s head (.rejectAuthentication code)
  | greeting {input messageId hello} :
      s.state = .handshaking →
      Adds config s (.receiveMessage input) (.completeHandshake messageId hello)
  | message {input message} :
      s.state = .connected → config.decodeAgentMessage input = .ok message →
      Adds config s (.receiveMessage input) (.routeMessage message)
  | refusal {head purpose} : Adds config s head (.written purpose .notWritable)
  | close {head request} : Adds config s head (.requestTransportClose request)
  | finalization {head reason detail} : Adds config s head (.finalize reason detail)
  | farewell {head last} : Farewell s.state last → Adds config s head last
  | failure {head detail} : Adds config s head (.transportFailed detail)
  | result {head result} : Adds config s head (.returnSend result)
  | heartbeat {hello selected} : Adds config s (.written (.hello hello selected) .ok) .sendHeartbeat

section

variable {s t : Session Input} {head code last : Code Input} {next : Next Input}
  {effects : List (Effect Input)} {codes : List (Code Input)} {frame : Frame} {purpose : Written}
  {event : HostEvent} {allowed : SessionState}

lemma Offers.adds {state : SessionState} (hoffers : Offers state allowed frame purpose next)
    (hmem : code ∈ next.codes) : Adds config s head code := by
  cases hoffers with
  | refused =>
      rw [List.mem_singleton.mp hmem]
      exact .refusal
  | enqueued => cases hmem
  | raised => cases hmem

lemma Concludes.codes_of_mem (hconcludes : Concludes frame codes next) (hmem : code ∈ next.codes) :
    code ∈ codes := by
  cases hconcludes with
  | enqueued => exact hmem
  | raised => cases hmem

lemma Notifies.codes_eq (hnotifies : Notifies event codes next) : next.codes = codes := by
  cases hnotifies <;> rfl

/-- What follows when a session closes. -/
lemma adds_closing {request : CloseRequest} {reason : DisconnectReason} {detail : Option String}
    (hlast : Farewell s.state last)
    (hmem : code ∈ [.requestTransportClose request, .finalize reason detail, last]) :
    Adds config s head code := by
  simp only [List.mem_cons, List.not_mem_nil, or_false] at hmem
  rcases hmem with rfl | rfl | rfl
  · exact .close
  · exact .finalization
  · exact .farewell hlast

/-- **What an instruction adds** is one of the listed instructions. -/
theorem Performs.adds (hperforms : Performs config s head t next effects)
    (hmem : code ∈ next.codes) : Adds config s head code := by
  cases hperforms with
  | nothing | raised | lookedUp | heartbeat | closesTransport | returnsSend | throwsSend
  | returnsDisconnect | armsAuthentication | accepted => cases hmem
  | began hoffers | identified _ _ _ hoffers | offersHello _ _ _ hoffers
  | offersHeartbeat _ hoffers | offersMessage _ _ hoffers => exact hoffers.adds hmem
  | violates | uncorrelated =>
      rw [List.mem_singleton.mp hmem]
      exact .violation
  | refused | distrusted | refers =>
      rw [List.mem_singleton.mp hmem]
      exact .rejection
  | greeted hstate _ _ =>
      rw [List.mem_singleton.mp hmem]
      exact .greeting hstate
  | routes hstate hmessage =>
      rw [List.mem_singleton.mp hmem]
      exact .message hstate hmessage
  | rejected _ _ hconcludes =>
      have hcodes := hconcludes.codes_of_mem hmem
      simp only [List.mem_cons, List.not_mem_nil, or_false] at hcodes
      rcases hcodes with rfl | rfl
      · exact .close
      · exact .finalization
  | routed _ hnotifies | invokes hnotifies =>
      rw [hnotifies.codes_eq] at hmem
      cases hmem
  | bidsFarewell _ hlast _ _ hconcludes => exact adds_closing hlast (hconcludes.codes_of_mem hmem)
  | breaksOff _ hlast _ _ => exact adds_closing hlast hmem
  | transportClosed _ =>
      rw [List.mem_singleton.mp hmem]
      exact .finalization
  | transportFailed _ =>
      simp only [Next.codes, List.mem_cons, List.not_mem_nil, or_false] at hmem
      rcases hmem with rfl | rfl
      · exact .close
      · exact .finalization
  | finalized _ hnext =>
      rcases hnext with rfl | ⟨agent, -, hnotifies⟩
      · cases hmem
      · rw [hnotifies.codes_eq] at hmem
        cases hmem
  | connected hnotifies =>
      rw [hnotifies.codes_eq] at hmem
      rw [List.mem_singleton.mp hmem]
      exact .heartbeat
  | delivered =>
      rw [List.mem_singleton.mp hmem]
      exact .result
  | failed _ =>
      rw [List.mem_singleton.mp hmem]
      exact .failure
  | undelivered =>
      simp only [Next.codes, List.mem_cons, List.not_mem_nil, or_false] at hmem
      rcases hmem with rfl | rfl
      · exact .failure
      · exact .result

end

/-- The event loop sets no field of the protocol. -/
structure SameFields (s t : Session Input) : Prop where
  state : t.state = s.state
  identity : t.identity = s.identity
  challenge : t.challenge = s.challenge
  challengeConsumed : t.challengeConsumed = s.challengeConsumed
  hello : t.hello = s.hello
  protocolVersion : t.protocolVersion = s.protocolVersion
  pendingHeartbeats : t.pendingHeartbeats = s.pendingHeartbeats
  transportCloseRequested : t.transportCloseRequested = s.transportCloseRequested

lemma sameFields_throw {s : Session Input} {owner : Owner} : SameFields s (s.throw owner) := by
  cases owner <;> exact ⟨rfl, rfl, rfl, rfl, rfl, rfl, rfl, rfl⟩

lemma sameFields_proceed {s : Session Input} {owner : Owner} {stack : List (Code Input)}
    {next : Next Input} : SameFields s (s.proceed owner stack next) := by
  cases next with
  | fail => exact sameFields_throw
  | _ => exact ⟨rfl, rfl, rfl, rfl, rfl, rfl, rfl, rfl⟩

/-- **Where an instruction comes from** that was not to be done before a step. -/
inductive Arises (config : SessionConfig Input) (s s' : Session Input) (es : List (Effect Input)) :
    Code Input → Prop
  | instructed {owner head stack t next effects code} :
      s.running = some ⟨owner, head :: stack⟩ → Performs config s head t next effects →
      SameFields t s' → code ∈ next.codes → Arises config s s' es code
  | threw : Arises config s s' es (.protocolViolation .invalidMessage)
  | received {input} :
      es = [.received input s.now] → Arises config s s' es (.receiveMessage input)
  | transportClosed {reason detail} : Arises config s s' es (.handleTransportClosed reason detail)
  | sends {message} : Arises config s s' es (.send message)
  | disconnects {options} : Arises config s s' es (.disconnect options)
  | authenticationDue : Arises config s s' es (.rejectAuthentication .authenticationTimeout)
  | handshakeDue : Arises config s s' es (.protocolViolation .handshakeTimeout)
  | heartbeatDue : Arises config s s' es .sendHeartbeat
  | deadlineDue : Arises config s s' es .heartbeatExpired
  | resumed {write result} :
      (write, result) ∈ s.settled → Arises config s s' es (.written write.purpose result)
  | answered {response task answer} :
      s.lookup = some (response, task) → es = [.found answer] →
      Arises config s s' es (.credentialFound response answer)
  | reported {event task} :
      (event, task) ∈ s.callbacks → event.name ≠ .onCallbackError →
      Arises config s s' es (.invoke (.callbackError event.name))

/-- An instruction sets no field of the event loop. -/
structure SameLoop (s t : Session Input) : Prop where
  now : t.now = s.now
  processing : t.processing = s.processing
  busy : t.busy = s.busy
  outbound : t.outbound = s.outbound
  inFlight : t.inFlight = s.inFlight
  settled : t.settled = s.settled
  closing : t.closing = s.closing
  lookup : t.lookup = s.lookup
  callbacks : t.callbacks = s.callbacks
  running : t.running = s.running

lemma Performs.loop {s t : Session Input} {code : Code Input} {next : Next Input}
    {effects : List (Effect Input)} (hperforms : Performs config s code t next effects) :
    SameLoop s t := by
  cases hperforms <;> exact ⟨rfl, rfl, rfl, rfl, rfl, rfl, rfl, rfl, rfl, rfl⟩

section

variable {s t s' : Session Input} {owner : Owner} {stack : List (Code Input)} {next : Next Input}
  {action : Action Input} {es : List (Effect Input)} {code : Code Input}

/-- **The instructions a step takes and adds**: those taken contain the one that is performed, and
those added arise in the step. -/
structure Takes (config : SessionConfig Input) (s s' : Session Input) (es : List (Effect Input))
    (gone new : Multiset (Code Input)) : Prop where
  balance : s'.codes + gone = s.codes + new
  performed : ∀ owner head stack, s.running = some ⟨owner, head :: stack⟩ → head ∈ gone
  arises : ∀ code ∈ new, Arises config s s' es code

/-- What an instruction takes and adds. -/
lemma codes_proceed {head : Code Input} (next : Next Input)
    (hrunning : s.running = some ⟨owner, head :: stack⟩) :
    ∃ gone new, (s.proceed owner stack next).codes + gone = s.codes + new ∧ head ∈ gone ∧
      ∀ code ∈ new, code ∈ next.codes ∨ code = .protocolViolation .invalidMessage := by
  cases next with
  | «continue» codes | write frame purpose codes | callback event codes =>
      refine ⟨{head}, codes, ?_, Multiset.mem_singleton_self head, fun code hcode =>
        Or.inl hcode⟩
      simp only [Session.codes, Session.proceed, Session.resume, hrunning, Option.toList_some,
        Option.toList_none, work_cons, work_nil, work_append, List.map_append, List.map_cons,
        List.map_nil, coe_cons, coe_append]
      abel
  | close =>
      refine ⟨{head}, 0, ?_, Multiset.mem_singleton_self head, by simp⟩
      simp only [Session.codes, Session.proceed, hrunning, Option.toList_some,
        Option.toList_none, work_cons, work_nil, work_append, coe_cons]
      abel
  | lookup response =>
      -- a lookup that was under way is forgotten
      refine ⟨{head} + work (s.lookup.toList.map Prod.snd), 0, ?_, by simp, by simp⟩
      simp only [Session.codes, Session.proceed, hrunning, Option.toList_some,
        Option.toList_none, work_cons, work_nil, List.map_cons, List.map_nil, coe_cons]
      abel
  | fail =>
      cases owner with
      | processing =>
          refine ⟨{head} + stack, {.protocolViolation .invalidMessage}, ?_, by simp, by simp⟩
          simp only [Session.codes, Session.proceed, Session.throw, Session.resume, hrunning,
            Option.toList_some, work_cons, work_nil, coe_cons, Multiset.coe_nil]
          abel
      | handling | call =>
          refine ⟨{head} + stack, 0, ?_, by simp, by simp⟩
          simp only [Session.codes, Session.proceed, Session.throw, Session.finish, hrunning,
            Option.toList_some, Option.toList_none, work_cons, work_nil, coe_cons]
          abel

/-- What an exception takes and adds, after a lookup that failed. -/
lemma codes_throw (hidle : s.running = none) :
    ∃ new, (s.throw owner).codes = s.codes + new ∧
      ∀ code ∈ new, code = .protocolViolation .invalidMessage := by
  cases owner with
  | processing =>
      refine ⟨{.protocolViolation .invalidMessage}, ?_, by simp⟩
      simp only [Session.codes, Session.throw, Session.resume, hidle, Option.toList_some,
        Option.toList_none, work_cons, work_nil, coe_cons, Multiset.coe_nil]
      abel
  | handling | call =>
      refine ⟨0, ?_, by simp⟩
      simp only [Session.codes, Session.throw, Session.finish, hidle, add_zero]

/-- A step that takes nothing away and adds one instruction. -/
lemma takes_one (hidle : s.running = none) (hbalance : s'.codes = s.codes + {code})
    (harises : Arises config s s' es code) : Takes config s s' es 0 {code} where
  balance := by rw [add_zero, hbalance]
  performed := by simp [hidle]
  arises other hmem := Multiset.mem_singleton.mp hmem ▸ harises

/-- A step that only moves tasks. -/
lemma takes_none (hidle : s.running = none) (hbalance : s'.codes = s.codes) :
    Takes config s s' es 0 0 where
  balance := by rw [hbalance]
  performed := by simp [hidle]
  arises := by simp

/-- An operation joins the queue. -/
lemma codes_queue :
    ({ s with processing := s.processing ++ [code] } : Session Input).codes = s.codes + {code} := by
  simp only [Session.codes, coe_append, coe_cons, Multiset.coe_nil]
  abel

/-- A task starts or is resumed. -/
lemma codes_resume (hidle : s.running = none) :
    (s.resume owner stack).codes = s.codes + ↑stack := by
  simp only [Session.codes, Session.resume, hidle, Option.toList_some, Option.toList_none,
    work_cons, work_nil]
  abel

/-- What a step of the event loop takes and adds: the tasks that waited go on. -/
lemma Reacts.takes (hreacts : Reacts config s action s' es) (hidle : s.running = none) :
    ∃ gone new, Takes config s s' es gone new := by
  cases hreacts with
  | @received input => exact ⟨0, _, takes_one hidle codes_queue (@Arises.received _ _ _ _ _ input rfl)⟩
  | @transportClosed reason detail =>
      exact ⟨0, _, takes_one hidle codes_queue (@Arises.transportClosed _ _ _ _ _ reason detail)⟩
  | authenticationDue => exact ⟨0, _, takes_one hidle codes_queue .authenticationDue⟩
  | handshakeDue => exact ⟨0, _, takes_one hidle codes_queue .handshakeDue⟩
  | @sends message =>
      exact ⟨0, _, takes_one hidle (codes_resume hidle) (@Arises.sends _ _ _ _ _ message)⟩
  | @disconnects options =>
      exact ⟨0, _, takes_one hidle (codes_resume hidle) (@Arises.disconnects _ _ _ _ _ options)⟩
  | heartbeatDue => exact ⟨0, _, takes_one hidle (codes_resume hidle) .heartbeatDue⟩
  | deadlineDue => exact ⟨0, _, takes_one hidle (codes_resume hidle) .deadlineDue⟩
  | elapsed => exact ⟨0, 0, takes_none hidle rfl⟩
  | operationStarts hqueue _ =>
      refine ⟨0, 0, takes_none hidle ?_⟩
      simp only [Session.codes, Session.resume, hqueue, hidle, Option.toList_some,
        Option.toList_none, work_cons, work_nil, coe_cons, Multiset.coe_nil]
      abel
  | writeStarts hnone hqueue =>
      refine ⟨0, 0, takes_none hidle ?_⟩
      simp only [Session.codes, hqueue, hnone, Option.toList_some, Option.toList_none,
        work_cons, work_nil, List.map_cons, List.map_nil]
      abel
  | writeSettles hwrite =>
      refine ⟨0, 0, takes_none hidle ?_⟩
      simp only [Session.codes, hwrite, Option.toList_some, Option.toList_none, work_cons, work_nil,
        work_append, List.map_cons, List.map_nil, List.map_append]
      abel
  | @writeResumes index write result hentry =>
      have hwork : (s.settled.map fun entry => entry.1.task)[index]? = some write.task := by
        simp [hentry]
      refine ⟨0, _, takes_one hidle ?_ (.resumed (List.mem_of_getElem? hentry))⟩
      refine (codes_resume (by exact hidle)).trans ?_
      simp only [Session.codes, ← List.eraseIdx_map, ← work_eraseIdx hwork, coe_cons]
      abel
  | @closeSettles index task htask =>
      refine ⟨0, 0, takes_none hidle ?_⟩
      refine (codes_resume (by exact hidle)).trans ?_
      simp only [Session.codes, ← work_eraseIdx htask]
      abel
  | credentialAnswered hlookup =>
      refine ⟨0, _, takes_one hidle ?_ (.answered hlookup rfl)⟩
      refine (codes_resume (by exact hidle)).trans ?_
      simp only [Session.codes, hlookup, Option.toList_some, Option.toList_none, work_cons,
        work_nil, List.map_cons, List.map_nil, coe_cons]
      abel
  | @lookupFails response task hlookup =>
      -- the task that looked the credential up ends in an exception
      rcases @codes_throw _ { s with lookup := none } task.owner hidle with ⟨new, hthrow, hnew⟩
      refine ⟨↑task.stack, new, ?_, by simp [hidle], fun code hcode => hnew code hcode ▸ .threw⟩
      rw [hthrow]
      simp only [Session.codes, hlookup, Option.toList_some, Option.toList_none, work_cons,
        work_nil, List.map_cons, List.map_nil]
      abel
  | @callbackReturns index event task ok hcallback =>
      have hwork : (s.callbacks.map Prod.snd)[index]? = some task := by simp [hcallback]
      refine ⟨0, 0, takes_none hidle ?_⟩
      refine (codes_resume (by exact hidle)).trans ?_
      simp only [Session.codes, ← List.eraseIdx_map, ← work_eraseIdx hwork]
      abel
  | @callbackFails index event task hcallback hname =>
      have hwork : (s.callbacks.map Prod.snd)[index]? = some task := by simp [hcallback]
      refine ⟨0, _, takes_one hidle ?_ (.reported (List.mem_of_getElem? hcallback) hname)⟩
      refine (codes_resume (by exact hidle)).trans ?_
      simp only [Session.codes, ← List.eraseIdx_map, ← work_eraseIdx hwork, coe_cons]
      abel

/-- **What a step takes and adds.** -/
theorem SessionStep.takes (hstep : SessionStep config s action s' es) :
    ∃ gone new, Takes config s s' es gone new := by
  cases hstep with
  | @performed owner head stack t next effects hrunning hperforms =>
      have hloop := hperforms.loop
      have hcodes : t.codes = s.codes := by
        simp only [Session.codes, hloop.running, hloop.outbound, hloop.inFlight, hloop.settled,
          hloop.closing, hloop.lookup, hloop.callbacks, hloop.processing]
      rcases codes_proceed next (hloop.running.trans hrunning) with
        ⟨gone, new, hbalance, hhead, hnew⟩
      refine ⟨gone, new, hcodes ▸ hbalance, fun owner' head' stack' hrunning' => ?_,
        fun code hcode => ?_⟩
      · rw [hrunning] at hrunning'
        cases hrunning'
        exact hhead
      · rcases hnew code hcode with hadded | rfl
        · exact .instructed hrunning hperforms sameFields_proceed hadded
        · exact .threw
  | finished hrunning =>
      refine ⟨0, 0, ?_, ?_, by simp⟩
      · simp [Session.codes, Session.finish, hrunning]
      · simp [hrunning]
  | reacted hidle hreacts => exact hreacts.takes hidle

/-- **What is to be done after a step** was to be done before it, or arises in it. -/
theorem SessionStep.pending (hstep : SessionStep config s action s' es)
    (hpending : s'.Pending code) : s.Pending code ∨ Arises config s s' es code := by
  rcases hstep.takes with ⟨gone, new, htakes⟩
  have hmem : code ∈ s.codes + new := htakes.balance ▸ Multiset.mem_add.mpr (Or.inl hpending)
  exact (Multiset.mem_add.mp hmem).imp_right (htakes.arises code)

/-! ## What a step leaves alone -/

lemma Reacts.fields (hreacts : Reacts config s action s' es) : SameFields s s' := by
  cases hreacts with
  | lookupFails hlookup =>
      have hthrow := @sameFields_throw _ { s with lookup := none }
      exact ⟨hthrow.1, hthrow.2, hthrow.3, hthrow.4, hthrow.5, hthrow.6, hthrow.7, hthrow.8⟩
  | _ => exact ⟨rfl, rfl, rfl, rfl, rfl, rfl, rfl, rfl⟩

/-- What the event loop shows. -/
lemma Reacts.effects (hreacts : Reacts config s action s' es) :
    es = [] ∨ (∃ input, es = [.received input s.now]) ∨
      (∃ write rest, s.outbound = write :: rest ∧ es = [.sent write.frame s.now]) ∨
      ∃ answer response task, s.lookup = some (response, task) ∧ es = [.found answer] := by
  cases hreacts with
  | received => exact Or.inr (Or.inl ⟨_, rfl⟩)
  | writeStarts _ hqueue => exact Or.inr (Or.inr (Or.inl ⟨_, _, hqueue, rfl⟩))
  | credentialAnswered hlookup => exact Or.inr (Or.inr (Or.inr ⟨_, _, _, hlookup, rfl⟩))
  | _ => exact Or.inl rfl

/-- What an instruction shows by itself, and not by coming to wait. -/
def Effect.isOwn : Effect Input → Bool
  | .received _ _ | .found _ | .enqueued _ | .sent _ _ | .invoked _ => false
  | _ => true

lemma Performs.own {effects : List (Effect Input)}
    (hperforms : Performs config s code t next effects) : ∀ e ∈ effects, e.isOwn = true := by
  cases hperforms with
  | rejected _ hcloses _ | bidsFarewell _ _ hcloses _ _ | breaksOff _ _ hcloses _ =>
      intro e he
      rcases hcloses.mem he with rfl | ⟨_, rfl⟩ | ⟨_, rfl⟩ <;> rfl
  | _ => simp [Effect.isOwn]

/-- What an instruction shows by coming to wait. -/
lemma mem_nextEffects {e : Effect Input} :
    e ∈ Session.nextEffects next ↔
      (∃ frame purpose codes, next = .write frame purpose codes ∧ e = .enqueued frame) ∨
        ∃ event codes, next = .callback event codes ∧ e = .invoked event := by
  cases next <;> simp [Session.nextEffects]

@[simp] lemma entered_notMem_nextEffects {state : SessionState} :
    .entered state ∉ Session.nextEffects next := by
  simp [mem_nextEffects]

/-- A write joins the queue of writes; nothing else does. -/
lemma outbound_proceed :
    (s.proceed owner stack next).outbound = s.outbound ∨
      ∃ frame purpose codes, next = .write frame purpose codes ∧
        (s.proceed owner stack next).outbound =
          s.outbound ++ [⟨frame, purpose, ⟨owner, codes ++ stack⟩⟩] := by
  cases next with
  | write frame purpose codes => exact Or.inr ⟨frame, purpose, codes, rfl, rfl⟩
  | fail => cases owner <;> exact Or.inl rfl
  | _ => exact Or.inl rfl

lemma Reacts.outbound (hreacts : Reacts config s action s' es) :
    s'.outbound = s.outbound ∧ (∀ frame at_, .sent frame at_ ∉ es) ∨
      ∃ write, s.inFlight = none ∧ s.outbound = write :: s'.outbound ∧
        es = [.sent write.frame s.now] := by
  cases hreacts with
  | writeStarts hidle hqueue => exact Or.inr ⟨_, hidle, hqueue, rfl⟩
  | @lookupFails response task =>
      refine Or.inl ⟨?_, by simp⟩
      cases task.owner <;> rfl
  | _ => exact Or.inl ⟨rfl, by simp⟩

/-- A write that waits did so before the step, or an instruction has just enqueued it. -/
theorem SessionStep.outbound (hstep : SessionStep config s action s' es) {write : Write Input}
    (hmem : write ∈ s'.outbound) :
    write ∈ s.outbound ∨ ∃ owner head stack t effects codes,
      s.running = some ⟨owner, head :: stack⟩ ∧
        Performs config s head t (.write write.frame write.purpose codes) effects ∧
        es = effects ++ [.enqueued write.frame] := by
  cases hstep with
  | @performed owner head stack t next effects hrunning hperforms =>
      rcases @outbound_proceed _ t owner stack next with hsame | ⟨frame, purpose, codes, rfl, hnew⟩
      · rw [hsame, hperforms.loop.outbound] at hmem
        exact Or.inl hmem
      · rw [hnew, hperforms.loop.outbound] at hmem
        rcases List.mem_append.mp hmem with hold | hlast
        · exact Or.inl hold
        · rw [List.mem_singleton.mp hlast]
          exact Or.inr ⟨_, _, _, _, _, _, hrunning, hperforms, rfl⟩
  | finished _ => exact Or.inl hmem
  | reacted _ hreacts =>
      rcases hreacts.outbound with ⟨hsame, -⟩ | ⟨first, -, hqueue, -⟩
      · exact Or.inl (hsame ▸ hmem)
      · exact Or.inl (hqueue ▸ List.mem_cons_of_mem _ hmem)

lemma handed_throw : (s.throw owner).handed = s.handed := by
  cases owner <;> rfl

lemma handed_proceed : (s.proceed owner stack next).handed = s.handed := by
  cases next with
  | fail => exact handed_throw
  | _ => rfl

/-- A write that was handed to the transport was so before the step, or has just been sent. -/
theorem SessionStep.handed (hstep : SessionStep config s action s' es) {write : Write Input}
    (hmem : write ∈ s'.handed) :
    write ∈ s.handed ∨ write ∈ s.outbound ∧ es = [.sent write.frame s.now] := by
  cases hstep with
  | performed hrunning hperforms =>
      rw [handed_proceed] at hmem
      simp only [Session.handed, hperforms.loop.inFlight, hperforms.loop.settled] at hmem
      exact Or.inl hmem
  | finished _ => exact Or.inl hmem
  | reacted _ hreacts =>
      cases hreacts with
      | writeStarts _ hqueue =>
          simp only [Session.handed, List.mem_append, Option.toList_some,
            List.mem_singleton] at hmem
          rcases hmem with rfl | hold
          · exact Or.inr ⟨hqueue ▸ List.mem_cons_self, rfl⟩
          · exact Or.inl (List.mem_append_right _ hold)
      | writeSettles hwrite =>
          simp only [Session.handed, Option.toList_none, List.nil_append, List.map_append,
            List.map_cons, List.map_nil, List.mem_append, List.mem_singleton] at hmem
          rcases hmem with hold | rfl
          · exact Or.inl (List.mem_append_right _ hold)
          · exact Or.inl (List.mem_append_left _ (by simp [hwrite]))
      | writeResumes hentry =>
          simp only [Session.handed, Session.resume, List.mem_append] at hmem ⊢
          refine Or.inl (hmem.imp_right fun hrest => ?_)
          exact List.map_subset _ List.eraseIdx_subset hrest
      | lookupFails =>
          rw [handed_throw] at hmem
          exact Or.inl hmem
      | _ => exact Or.inl hmem

end

end Oppa.Server
