import Oppa.Agent.Processor

/-!
# The agent as a machine

The calls an `Agent` serves and what may happen between any two of their awaits.

* `Flow` — where the call that holds `flow_lock` stands: `handle_print_job`, `process_pending` or
  `recover`.  The drain of the processor is part of it.
* `Replay` — where `replay_outbound_reports` stands.  It holds `outbox_lock`, which the flow takes
  to report its outcomes.
* `Agent` — the tables, the map of active submissions, and the two.
* `Action` — what a scheduler may choose: a new call, a cancellation, a restart of the process, or
  one more step of either call.
* `agentSystem` — the machine; its effects are what the server, the spooler, the store and the
  callers see.

A step runs from one await to the next.  The map of active submissions is locked across the claim of
a job and across its settlement, so both are one step.
-/

namespace Oppa

open Protocol

/-- Failure while coordinating durable work with outbound reporting. -/
inductive AgentRuntimeError
  | processing (error : JobProcessingError)
  | reporting (message : AgentMessage)
  | invalidOutboundStatus (messageId reason : String)
  deriving DecidableEq, Repr

/-- The call that holds `flow_lock`, with what it has to return in the end. -/
inductive Call
  | handlePrintJob (receipt : ReceiveJobOutcome)
  | processPending
  | recover (recovery : RecoveryResult)
  deriving DecidableEq, Repr

/-- What a flow returns. -/
inductive FlowResult
  /-- `JobFlowResult`. -/
  | printJob (receipt : ReceiveJobOutcome) (outcomes : List ProcessOutcome)
  | pending (outcomes : List ProcessOutcome)
  /-- `RecoverySummary`. -/
  | recovered (recovery : RecoveryResult) (outcomes : List ProcessOutcome)
  deriving DecidableEq, Repr

/-- What a call returns with the outcomes of its drain. -/
def Call.result : Call → List ProcessOutcome → FlowResult
  | handlePrintJob receipt, outcomes => .printJob receipt outcomes
  | processPending, outcomes => .pending outcomes
  | recover recovery, outcomes => .recovered recovery outcomes

/-- The drain of the received jobs: what it has produced and what is left of its snapshot. -/
structure Drain where
  call : Call
  outcomes : List ProcessOutcome
  queue : List (StoredPrintJob Json.Value)

/-- The drain with one more outcome. -/
def Drain.push (drain : Drain) (outcome : ProcessOutcome) : Drain :=
  { drain with outcomes := drain.outcomes ++ [outcome] }

/-- Where the call that holds `flow_lock` stands. -/
inductive Flow
  /-- No call holds the lock. -/
  | idle
  /-- About to report the receipt of a delivery. -/
  | acknowledging (receipt : ReceiveJobOutcome) (acknowledgement : AgentMessage)
  /-- About to read the jobs whose receipt is reported again. -/
  | readingReceipts (call : Call)
  /-- Reporting these receipts. -/
  | reportingReceipts (call : Call) (messages : List AgentMessage)
  /-- About to take the snapshot of the received jobs. -/
  | reading (call : Call)
  /-- Between two jobs of the snapshot. -/
  | draining (drain : Drain)
  /-- Processing a job of the snapshot. -/
  | processing (drain : Drain) (stored : StoredPrintJob Json.Value) (stage : Stage)
  /-- Waiting for `outbox_lock`. -/
  | waiting (call : Call) (outcomes : List ProcessOutcome)
  /-- Holding `outbox_lock`, with these statuses still to report. -/
  | delivering (call : Call) (outcomes : List ProcessOutcome) (messages : List AgentMessage)
  /-- About to remove a reported status from the outbox. -/
  | confirming (call : Call) (outcomes : List ProcessOutcome) (message : AgentMessage)
      (messages : List AgentMessage)

/-- Where `replay_outbound_reports` stands, with the number of statuses it has delivered. -/
inductive Replay
  | idle
  /-- About to read a batch. -/
  | reading (delivered : ℕ)
  /-- With these statuses of a batch still to report. -/
  | delivering (delivered batchLen : ℕ) (statuses : List (StoredOutboundStatus Json.Value))
  /-- About to remove a reported status from the outbox. -/
  | confirming (delivered batchLen : ℕ) (message : AgentMessage)
      (statuses : List (StoredOutboundStatus Json.Value))

/-- The agent and its store. -/
structure Agent where
  db : Database
  /-- The active submissions, with whether their token has been cancelled. -/
  active : List (PrintJobId × Bool)
  flow : Flow
  replay : Replay

/-- An agent on a freshly migrated store. -/
def Agent.initial : Agent where
  db := .empty
  active := []
  flow := .idle
  replay := .idle

/-- What the surroundings of the agent see. -/
inductive Effect
  | repository (event : RepositoryEvent)
  /-- The reporter was handed a message, and whether it accepted it. -/
  | handed (message : AgentMessage) (delivered : Bool)
  /-- The document of a job was requested. -/
  | documentRequested (id : PrintJobId)
  /-- `SpoolerRegistry::submit` was called for a job with this idempotency key. -/
  | submitCalled (id : PrintJobId) (idempotencyKey : String)
  /-- It returned, and whether with a receipt. -/
  | submitReturned (id : PrintJobId) (accepted : Bool)
  /-- The entry of a job left the active map, while its row was in this state. -/
  | released (id : PrintJobId) (state : Option JobState)
  /-- A drain took its snapshot. -/
  | drainStarted (ids : List PrintJobId)
  | drained (result : Except JobProcessingError (List ProcessOutcome))
  | flowReturned (result : Except AgentRuntimeError FlowResult)
  | replayReturned (result : Except AgentRuntimeError ℕ)
  | cancelReturned (result : Except AgentRuntimeError CancelOutcome)
  deriving DecidableEq, Repr

/-- What a scheduler may choose. -/
inductive Action
  | handlePrintJob (message : ServerMessage) (env : Env)
  | processPending
  | recover (env : Env)
  | replayOutboundReports
  | cancelJob (jobId : String) (env : Env)
  /-- The process dies at this point and is started again: the store is opened, which maintains its
  terminal jobs, and interrupted submissions are recovered. -/
  | restart (openedAt recoveredAt : Timestamp)
  | advance (env : Env)
  | advanceReplay (env : Env)

/-- Repository events as effects. -/
def Effect.ofEvents (events : List RepositoryEvent) : List Effect := events.map .repository

namespace Agent

variable (config : AgentConfig) (env : Env) (agent : Agent)

/-! ## Steps of the flow -/

/-- The flow ends. -/
def finish (effects : List Effect) (result : Except AgentRuntimeError FlowResult) :
    Agent × List Effect :=
  ({ agent with flow := .idle }, effects ++ [.flowReturned result])

/-- `report`: the flow goes on if the reporter accepts the message. -/
def report (message : AgentMessage) (flow : Flow) : Agent × List Effect :=
  if env.delivered then ({ agent with flow := flow }, [.handed message true])
  else agent.finish [.handed message false] (.error (.reporting message))

/-- `handle_print_job` up to the report of its receipt. -/
def startHandlePrintJob (message : ServerMessage) : Agent × List Effect :=
  let answer := receivePrintJob config env message agent.db
  let agent := { agent with db := answer.db }
  let effects := Effect.ofEvents answer.events
  match answer.result with
  | .error e => agent.finish effects (.error (.processing e))
  | .ok receipt =>
    match receipt.acknowledgement with
    | some acknowledgement =>
      ({ agent with flow := .acknowledging receipt acknowledgement }, effects)
    | none => agent.finish effects (.ok (.printJob receipt []))

/-- `recover` up to the report of pending receipts. -/
def startRecover : Agent × List Effect :=
  let reply := env.call config .recoverInterrupted (env.clock 0) agent.db
  let agent := { agent with db := reply.db }
  let effects := Effect.ofEvents reply.events
  match reply.result with
  | .error e => agent.finish effects (.error (.processing (.storage e)))
  | .ok recovery => ({ agent with flow := .readingReceipts (.recover recovery) }, effects)

/-- The receipt of a delivery is reported; only a new job is processed. -/
def acknowledge (receipt : ReceiveJobOutcome) (acknowledgement : AgentMessage) :
    Agent × List Effect :=
  if env.delivered && !receipt.wasInserted then
    agent.finish [.handed acknowledgement true] (.ok (.printJob receipt []))
  else agent.report env acknowledgement (.reading (.handlePrintJob receipt))

/-- `report_pending_receipts` reads the received jobs. -/
def readReceipts (call : Call) : Agent × List Effect :=
  let reply := env.call config .pending (env.clock 0) agent.db
  match (reply.result.mapError .storage).bind (pendingReceipts config env) with
  | .error e => agent.finish [] (.error (.processing e))
  | .ok messages => ({ agent with flow := .reportingReceipts call messages }, [])

/-- `process_pending_inner` reads the received jobs. -/
def readPending (call : Call) : Agent × List Effect :=
  let reply := env.call config .pending (env.clock 0) agent.db
  match reply.result with
  | .error e => agent.finish [] (.error (.processing (.storage e)))
  | .ok stored =>
    ({ agent with flow := .draining { call := call, outcomes := [], queue := stored } },
      [.drainStarted (stored.map StoredPrintJob.id)])

/-- The drain stops with an error. -/
def abandon (effects : List Effect) (e : JobProcessingError) : Agent × List Effect :=
  agent.finish (effects ++ [.drained (.error e)]) (.error (.processing e))

/-- A job of the snapshot is done with. -/
def conclude (drain : Drain) (result : Except JobProcessingError ProcessOutcome)
    (effects : List Effect) : Agent × List Effect :=
  match result with
  | .ok outcome => ({ agent with flow := .draining (drain.push outcome) }, effects)
  | .error e => agent.abandon effects e

/-- The drain takes up the next job of its snapshot, or ends. -/
def nextJob (drain : Drain) : Agent × List Effect :=
  match drain.queue with
  | [] => ({ agent with flow := .waiting drain.call drain.outcomes }, [.drained (.ok drain.outcomes)])
  | stored :: queue =>
    let flow := Flow.processing { drain with queue := queue } stored (prepare config env stored)
    ({ agent with flow := flow }, [])

/-- A failure is recorded before the job was claimed. -/
def persist (drain : Drain) (stored : StoredPrintJob Json.Value) (job : Option PrintJob)
    (failure : JobFailure) : Agent × List Effect :=
  let answer := persistFailure config env stored job failure agent.db
  let agent := { agent with db := answer.db }
  agent.conclude drain answer.result (Effect.ofEvents answer.events)

/-- The claim of a job; a job another call has moved on is skipped. -/
def claimJob (drain : Drain) (stored : StoredPrintJob Json.Value) (job : PrintJob) :
    Agent × List Effect :=
  let answer := claim config env stored agent.db
  let agent := { agent with db := answer.db }
  let effects := Effect.ofEvents answer.events
  match answer.result with
  | .ok .claimed =>
    ({ agent with
        active := (stored.id, false) :: agent.active.filter fun entry => entry.1 ≠ stored.id
        flow := .processing drain stored (.claimed job) }, effects)
  | .ok (.skipped state) => agent.conclude drain (.ok (.skipped stored.id state)) effects
  | .error e => agent.abandon effects e

/-- Whether the token of a job has been cancelled. -/
def isCancelled (id : PrintJobId) : Bool := agent.active.any fun entry => entry.1 = id && entry.2

/-- The result of a submission is recorded, and the job leaves the active map. -/
def settleJob (drain : Drain) (stored : StoredPrintJob Json.Value) (job : PrintJob)
    (submission : Except SpoolerError SubmissionReceipt) : Agent × List Effect :=
  let answer := settle config env stored job submission (agent.isCancelled stored.id) agent.db
  let agent := { agent with
    db := answer.db
    active := agent.active.filter fun entry => entry.1 ≠ stored.id }
  agent.conclude drain answer.result (Effect.ofEvents answer.events ++
    [.released stored.id ((answer.db.job stored.id).map PrintJobRow.state)])

/-- One step with a job of the snapshot. -/
def processStage (drain : Drain) (stored : StoredPrintJob Json.Value) :
    Stage → Agent × List Effect
  | .fetching job =>
      ({ agent with flow := .processing drain stored (finishFetch env job) },
        [.documentRequested stored.id])
  | .persisting job failure => agent.persist config env drain stored job failure
  | .claiming job => agent.claimJob config env drain stored job
  | .claimed job =>
      ({ agent with flow := .processing drain stored (.submitting job) },
        [.submitCalled stored.id stored.idempotencyKey])
  | .submitting job =>
      ({ agent with flow := .processing drain stored (.settling job env.submission) },
        [.submitReturned stored.id (match env.submission with | .ok _ => true | .error _ => false)])
  | .settling job submission => agent.settleJob config env drain stored job submission

/-- Whether `replay_outbound_reports` holds `outbox_lock`. -/
def replaying : Bool :=
  match agent.replay with
  | .idle => false
  | _ => true

/-- `acknowledge_outbound_status` after a report of the flow. -/
def confirm (call : Call) (outcomes : List ProcessOutcome) (message : AgentMessage)
    (messages : List AgentMessage) : Agent × List Effect :=
  let reply := env.call config (.acknowledgeOutboundStatus message.messageId) (env.clock 0) agent.db
  let agent := { agent with db := reply.db }
  let effects := Effect.ofEvents reply.events
  match reply.result with
  | .error e => agent.finish effects (.error (.processing (.storage e)))
  | .ok _ => ({ agent with flow := .delivering call outcomes messages }, effects)

/-- One step of the call that holds `flow_lock`. -/
def flowStep : Option (Agent × List Effect) :=
  match agent.flow with
  | .idle => none
  | .acknowledging receipt acknowledgement => some (agent.acknowledge env receipt acknowledgement)
  | .readingReceipts call => some (agent.readReceipts config env call)
  | .reportingReceipts call [] => some ({ agent with flow := .reading call }, [])
  | .reportingReceipts call (message :: messages) =>
      some (agent.report env message (.reportingReceipts call messages))
  | .reading call => some (agent.readPending config env call)
  | .draining drain => some (agent.nextJob config env drain)
  | .processing drain stored stage => some (agent.processStage config env drain stored stage)
  | .waiting call outcomes =>
      if agent.replaying then none
      else
        some ({ agent with
          flow := .delivering call outcomes (outcomes.filterMap ProcessOutcome.message) }, [])
  | .delivering call outcomes [] => some (agent.finish [] (.ok (call.result outcomes)))
  | .delivering call outcomes (message :: messages) =>
      some (agent.report env message (.confirming call outcomes message messages))
  | .confirming call outcomes message messages =>
      some (agent.confirm config env call outcomes message messages)

/-! ## Steps of the replay -/

/-- The replay ends. -/
def returnReplay (effects : List Effect) (result : Except AgentRuntimeError ℕ) :
    Agent × List Effect :=
  ({ agent with replay := .idle }, effects ++ [.replayReturned result])

/-- `DEFAULT_OUTBOUND_STATUS_BATCH_SIZE`. -/
def defaultOutboundStatusBatchSize : ℕ := 256

/-- A batch is read; an empty one ends the replay. -/
def readBatch (delivered : ℕ) : Agent × List Effect :=
  let reply :=
    env.call config (.pendingOutboundStatuses defaultOutboundStatusBatchSize) (env.clock 0) agent.db
  match reply.result with
  | .error e => agent.returnReplay [] (.error (.processing (.storage e)))
  | .ok [] => agent.returnReplay [] (.ok delivered)
  | .ok statuses =>
    ({ agent with replay := .delivering delivered statuses.length statuses }, [])

/-- The message of a stored status, once it has been checked against its row. -/
def replayedMessage (status : StoredOutboundStatus Json.Value) :
    Except AgentRuntimeError AgentMessage := do
  let message ←
    (config.agentMessageFromValue status.payload).mapError fun e => .processing (.json e)
  message.validate.mapError fun e => .processing (.protocol e)
  (validateOutboundStatus status.messageId status.jobId message).mapError
    (.invalidOutboundStatus status.messageId)
  .ok message

/-- The next status of a batch is reported. -/
def replayNext (delivered batchLen : ℕ) (status : StoredOutboundStatus Json.Value)
    (statuses : List (StoredOutboundStatus Json.Value)) : Agent × List Effect :=
  match replayedMessage config status with
  | .error e => agent.returnReplay [] (.error e)
  | .ok message =>
    if env.delivered then
      ({ agent with replay := .confirming delivered batchLen message statuses },
        [.handed message true])
    else agent.returnReplay [.handed message false] (.error (.reporting message))

/-- `acknowledge_outbound_status` after a report of the replay. -/
def confirmReplayed (delivered batchLen : ℕ) (message : AgentMessage)
    (statuses : List (StoredOutboundStatus Json.Value)) : Agent × List Effect :=
  let reply := env.call config (.acknowledgeOutboundStatus message.messageId) (env.clock 0) agent.db
  let agent := { agent with db := reply.db }
  let effects := Effect.ofEvents reply.events
  match reply.result with
  | .error e => agent.returnReplay effects (.error (.processing (.storage e)))
  | .ok _ => ({ agent with replay := .delivering (delivered + 1) batchLen statuses }, effects)

/-- One step of `replay_outbound_reports`. -/
def replayStep : Option (Agent × List Effect) :=
  match agent.replay with
  | .idle => none
  | .reading delivered => some (agent.readBatch config env delivered)
  | .delivering delivered batchLen [] =>
      if batchLen < defaultOutboundStatusBatchSize then
        some (agent.returnReplay [] (.ok delivered))
      else some ({ agent with replay := .reading delivered }, [])
  | .delivering delivered batchLen (status :: statuses) =>
      some (agent.replayNext config env delivered batchLen status statuses)
  | .confirming delivered batchLen message statuses =>
      some (agent.confirmReplayed config env delivered batchLen message statuses)

/-! ## Cancellation and restart -/

/-- `cancel_job`. -/
def cancelJob (jobId : String) : Agent × List Effect :=
  match TypedIdentifier.new .printJob jobId with
  | .error e => (agent, [.cancelReturned (.error (.processing (.identifier e)))])
  | .ok id =>
    if agent.active.any fun entry => entry.1 = id then
      ({ agent with
          active := agent.active.map fun entry =>
            if entry.1 = id then (entry.1, true) else entry },
        [.cancelReturned (.ok (.cancellationRequested id))])
    else
      let answer := cancelQueued config env id agent.db
      ({ agent with db := answer.db },
        Effect.ofEvents answer.events ++
          [.cancelReturned (answer.result.mapError .processing)])

/-- The process dies and is started again. -/
def restart (openedAt recoveredAt : Timestamp) : Agent × List Effect :=
  let opened : Operation Json.Value TerminalRetentionResult := .maintainTerminalJobs
  let recovered : Operation Json.Value RecoveryResult := .recoverInterrupted
  let kept := (opened.run config.storage openedAt agent.db).2
  ({ db := (recovered.run config.storage recoveredAt kept).2
     active := []
     flow := .idle
     replay := .idle },
    Effect.ofEvents (opened.events config.storage openedAt agent.db ++
      recovered.events config.storage recoveredAt kept))

/-! ## The machine -/

/-- Whether no call holds `flow_lock`. -/
def isIdle : Bool :=
  match agent.flow with
  | .idle => true
  | _ => false

/-- Whether the flow holds `outbox_lock`. -/
def reporting : Bool :=
  match agent.flow with
  | .delivering _ _ _ | .confirming _ _ _ _ => true
  | _ => false

/-- One step of the agent; a call that has to wait for a lock is not enabled. -/
def step : Action → Option (Agent × List Effect)
  | .handlePrintJob message env =>
      if agent.isIdle then some (agent.startHandlePrintJob config env message) else none
  | .processPending =>
      if agent.isIdle then some ({ agent with flow := .readingReceipts .processPending }, [])
      else none
  | .recover env => if agent.isIdle then some (agent.startRecover config env) else none
  | .replayOutboundReports =>
      if agent.replaying || agent.reporting then none
      else some ({ agent with replay := .reading 0 }, [])
  | .cancelJob jobId env => some (agent.cancelJob config env jobId)
  | .restart openedAt recoveredAt => some (agent.restart config openedAt recoveredAt)
  | .advance env => agent.flowStep config env
  | .advanceReplay env => agent.replayStep config env

end Agent

/-- The agent as a machine. -/
def agentSystem (config : AgentConfig) : History.System Agent Action Effect where
  step := Agent.step config

/-! ## One delivery, end to end -/

namespace Sample

/-- The time the samples happen at: 2026-07-01T09:00:00.000Z. -/
def morning : Timestamp := ⟨1782896400000⟩

/-- A receipt that only cuts the paper. -/
def job (id : String) : PrintJob where
  jobId := id
  idempotencyKey := "delivery:" ++ id
  printerId := "printer_1"
  createdAt := "2026-07-01T09:00:00.000Z"
  document := .receipt { width := .mm58, sections := [.cut] }
  metadata := none

/-- The identifiers of the jobs the samples deliver. -/
def firstId : PrintJobId := ⟨"job_1", by decide⟩

def secondId : PrintJobId := ⟨"job_2", by decide⟩

/-- The message that delivers a job. -/
def delivery (id : String) : ServerMessage where
  protocolVersion := .base
  messageId := "server_" ++ id
  sentAt := "2026-07-01T09:00:00.000Z"
  correlationId := none
  kind := .printJob (job id)

/-- The status of its submission. -/
def submitted (id : String) (uuid : Uuid) : AgentMessage where
  protocolVersion := .base
  messageId := "msg_" ++ uuid.simple
  sentAt := "2026-07-01T09:00:00.000Z"
  correlationId := some ("server_" ++ id)
  kind := .jobSubmitted
    { jobId := id
      idempotencyKey := "delivery:" ++ id
      printerId := "printer_1"
      status := .submitted
      submittedAt := "2026-07-01T09:00:00.000Z" }

/-- The jobs the samples deliver. -/
def jobs : List PrintJob := [job "job_1", job "job_2"]

/-- The libraries on these jobs and on the statuses `messages`. -/
def libraries (messages : List AgentMessage) : Libraries where
  fromStr text :=
    (jobs.map PrintJob.toValue ++ messages.map AgentMessage.toValue).find? fun value =>
      value.toString = text
  sha256Hex text :=
    if text = (job "job_1").toValue.toString then
      "f95ca355a6b5566a2796ea0416120d748030495c1c6a0996d022aa9b82de06fe"
    else "d1028efe3b353354955b9262998938a3b3a851b1769e246edac78abb61653d94"
  display _ := "2026-07-01T09:00:00.000Z"
  printJobFromValue value :=
    ((jobs.find? fun job => job.toValue = value).map .ok).getD (.error "invalid job")
  agentMessageFromValue value :=
    ((messages.find? fun message => message.toValue = value).map .ok).getD (.error "invalid message")

def config (messages : List AgentMessage) : AgentConfig where
  toLibraries := libraries messages
  limits := .default
  documents := false

/-- A virtual receipt printer. -/
def printer : Printer.PrinterRef where
  id := ⟨"printer_1", by decide⟩
  displayName := "Counter"
  connection := .virtual "printer_1"
  submissionMode := .raw .escPos
  virtualProfile := some (.escPosReceipt 58)
  enabled := true

/-- Surroundings in which everything works; identifiers are drawn from `n` on. -/
def env (n : ℕ) : Env where
  fault := .absent
  clock _ := morning
  uuid i := BitVec.ofNat 128 (n + i)
  delivered := true
  printer := .ok (some printer)
  rendered := .ok ()
  fetched := .ok ()
  renderedPdf := .ok (.ok ())
  submission :=
    .ok { backendJobId := none, backend := "virtual", acceptedAt := morning, metadata := [] }

/-- As many steps of the flow, identifiers drawn from `n` on. -/
def advances (n count : ℕ) : List Action := (List.range count).map fun i => .advance (env (n + i))

/-- A delivery and everything that follows from it. -/
def deliverOne : List Action := .handlePrintJob (delivery "job_1") (env 1) :: advances 2 12

/-- What a list of actions leads to. -/
def run (messages : List AgentMessage) (actions : List Action) : List Effect × Agent :=
  (agentSystem (config messages)).run (fun _ _ _ => true) .initial actions

end Sample

end Oppa
