import Oppa.Agent.Runtime
import Oppa.Storage.Lineage

/-!
# What one step of the agent does

`AgentStep` lists everything a step can do, with the state before and after it written out and the
repository call it rests on.  **`step_cases`** is the one place that unfolds the machine; the laws
of the agent are proved by cases on `AgentStep`.

* `Agent.repositoryEvents` — the history of the tables, read off the history of the agent.
* **`committed_of_runs`** — the tables of an agent are reached by commits, so that everything known
  about the store holds of them.
-/

namespace Oppa

open Protocol History

variable {config : AgentConfig}

/-- **What one step can do.** -/
inductive AgentStep (config : AgentConfig) : Agent → Action → List Effect → Agent → Prop
  -- calls
  | received {db db' active replay message env receipt acknowledgement events} :
      receivePrintJob config env message db = ⟨.ok receipt, db', events⟩ →
      receipt.acknowledgement = some acknowledgement →
      AgentStep config ⟨db, active, .idle, replay⟩ (.handlePrintJob message env)
        (Effect.ofEvents events) ⟨db', active, .acknowledging receipt acknowledgement, replay⟩
  | receivedConflict {db db' active replay message env receipt events} :
      receivePrintJob config env message db = ⟨.ok receipt, db', events⟩ →
      receipt.acknowledgement = none →
      AgentStep config ⟨db, active, .idle, replay⟩ (.handlePrintJob message env)
        (Effect.ofEvents events ++ [.flowReturned (.ok (.printJob receipt []))])
        ⟨db', active, .idle, replay⟩
  | receiveFailed {db db' active replay message env e events} :
      receivePrintJob config env message db = ⟨.error e, db', events⟩ →
      AgentStep config ⟨db, active, .idle, replay⟩ (.handlePrintJob message env)
        (Effect.ofEvents events ++ [.flowReturned (.error (.processing e))])
        ⟨db', active, .idle, replay⟩
  | pendingStarted {db active replay} :
      AgentStep config ⟨db, active, .idle, replay⟩ .processPending []
        ⟨db, active, .readingReceipts .processPending, replay⟩
  | recoverStarted {db db' active replay env recovery events} :
      env.call config .recoverInterrupted (env.clock 0) db = ⟨.ok recovery, db', events⟩ →
      AgentStep config ⟨db, active, .idle, replay⟩ (.recover env) (Effect.ofEvents events)
        ⟨db', active, .readingReceipts (.recover recovery), replay⟩
  | recoverFailed {db db' active replay env e events} :
      env.call config .recoverInterrupted (env.clock 0) db = ⟨.error e, db', events⟩ →
      AgentStep config ⟨db, active, .idle, replay⟩ (.recover env)
        (Effect.ofEvents events ++ [.flowReturned (.error (.processing (.storage e)))])
        ⟨db', active, .idle, replay⟩
  | cancelInvalid {agent jobId env e} :
      AgentStep config agent (.cancelJob jobId env)
        [.cancelReturned (.error (.processing (.identifier e)))] agent
  | cancelRequested {db active flow replay jobId env id} :
      AgentStep config ⟨db, active, flow, replay⟩ (.cancelJob jobId env)
        [.cancelReturned (.ok (.cancellationRequested id))]
        ⟨db, active.map fun entry => if entry.1 = id then (entry.1, true) else entry, flow, replay⟩
  | cancelAnswered {db active flow replay jobId env id} :
      (∀ entry ∈ active, entry.1 ≠ id) →
      AgentStep config ⟨db, active, flow, replay⟩ (.cancelJob jobId env)
        (Effect.ofEvents (cancelQueued config env id db).events ++
          [.cancelReturned ((cancelQueued config env id db).result.mapError .processing)])
        ⟨(cancelQueued config env id db).db, active, flow, replay⟩
  | restarted {agent openedAt recoveredAt} :
      AgentStep config agent (.restart openedAt recoveredAt)
        (agent.restart config openedAt recoveredAt).2 (agent.restart config openedAt recoveredAt).1
  -- reports of the flow
  | acknowledged {db active replay env receipt acknowledgement} :
      env.delivered = true → receipt.wasInserted = true →
      AgentStep config ⟨db, active, .acknowledging receipt acknowledgement, replay⟩ (.advance env)
        [.handed acknowledgement true] ⟨db, active, .reading (.handlePrintJob receipt), replay⟩
  | acknowledgedAgain {db active replay env receipt acknowledgement} :
      receipt.wasInserted = false →
      AgentStep config ⟨db, active, .acknowledging receipt acknowledgement, replay⟩ (.advance env)
        [.handed acknowledgement true, .flowReturned (.ok (.printJob receipt []))]
        ⟨db, active, .idle, replay⟩
  | acknowledgementRefused {db active replay env receipt acknowledgement} :
      AgentStep config ⟨db, active, .acknowledging receipt acknowledgement, replay⟩ (.advance env)
        [.handed acknowledgement false, .flowReturned (.error (.reporting acknowledgement))]
        ⟨db, active, .idle, replay⟩
  | receiptReported {db active replay env call message messages} :
      AgentStep config ⟨db, active, .reportingReceipts call (message :: messages), replay⟩
        (.advance env) [.handed message true]
        ⟨db, active, .reportingReceipts call messages, replay⟩
  | receiptRefused {db active replay env call message messages} :
      AgentStep config ⟨db, active, .reportingReceipts call (message :: messages), replay⟩
        (.advance env) [.handed message false, .flowReturned (.error (.reporting message))]
        ⟨db, active, .idle, replay⟩
  | statusReported {db active replay env call outcomes message messages} :
      AgentStep config ⟨db, active, .delivering call outcomes (message :: messages), replay⟩
        (.advance env) [.handed message true]
        ⟨db, active, .confirming call outcomes message messages, replay⟩
  | statusRefused {db active replay env call outcomes message messages} :
      AgentStep config ⟨db, active, .delivering call outcomes (message :: messages), replay⟩
        (.advance env) [.handed message false, .flowReturned (.error (.reporting message))]
        ⟨db, active, .idle, replay⟩
  -- reads of the flow
  | receiptsRead {db active replay env call stored messages} :
      env.call config .pending (env.clock 0) db = ⟨.ok stored, db, []⟩ →
      pendingReceipts config env stored = .ok messages →
      AgentStep config ⟨db, active, .readingReceipts call, replay⟩ (.advance env) []
        ⟨db, active, .reportingReceipts call messages, replay⟩
  | receiptsUnread {db active replay env call e} :
      AgentStep config ⟨db, active, .readingReceipts call, replay⟩ (.advance env)
        [.flowReturned (.error (.processing e))] ⟨db, active, .idle, replay⟩
  | receiptsDone {db active replay env call} :
      AgentStep config ⟨db, active, .reportingReceipts call [], replay⟩ (.advance env) []
        ⟨db, active, .reading call, replay⟩
  | snapshotTaken {db active replay env call stored} :
      env.call config .pending (env.clock 0) db = ⟨.ok stored, db, []⟩ →
      AgentStep config ⟨db, active, .reading call, replay⟩ (.advance env)
        [.drainStarted (stored.map StoredPrintJob.id)]
        ⟨db, active, .draining ⟨call, [], stored⟩, replay⟩
  | snapshotFailed {db active replay env call e} :
      AgentStep config ⟨db, active, .reading call, replay⟩ (.advance env)
        [.flowReturned (.error (.processing e))] ⟨db, active, .idle, replay⟩
  -- the drain
  | drainEnded {db active replay env call outcomes} :
      AgentStep config ⟨db, active, .draining ⟨call, outcomes, []⟩, replay⟩ (.advance env)
        [.drained (.ok outcomes)] ⟨db, active, .waiting call outcomes, replay⟩
  | jobTaken {db active replay env call outcomes stored queue} :
      AgentStep config ⟨db, active, .draining ⟨call, outcomes, stored :: queue⟩, replay⟩
        (.advance env) []
        ⟨db, active, .processing ⟨call, outcomes, queue⟩ stored (prepare config env stored), replay⟩
  | documentFetched {db active replay env drain stored job} :
      AgentStep config ⟨db, active, .processing drain stored (.fetching job), replay⟩ (.advance env)
        [.documentRequested stored.id]
        ⟨db, active, .processing drain stored (finishFetch env job), replay⟩
  | persisted {db db' active replay env drain stored job failure outcome events} :
      persistFailure config env stored job failure db = ⟨.ok outcome, db', events⟩ →
      AgentStep config ⟨db, active, .processing drain stored (.persisting job failure), replay⟩
        (.advance env) (Effect.ofEvents events) ⟨db', active, .draining (drain.push outcome), replay⟩
  | persistFailed {db db' active replay env drain stored job failure e events} :
      persistFailure config env stored job failure db = ⟨.error e, db', events⟩ →
      AgentStep config ⟨db, active, .processing drain stored (.persisting job failure), replay⟩
        (.advance env)
        (Effect.ofEvents events ++ [.drained (.error e), .flowReturned (.error (.processing e))])
        ⟨db', active, .idle, replay⟩
  | claimed {db db' active replay env drain stored job events} :
      claim config env stored db = ⟨.ok .claimed, db', events⟩ →
      AgentStep config ⟨db, active, .processing drain stored (.claiming job), replay⟩ (.advance env)
        (Effect.ofEvents events)
        ⟨db', (stored.id, false) :: active.filter fun entry => entry.1 ≠ stored.id,
          .processing drain stored (.claimed job), replay⟩
  | skipped {db db' active replay env drain stored job state events} :
      claim config env stored db = ⟨.ok (.skipped state), db', events⟩ →
      AgentStep config ⟨db, active, .processing drain stored (.claiming job), replay⟩ (.advance env)
        (Effect.ofEvents events)
        ⟨db', active, .draining (drain.push (.skipped stored.id state)), replay⟩
  | claimFailed {db db' active replay env drain stored job e events} :
      claim config env stored db = ⟨.error e, db', events⟩ →
      AgentStep config ⟨db, active, .processing drain stored (.claiming job), replay⟩ (.advance env)
        (Effect.ofEvents events ++ [.drained (.error e), .flowReturned (.error (.processing e))])
        ⟨db', active, .idle, replay⟩
  | submitCalled {db active replay env drain stored job} :
      AgentStep config ⟨db, active, .processing drain stored (.claimed job), replay⟩ (.advance env)
        [.submitCalled stored.id stored.idempotencyKey]
        ⟨db, active, .processing drain stored (.submitting job), replay⟩
  | submitReturned {db active replay env drain stored job accepted} :
      (accepted = true ↔ ∃ receipt, env.submission = .ok receipt) →
      AgentStep config ⟨db, active, .processing drain stored (.submitting job), replay⟩
        (.advance env) [.submitReturned stored.id accepted]
        ⟨db, active, .processing drain stored (.settling job env.submission), replay⟩
  | settled {db db' active replay env drain stored job submission cancelled outcome events} :
      settle config env stored job submission cancelled db = ⟨.ok outcome, db', events⟩ →
      AgentStep config ⟨db, active, .processing drain stored (.settling job submission), replay⟩
        (.advance env)
        (Effect.ofEvents events ++
          [.released stored.id ((db'.job stored.id).map PrintJobRow.state)])
        ⟨db', active.filter fun entry => entry.1 ≠ stored.id, .draining (drain.push outcome), replay⟩
  | settleFailed {db db' active replay env drain stored job submission cancelled e events} :
      settle config env stored job submission cancelled db = ⟨.error e, db', events⟩ →
      AgentStep config ⟨db, active, .processing drain stored (.settling job submission), replay⟩
        (.advance env)
        (Effect.ofEvents events ++
          [.released stored.id ((db'.job stored.id).map PrintJobRow.state),
            .drained (.error e), .flowReturned (.error (.processing e))])
        ⟨db', active.filter fun entry => entry.1 ≠ stored.id, .idle, replay⟩
  -- outcomes
  | lockTaken {db active env call outcomes} :
      AgentStep config ⟨db, active, .waiting call outcomes, .idle⟩ (.advance env) []
        ⟨db, active, .delivering call outcomes (outcomes.filterMap ProcessOutcome.message), .idle⟩
  | flowEnded {db active replay env call outcomes} :
      AgentStep config ⟨db, active, .delivering call outcomes [], replay⟩ (.advance env)
        [.flowReturned (.ok (call.result outcomes))] ⟨db, active, .idle, replay⟩
  | confirmed {db db' active replay env call outcomes message messages existed events} :
      env.call config (.acknowledgeOutboundStatus message.messageId) (env.clock 0) db
        = ⟨.ok existed, db', events⟩ →
      AgentStep config ⟨db, active, .confirming call outcomes message messages, replay⟩
        (.advance env) (Effect.ofEvents events)
        ⟨db', active, .delivering call outcomes messages, replay⟩
  | confirmFailed {db db' active replay env call outcomes message messages e events} :
      env.call config (.acknowledgeOutboundStatus message.messageId) (env.clock 0) db
        = ⟨.error e, db', events⟩ →
      AgentStep config ⟨db, active, .confirming call outcomes message messages, replay⟩
        (.advance env)
        (Effect.ofEvents events ++ [.flowReturned (.error (.processing (.storage e)))])
        ⟨db', active, .idle, replay⟩
  -- the replay
  | replayStarted {db active flow} :
      (⟨db, active, flow, .idle⟩ : Agent).reporting = false →
      AgentStep config ⟨db, active, flow, .idle⟩ .replayOutboundReports []
        ⟨db, active, flow, .reading 0⟩
  | batchRead {db active flow env delivered statuses} :
      env.call config (.pendingOutboundStatuses Agent.defaultOutboundStatusBatchSize) (env.clock 0) db
        = ⟨.ok statuses, db, []⟩ →
      AgentStep config ⟨db, active, flow, .reading delivered⟩ (.advanceReplay env) []
        ⟨db, active, flow, .delivering delivered statuses.length statuses⟩
  | replayReported {db active flow env delivered batchLen status statuses message} :
      Agent.replayedMessage config status = .ok message →
      AgentStep config ⟨db, active, flow, .delivering delivered batchLen (status :: statuses)⟩
        (.advanceReplay env) [.handed message true]
        ⟨db, active, flow, .confirming delivered batchLen message statuses⟩
  | replayRefused {db active flow env delivered batchLen status statuses message} :
      Agent.replayedMessage config status = .ok message →
      AgentStep config ⟨db, active, flow, .delivering delivered batchLen (status :: statuses)⟩
        (.advanceReplay env)
        [.handed message false, .replayReturned (.error (.reporting message))]
        ⟨db, active, flow, .idle⟩
  | replayConfirmed {db db' active flow env delivered batchLen message statuses existed events} :
      env.call config (.acknowledgeOutboundStatus message.messageId) (env.clock 0) db
        = ⟨.ok existed, db', events⟩ →
      AgentStep config ⟨db, active, flow, .confirming delivered batchLen message statuses⟩
        (.advanceReplay env) (Effect.ofEvents events)
        ⟨db', active, flow, .delivering (delivered + 1) batchLen statuses⟩
  | replayConfirmFailed {db db' active flow env delivered batchLen message statuses e events} :
      env.call config (.acknowledgeOutboundStatus message.messageId) (env.clock 0) db
        = ⟨.error e, db', events⟩ →
      AgentStep config ⟨db, active, flow, .confirming delivered batchLen message statuses⟩
        (.advanceReplay env)
        (Effect.ofEvents events ++ [.replayReturned (.error (.processing (.storage e)))])
        ⟨db', active, flow, .idle⟩
  | batchDone {db active flow env delivered batchLen} :
      AgentStep config ⟨db, active, flow, .delivering delivered batchLen []⟩ (.advanceReplay env) []
        ⟨db, active, flow, .reading delivered⟩
  | replayEnded {db active flow replay env result} :
      AgentStep config ⟨db, active, flow, replay⟩ (.advanceReplay env) [.replayReturned result]
        ⟨db, active, flow, .idle⟩

/-! ## Every step is one of them -/

/-- A call that only reads leaves the tables alone and shows nothing. -/
lemma call_read {env : Env} {α : Type} {op : Operation Json.Value α} {now : Timestamp}
    {db : Database} (hrun : (op.run config.storage now db).2 = db)
    (hevents : op.events config.storage now db = []) :
    env.call config op now db = ⟨(env.call config op now db).result, db, []⟩ := by
  unfold Env.call
  cases env.fault <;> simp [hrun, hevents]

lemma call_pending {env : Env} {now : Timestamp} {db : Database} :
    env.call config .pending now db = ⟨(env.call config .pending now db).result, db, []⟩ := by
  refine call_read rfl ?_
  simp only [Operation.events, Operation.run, effectsOf]
  split <;> rfl

lemma call_pendingOutboundStatuses {env : Env} {limit : ℕ} {now : Timestamp} {db : Database} :
    env.call config (.pendingOutboundStatuses limit) now db
      = ⟨(env.call config (.pendingOutboundStatuses limit) now db).result, db, []⟩ := by
  refine call_read rfl ?_
  simp only [Operation.events, Operation.run, effectsOf]
  split <;> rfl

section Cases

variable {db : Database} {active : List (PrintJobId × Bool)} {flow : Flow} {replay : Replay}
  {agent agent' : Agent} {action : Action} {env : Env} {effects : List Effect}

lemma startHandlePrintJob_cases {message : ServerMessage} :
    AgentStep config ⟨db, active, .idle, replay⟩ (.handlePrintJob message env)
      (Agent.startHandlePrintJob config env ⟨db, active, .idle, replay⟩ message).2
      (Agent.startHandlePrintJob config env ⟨db, active, .idle, replay⟩ message).1 := by
  unfold Agent.startHandlePrintJob
  rcases hanswer : receivePrintJob config env message db with ⟨result, db', events⟩
  simp only
  cases result with
  | error e => exact .receiveFailed hanswer
  | ok receipt =>
      cases hack : receipt.acknowledgement with
      | some acknowledgement => simpa only [hack] using AgentStep.received hanswer hack
      | none => simpa only [hack, Agent.finish] using AgentStep.receivedConflict hanswer hack

lemma startRecover_cases :
    AgentStep config ⟨db, active, .idle, replay⟩ (.recover env)
      (Agent.startRecover config env ⟨db, active, .idle, replay⟩).2
      (Agent.startRecover config env ⟨db, active, .idle, replay⟩).1 := by
  unfold Agent.startRecover
  rcases hreply : env.call config .recoverInterrupted (env.clock 0) db with ⟨result, db', events⟩
  simp only
  cases result with
  | error e => exact .recoverFailed hreply
  | ok recovery => exact .recoverStarted hreply

lemma cancelJob_cases {jobId : String} :
    AgentStep config ⟨db, active, flow, replay⟩ (.cancelJob jobId env)
      (Agent.cancelJob config env ⟨db, active, flow, replay⟩ jobId).2
      (Agent.cancelJob config env ⟨db, active, flow, replay⟩ jobId).1 := by
  unfold Agent.cancelJob
  cases TypedIdentifier.new .printJob jobId with
  | error e => exact .cancelInvalid
  | ok id =>
      simp only
      split
      · exact .cancelRequested
      · rename_i hactive
        refine .cancelAnswered fun entry hentry hid => hactive ?_
        exact List.any_eq_true.mpr ⟨entry, hentry, decide_eq_true hid⟩

lemma processStage_cases {drain : Drain} {stored : StoredPrintJob Json.Value} {stage : Stage} :
    AgentStep config ⟨db, active, .processing drain stored stage, replay⟩ (.advance env)
      (Agent.processStage config env ⟨db, active, .processing drain stored stage, replay⟩ drain
        stored stage).2
      (Agent.processStage config env ⟨db, active, .processing drain stored stage, replay⟩ drain
        stored stage).1 := by
  cases stage with
  | fetching job => exact .documentFetched
  | persisting job failure =>
      simp only [Agent.processStage, Agent.persist, Agent.conclude]
      rcases hanswer : persistFailure config env stored job failure db with ⟨result, db', events⟩
      cases result with
      | ok outcome => exact .persisted hanswer
      | error e =>
          simpa [Agent.abandon, Agent.finish] using AgentStep.persistFailed hanswer
  | claiming job =>
      simp only [Agent.processStage, Agent.claimJob, Agent.conclude]
      rcases hanswer : claim config env stored db with ⟨result, db', events⟩
      cases result with
      | ok outcome =>
          cases outcome with
          | claimed => exact .claimed hanswer
          | skipped state => exact .skipped hanswer
      | error e => simpa [Agent.abandon, Agent.finish] using AgentStep.claimFailed hanswer
  | claimed job => exact .submitCalled
  | submitting job =>
      refine .submitReturned ?_
      cases env.submission <;> simp
  | settling job submission =>
      simp only [Agent.processStage, Agent.settleJob, Agent.conclude]
      rcases hanswer : settle config env stored job submission
        (Agent.isCancelled ⟨db, active, .processing drain stored (.settling job submission), replay⟩
          stored.id) db with ⟨result, db', events⟩
      cases result with
      | ok outcome => exact .settled hanswer
      | error e => simpa [Agent.abandon, Agent.finish] using AgentStep.settleFailed hanswer

lemma flowStep_cases
    (h : Agent.flowStep config env ⟨db, active, flow, replay⟩ = some (agent', effects)) :
    AgentStep config ⟨db, active, flow, replay⟩ (.advance env) effects agent' := by
  cases flow with
  | idle => simp [Agent.flowStep] at h
  | acknowledging receipt acknowledgement =>
      simp only [Agent.flowStep, Agent.acknowledge, Agent.report, Option.some.injEq] at h
      cases hins : receipt.wasInserted <;> cases hdel : env.delivered <;>
        simp [hins, hdel, Agent.finish] at h <;> obtain ⟨rfl, rfl⟩ := h
      · exact .acknowledgementRefused
      · exact .acknowledgedAgain hins
      · exact .acknowledgementRefused
      · exact .acknowledged hdel hins
  | readingReceipts call =>
      simp only [Agent.flowStep, Agent.readReceipts, Option.some.injEq] at h
      have hread := @call_pending config env (env.clock 0) db
      cases hresult : (env.call config .pending (env.clock 0) db).result with
      | error e =>
          simp only [hresult, Except.mapError, Except.bind, Agent.finish, Prod.mk.injEq] at h
          obtain ⟨rfl, rfl⟩ := h
          exact .receiptsUnread
      | ok stored =>
          rw [hresult] at hread
          simp only [hresult, Except.mapError, Except.bind] at h
          cases hmessages : pendingReceipts config env stored with
          | error e =>
              simp only [hmessages, Agent.finish, Prod.mk.injEq] at h
              obtain ⟨rfl, rfl⟩ := h
              exact .receiptsUnread
          | ok messages =>
              simp only [hmessages, Prod.mk.injEq] at h
              obtain ⟨rfl, rfl⟩ := h
              exact .receiptsRead hread hmessages
  | reportingReceipts call messages =>
      cases messages with
      | nil =>
          simp only [Agent.flowStep, Option.some.injEq, Prod.mk.injEq] at h
          obtain ⟨rfl, rfl⟩ := h
          exact .receiptsDone
      | cons message messages =>
          simp only [Agent.flowStep, Agent.report, Option.some.injEq] at h
          cases hdel : env.delivered <;> simp [hdel, Agent.finish] at h <;> obtain ⟨rfl, rfl⟩ := h
          · exact .receiptRefused
          · exact .receiptReported
  | reading call =>
      simp only [Agent.flowStep, Agent.readPending, Option.some.injEq] at h
      have hread := @call_pending config env (env.clock 0) db
      cases hresult : (env.call config .pending (env.clock 0) db).result with
      | error e =>
          simp only [hresult, Agent.finish, Prod.mk.injEq] at h
          obtain ⟨rfl, rfl⟩ := h
          exact .snapshotFailed
      | ok stored =>
          rw [hresult] at hread
          simp only [hresult, Prod.mk.injEq] at h
          obtain ⟨rfl, rfl⟩ := h
          exact .snapshotTaken hread
  | draining drain =>
      obtain ⟨call, outcomes, queue⟩ := drain
      cases queue with
      | nil =>
          simp only [Agent.flowStep, Agent.nextJob, Option.some.injEq, Prod.mk.injEq] at h
          obtain ⟨rfl, rfl⟩ := h
          exact .drainEnded
      | cons stored queue =>
          simp only [Agent.flowStep, Agent.nextJob, Option.some.injEq, Prod.mk.injEq] at h
          obtain ⟨rfl, rfl⟩ := h
          exact .jobTaken
  | processing drain stored stage =>
      simp only [Agent.flowStep, Option.some.injEq] at h
      have hstage := @processStage_cases config db active replay env drain stored stage
      rwa [h] at hstage
  | waiting call outcomes =>
      cases replay <;> simp [Agent.flowStep, Agent.replaying] at h
      obtain ⟨rfl, rfl⟩ := h
      exact .lockTaken
  | delivering call outcomes messages =>
      cases messages with
      | nil =>
          simp only [Agent.flowStep, Agent.finish, Option.some.injEq, Prod.mk.injEq] at h
          obtain ⟨rfl, rfl⟩ := h
          exact .flowEnded
      | cons message messages =>
          simp only [Agent.flowStep, Agent.report, Option.some.injEq] at h
          cases hdel : env.delivered <;> simp [hdel, Agent.finish] at h <;> obtain ⟨rfl, rfl⟩ := h
          · exact .statusRefused
          · exact .statusReported
  | confirming call outcomes message messages =>
      simp only [Agent.flowStep, Agent.confirm, Option.some.injEq] at h
      rcases hreply : env.call config (.acknowledgeOutboundStatus message.messageId) (env.clock 0) db
        with ⟨result, db', events⟩
      rw [hreply] at h
      cases result with
      | error e =>
          simp only [Agent.finish, Prod.mk.injEq] at h
          obtain ⟨rfl, rfl⟩ := h
          exact .confirmFailed hreply
      | ok existed =>
          simp only [Prod.mk.injEq] at h
          obtain ⟨rfl, rfl⟩ := h
          exact .confirmed hreply

lemma replayStep_cases
    (h : Agent.replayStep config env ⟨db, active, flow, replay⟩ = some (agent', effects)) :
    AgentStep config ⟨db, active, flow, replay⟩ (.advanceReplay env) effects agent' := by
  cases replay with
  | idle => simp [Agent.replayStep] at h
  | reading delivered =>
      simp only [Agent.replayStep, Agent.readBatch, Option.some.injEq] at h
      have hread := @call_pendingOutboundStatuses config env Agent.defaultOutboundStatusBatchSize (env.clock 0) db
      cases hresult : (env.call config
        (.pendingOutboundStatuses Agent.defaultOutboundStatusBatchSize) (env.clock 0) db).result with
      | error e =>
          simp only [hresult, Agent.returnReplay, List.nil_append, Prod.mk.injEq] at h
          obtain ⟨rfl, rfl⟩ := h
          exact .replayEnded
      | ok statuses =>
          rw [hresult] at hread
          cases statuses with
          | nil =>
              simp only [hresult, Agent.returnReplay, List.nil_append, Prod.mk.injEq] at h
              obtain ⟨rfl, rfl⟩ := h
              exact .replayEnded
          | cons status statuses =>
              simp only [hresult, Prod.mk.injEq] at h
              obtain ⟨rfl, rfl⟩ := h
              exact .batchRead hread
  | delivering delivered batchLen statuses =>
      cases statuses with
      | nil =>
          simp only [Agent.replayStep, Agent.returnReplay, List.nil_append] at h
          split at h
          · simp only [Option.some.injEq, Prod.mk.injEq] at h
            obtain ⟨rfl, rfl⟩ := h
            exact .replayEnded
          · simp only [Option.some.injEq, Prod.mk.injEq] at h
            obtain ⟨rfl, rfl⟩ := h
            exact .batchDone
      | cons status statuses =>
          simp only [Agent.replayStep, Agent.replayNext, Option.some.injEq] at h
          cases hmessage : Agent.replayedMessage config status with
          | error e =>
              simp only [hmessage, Agent.returnReplay, List.nil_append, Prod.mk.injEq] at h
              obtain ⟨rfl, rfl⟩ := h
              exact .replayEnded
          | ok message =>
              cases hdel : env.delivered <;>
                simp [hmessage, hdel, Agent.returnReplay] at h <;> obtain ⟨rfl, rfl⟩ := h
              · exact .replayRefused hmessage
              · exact .replayReported hmessage
  | confirming delivered batchLen message statuses =>
      simp only [Agent.replayStep, Agent.confirmReplayed, Option.some.injEq] at h
      rcases hreply : env.call config (.acknowledgeOutboundStatus message.messageId) (env.clock 0) db
        with ⟨result, db', events⟩
      rw [hreply] at h
      cases result with
      | error e =>
          simp only [Agent.returnReplay, Prod.mk.injEq] at h
          obtain ⟨rfl, rfl⟩ := h
          exact .replayConfirmFailed hreply
      | ok existed =>
          simp only [Prod.mk.injEq] at h
          obtain ⟨rfl, rfl⟩ := h
          exact .replayConfirmed hreply

/-- **Every step is one of the listed ones.** -/
theorem step_cases (h : agent.step config action = some (agent', effects)) :
    AgentStep config agent action effects agent' := by
  obtain ⟨db, active, flow, replay⟩ := agent
  cases action with
  | handlePrintJob message env =>
      cases flow <;> simp [Agent.step, Agent.isIdle] at h
      have hstep := @startHandlePrintJob_cases config db active replay env message
      rwa [h] at hstep
  | processPending =>
      cases flow <;> simp [Agent.step, Agent.isIdle] at h
      obtain ⟨rfl, rfl⟩ := h
      exact .pendingStarted
  | recover env =>
      cases flow <;> simp [Agent.step, Agent.isIdle] at h
      have hstep := @startRecover_cases config db active replay env
      rwa [h] at hstep
  | replayOutboundReports =>
      simp only [Agent.step] at h
      split at h
      · cases h
      · rename_i hlock
        rw [Bool.not_eq_true, Bool.or_eq_false_iff] at hlock
        simp only [Option.some.injEq, Prod.mk.injEq] at h
        obtain ⟨rfl, rfl⟩ := h
        cases replay with
        | idle => exact .replayStarted hlock.2
        | _ => simp [Agent.replaying] at hlock
  | cancelJob jobId env =>
      simp only [Agent.step, Option.some.injEq] at h
      have hstep := @cancelJob_cases config db active flow replay env jobId
      rwa [h] at hstep
  | restart openedAt recoveredAt =>
      simp only [Agent.step, Option.some.injEq] at h
      have hstep : AgentStep config ⟨db, active, flow, replay⟩ (.restart openedAt recoveredAt) _ _ :=
        .restarted
      rwa [h] at hstep
  | advance env => exact flowStep_cases h
  | advanceReplay env => exact replayStep_cases h

end Cases

/-! ## The tables over a step -/

/-- The repository event an effect shows. -/
def Effect.event : Effect → Option RepositoryEvent
  | .repository event => some event
  | _ => none

/-- The history of the tables in a history of the agent. -/
def repositoryEvents (h : List Effect) : List RepositoryEvent := h.filterMap Effect.event

@[simp] lemma repositoryEvents_nil : repositoryEvents [] = [] := rfl

@[simp] lemma repositoryEvents_append (h es : List Effect) :
    repositoryEvents (h ++ es) = repositoryEvents h ++ repositoryEvents es :=
  List.filterMap_append

@[simp] lemma repositoryEvents_ofEvents (events : List RepositoryEvent) :
    repositoryEvents (Effect.ofEvents events) = events := by
  simp only [repositoryEvents, Effect.ofEvents, List.filterMap_map]
  exact List.filterMap_some

section Commits

variable {env : Env} {db db' : Database} {events : List RepositoryEvent}

lemma receivePrintJob_commit {message : ServerMessage}
    {result : Except JobProcessingError ReceiveJobOutcome}
    (h : receivePrintJob config env message db = ⟨result, db', events⟩) :
    Commit config.storage db events db' := by
  unfold receivePrintJob at h
  split at h
  · cases h
    exact .nothing
  · cases h
    exact Env.call_commit ..

lemma claim_commit {stored : StoredPrintJob Json.Value} {result : Except JobProcessingError Claim}
    (h : claim config env stored db = ⟨result, db', events⟩) :
    Commit config.storage db events db' := by
  unfold claim at h
  cases h
  exact Env.call_commit ..

lemma persistFailure_commit {stored : StoredPrintJob Json.Value} {job : Option PrintJob}
    {failure : JobFailure} {result : Except JobProcessingError ProcessOutcome}
    (h : persistFailure config env stored job failure db = ⟨result, db', events⟩) :
    Commit config.storage db events db' := by
  unfold persistFailure at h
  cases job with
  | none =>
      cases h
      exact Env.call_commit ..
  | some job =>
      simp only at h
      split at h
      · cases h
        exact .nothing
      · cases h
        exact Env.call_commit ..

lemma settle_commit {stored : StoredPrintJob Json.Value} {job : PrintJob}
    {submission : Except SpoolerError SubmissionReceipt} {cancelled : Bool}
    {result : Except JobProcessingError ProcessOutcome}
    (h : settle config env stored job submission cancelled db = ⟨result, db', events⟩) :
    Commit config.storage db events db' := by
  unfold settle at h
  cases submission with
  | ok receipt =>
      simp only at h
      split at h
      · cases h
        exact .nothing
      · cases h
        exact Env.call_commit ..
  | error e =>
      simp only at h
      split at h
      · cases h
        exact Env.call_commit ..
      · exact persistFailure_commit h

lemma call_commit {α : Type} {op : Operation Json.Value α} {now : Timestamp}
    {result : StorageResult α} (h : env.call config op now db = ⟨result, db', events⟩) :
    Commit config.storage db events db' := by
  have hcommit := Env.call_commit config env op now db
  rwa [h] at hcommit

/-- **A step commits** what its effects show of the tables. -/
theorem AgentStep.commits {agent agent' : Agent} {action : Action} {effects : List Effect}
    (hstep : AgentStep config agent action effects agent') :
    Commits config.storage agent.db (repositoryEvents effects) agent'.db := by
  -- one commit, followed by effects that show no event of the tables
  have hone : ∀ {db' : Database} {events : List RepositoryEvent} (rest : List Effect),
      Commit config.storage agent.db events db' → repositoryEvents rest = [] →
      Commits config.storage agent.db (repositoryEvents (Effect.ofEvents events ++ rest)) db' := by
    intro db' events rest hcommit hrest
    rw [repositoryEvents_append, repositoryEvents_ofEvents, hrest, List.append_nil]
    exact hcommit.commits
  have hquiet : ∀ {rest : List Effect}, repositoryEvents rest = [] →
      Commits config.storage agent.db (repositoryEvents rest) agent.db := by
    intro rest hrest
    rw [hrest]
    exact .nil
  cases hstep with
  | received hanswer =>
      simpa using hone [] (receivePrintJob_commit hanswer) rfl
  | receivedConflict hanswer => exact hone _ (receivePrintJob_commit hanswer) rfl
  | receiveFailed hanswer => exact hone _ (receivePrintJob_commit hanswer) rfl
  | recoverStarted hreply => simpa using hone [] (call_commit hreply) rfl
  | recoverFailed hreply => exact hone _ (call_commit hreply) rfl
  | cancelAnswered => exact hone _ (Env.call_commit ..) rfl
  | restarted =>
      simp only [Agent.restart, repositoryEvents_ofEvents]
      exact (run_commit _ _).commits.commit (run_commit _ _)
  | persisted hanswer => simpa using hone [] (persistFailure_commit hanswer) rfl
  | persistFailed hanswer => exact hone _ (persistFailure_commit hanswer) rfl
  | claimed hanswer => simpa using hone [] (claim_commit hanswer) rfl
  | skipped hanswer => simpa using hone [] (claim_commit hanswer) rfl
  | claimFailed hanswer => exact hone _ (claim_commit hanswer) rfl
  | settled hanswer => exact hone _ (settle_commit hanswer) rfl
  | settleFailed hanswer => exact hone _ (settle_commit hanswer) rfl
  | confirmed hreply => simpa using hone [] (call_commit hreply) rfl
  | confirmFailed hreply => exact hone _ (call_commit hreply) rfl
  | replayConfirmed hreply => simpa using hone [] (call_commit hreply) rfl
  | replayConfirmFailed hreply => exact hone _ (call_commit hreply) rfl
  | _ => exact hquiet rfl

end Commits

/-- **The tables of an agent are reached by commits.** -/
theorem committed_of_runs {ok : StepCondition Agent Action Effect} {h : List Effect}
    {agent : Agent} (hrun : (agentSystem config).Runs ok .initial h agent) :
    Committed config.storage (repositoryEvents h) agent.db := by
  refine hrun.invariant (I := fun h agent => Committed config.storage (repositoryEvents h) agent.db)
    .fresh ?_
  intro h agent action agent' effects _ ih _ hstep
  rw [repositoryEvents_append]
  exact ih.append (step_cases hstep).commits

end Oppa
