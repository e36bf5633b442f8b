import Oppa.Agent.Replay

/-!
# A report that was acknowledged is not repeated

A terminal status is committed to the outbox while the drain still holds a copy of its message in
memory.  The copy is reported only after the whole drain, under `outbox_lock`.  In between,
`replay_outbound_reports` may take that lock, report the row of the outbox and remove it; the flow
then hands its copy to the reporter all the same.

* `ReportedOnce` — the law: a terminal status is handed over only while its row was not removed.
* `Unremoved` — a status that was committed and has not been removed since.
* `Apart` — what a step must not do: remove a row of which the flow still holds a copy.
* **`not_reported_again`** — the law holds in every run of such steps; `reported_twice` is a run
  that breaks it.
-/

namespace Oppa

open Protocol History

variable {config : AgentConfig}

/-! ## The law -/

/-- The message ids of the statuses committed in a history. -/
def committedIds (h : List Effect) : List String :=
  h.filterMap fun
    | .repository (.committed status) => some status.messageId
    | _ => none

/-- The message ids under which statuses were removed from the outbox in a history. -/
def acknowledgedIds (h : List Effect) : List String :=
  h.filterMap fun
    | .repository (.acknowledged messageId) => some messageId
    | _ => none

@[simp] lemma committedIds_append (h es : List Effect) :
    committedIds (h ++ es) = committedIds h ++ committedIds es := List.filterMap_append

@[simp] lemma acknowledgedIds_append (h es : List Effect) :
    acknowledgedIds (h ++ es) = acknowledgedIds h ++ acknowledgedIds es := List.filterMap_append

lemma mem_committedIds {h : List Effect} {id : String} :
    id ∈ committedIds h ↔
      ∃ status, .repository (.committed status) ∈ h ∧ status.messageId = id := by
  simp only [committedIds, List.mem_filterMap]
  constructor
  · rintro ⟨e, he, hid⟩
    split at hid
    · exact ⟨_, he, Option.some.inj hid⟩
    · cases hid
  · rintro ⟨status, hmem, rfl⟩
    exact ⟨_, hmem, rfl⟩

lemma mem_acknowledgedIds {h : List Effect} {id : String} :
    id ∈ acknowledgedIds h ↔ .repository (.acknowledged id) ∈ h := by
  simp only [acknowledgedIds, List.mem_filterMap]
  constructor
  · rintro ⟨e, he, hid⟩
    split at hid
    · rwa [← Option.some.inj hid]
    · cases hid
  · intro hmem
    exact ⟨_, hmem, rfl⟩

/-- A terminal status is handed to the reporter only while it has not been reported and removed. -/
def ReportedOnce (past : List Effect) : Effect → Prop
  | .handed message _ =>
      (terminalJobId message).isSome = true → message.messageId ∉ acknowledgedIds past
  | _ => True

instance : (past : List Effect) → (e : Effect) → Decidable (ReportedOnce past e)
  | past, .handed message _ =>
      inferInstanceAs (Decidable
        ((terminalJobId message).isSome = true → message.messageId ∉ acknowledgedIds past))
  | _, .repository _ | _, .documentRequested _ | _, .submitCalled _ _ | _, .submitReturned _ _
  | _, .released _ _ | _, .drainStarted _ | _, .drained _ | _, .flowReturned _
  | _, .replayReturned _ | _, .cancelReturned _ => isTrue trivial

/-! ## What is still to be reported -/

/-- The statuses of which a flow holds a copy that it has not removed from the outbox. -/
def Flow.statuses : Flow → List AgentMessage
  | .draining drain | .processing drain _ _ => drain.outcomes.filterMap ProcessOutcome.message
  | .waiting _ outcomes => outcomes.filterMap ProcessOutcome.message
  | .delivering _ _ messages => messages
  | .confirming _ _ message messages => message :: messages
  | _ => []

/-- The receipts a flow has still to report. -/
def Flow.receipts : Flow → List AgentMessage
  | .acknowledging _ acknowledgement => [acknowledgement]
  | .reportingReceipts _ messages => messages
  | _ => []

/-- The message ids of the rows a replay has read and not removed. -/
def Replay.batch : Replay → List String
  | .delivering _ _ statuses => statuses.map StoredOutboundStatus.messageId
  | .confirming _ _ message statuses =>
      message.messageId :: statuses.map StoredOutboundStatus.messageId
  | _ => []

/-- The row a replay removes next. -/
def Replay.removed : Replay → Option String
  | .confirming _ _ message _ => some message.messageId
  | _ => none

/-- Whether the next step of a flow may commit a status. -/
def Flow.commits : Flow → Bool
  | .processing _ _ (.persisting _ _) | .processing _ _ (.settling _ _) => true
  | _ => false

/-- The id of a message that is named by a random identifier. -/
def messageIdOf (uuid : Uuid) : String := "msg_" ++ uuid.simple

/-- A status is committed under an identifier that no earlier one has, and a replay does not remove
a row of which the flow still holds a copy. -/
def Apart (h : List Effect) (agent : Agent) : Action → Prop
  | .advance env => agent.flow.commits = true → messageIdOf (env.uuid 0) ∉ committedIds h
  | .advanceReplay _ =>
      ∀ message ∈ agent.flow.statuses, agent.replay.removed ≠ some message.messageId
  | _ => True

instance (h : List Effect) (agent : Agent) : (action : Action) → Decidable (Apart h agent action)
  | .advance env =>
      inferInstanceAs (Decidable
        (agent.flow.commits = true → messageIdOf (env.uuid 0) ∉ committedIds h))
  | .advanceReplay _ =>
      inferInstanceAs (Decidable
        (∀ message ∈ agent.flow.statuses, agent.replay.removed ≠ some message.messageId))
  | .handlePrintJob _ _ | .processPending | .recover _ | .replayOutboundReports | .cancelJob _ _
  | .restart _ _ => isTrue trivial

/-! ## What a call of the processor commits -/

/-- The status an operation stores with its transition. -/
def Operation.status? {Value : Type} : {α : Type} → Operation Value α →
    Option (NewOutboundStatus Value)
  | _, .markSubmittedWithStatus _ _ status | _, .markFailedWithStatus _ _ status => some status
  | _, _ => none

section Committed

variable {Value : Type} [BEq Value] {storage : SqliteStorage Value} {now : Timestamp}
  {db db' : Database}

lemma mem_transitionEvents {id : PrintJobId} {state : JobState} {prepared : Option OutboxRow}
    {status : OutboxRow} :
    .committed status ∈ transitionEvents id state prepared db db' ↔ prepared = some status := by
  simp [transitionEvents, evictions]

omit [BEq Value] in
lemma messageId_of_prepared {id : PrintJobId} {status : NewOutboundStatus Value} {row : OutboxRow}
    (hprepared : prepareOutboundStatus storage.codec id status = .ok row) :
    row.messageId = status.messageId := by
  unfold prepareOutboundStatus at hprepared
  simp only [bind, Except.bind] at hprepared
  split at hprepared
  · cases hprepared
  · split at hprepared
    · cases hprepared
    · split at hprepared
      · cases hprepared
      · cases hprepared
        rfl

lemma eq_ok_of_toOption {ε α : Type} {result : Except ε α} {a : α}
    (h : result.toOption = some a) : result = .ok a := by
  cases result with
  | error e => cases h
  | ok b =>
      cases h
      rfl

/-- What an operation commits is the status it was given. -/
lemma committed_of_events {α : Type} {op : Operation Value α} {row : OutboxRow}
    (hmem : .committed row ∈ op.events storage now db) :
    ∃ status, op.status? = some status ∧ row.messageId = status.messageId := by
  unfold Operation.events effectsOf at hmem
  split at hmem
  · cases op with
    | markSubmittedWithStatus id receipt status =>
        have hprepared := eq_ok_of_toOption (mem_transitionEvents.mp hmem)
        exact ⟨status, rfl, messageId_of_prepared hprepared⟩
    | markFailedWithStatus id error status =>
        have hprepared := eq_ok_of_toOption (mem_transitionEvents.mp hmem)
        exact ⟨status, rfl, messageId_of_prepared hprepared⟩
    | insertReceived job =>
        simp only [Operation.effects] at hmem
        split at hmem <;> simp at hmem
    | _ => simp [Operation.effects, transitionEvents, evictions] at hmem
  · cases hmem

omit [BEq Value] in
lemma prepared_of_transitionWithStatus {id : PrintJobId} {state : JobState}
    {receipt : Option SubmissionReceipt} {error : Option StoredJobError}
    {status : NewOutboundStatus Value}
    (hok : (Operation.transitionWithStatus storage now id state receipt error status db).1 =
      .ok ()) :
    ∃ row, prepareOutboundStatus storage.codec id status = .ok row := by
  unfold Operation.transitionWithStatus at hok
  cases hprepared : prepareOutboundStatus storage.codec id status with
  | error e =>
      rw [hprepared] at hok
      cases hok
  | ok row => exact ⟨row, rfl⟩

/-- An operation that succeeds has committed the status it was given. -/
lemma events_of_status {α : Type} {op : Operation Value α} {a : α}
    {status : NewOutboundStatus Value} (hstatus : op.status? = some status)
    (hok : (op.run storage now db).1 = .ok a) :
    ∃ row, .committed row ∈ op.events storage now db ∧ row.messageId = status.messageId := by
  have hevents : op.events storage now db = op.effects storage a db (op.run storage now db).2 := by
    simp only [Operation.events, effectsOf, hok]
  rw [hevents]
  cases op with
  | markSubmittedWithStatus id receipt given =>
      cases hstatus
      obtain ⟨row, hrow⟩ := prepared_of_transitionWithStatus hok
      refine ⟨row, mem_transitionEvents.mpr ?_, messageId_of_prepared hrow⟩
      rw [hrow, Except.toOption]
  | markFailedWithStatus id error given =>
      cases hstatus
      simp only [Operation.run, Operation.whenValid] at hok
      cases hvalid : error.validate with
      | error e =>
          rw [hvalid] at hok
          cases hok
      | ok _ =>
          rw [hvalid] at hok
          obtain ⟨row, hrow⟩ := prepared_of_transitionWithStatus hok
          refine ⟨row, mem_transitionEvents.mpr ?_, messageId_of_prepared hrow⟩
          rw [hrow, Except.toOption]
  | _ => cases hstatus

end Committed

/-- What a call of the processor commits and returns: the status it returns is the one it has
committed, and a random identifier names it. -/
structure Records (uuid : Uuid) (result : Except JobProcessingError ProcessOutcome)
    (events : List RepositoryEvent) : Prop where
  drawn : ∀ row, .committed row ∈ events → row.messageId = messageIdOf uuid
  committed : ∀ outcome message, result = .ok outcome → outcome.message = some message →
    message.messageId = messageIdOf uuid ∧
      ∃ row, .committed row ∈ events ∧ row.messageId = messageIdOf uuid

section Processor

variable {env : Env} {stored : StoredPrintJob Json.Value} {db db' : Database}
  {result : Except JobProcessingError ProcessOutcome} {events : List RepositoryEvent}

/-- A call that stores the status of an outcome. -/
lemma records_call {op : Operation Json.Value Unit} {now createdAt : Timestamp} {id : PrintJobId}
    {message : AgentMessage} {outcome : ProcessOutcome}
    (hstatus : op.status? = some (outboundStatus id message createdAt))
    (hname : message.messageId = messageIdOf (env.uuid 0))
    (houtcome : outcome.message = some message) :
    Records (env.uuid 0)
      (((env.call config op now db).result.mapError .storage).map fun _ => outcome)
      (env.call config op now db).events where
  drawn row hrow := by
    obtain ⟨status, hgiven, hid⟩ := committed_of_events (call_events rfl hrow)
    rw [hstatus] at hgiven
    cases hgiven
    exact hid.trans hname
  committed other message' hok hmessage := by
    rw [Except.map_mapError_eq_ok] at hok
    obtain ⟨hanswer, rfl⟩ := hok
    obtain ⟨hrun, hevents⟩ := Env.call_ok hanswer
    rw [houtcome] at hmessage
    cases hmessage
    have hran : (op.run config.storage now db).1 = .ok () := by rw [hrun]
    obtain ⟨row, hrow, hid⟩ := events_of_status hstatus hran
    refine ⟨hname, row, ?_, hid.trans hname⟩
    rcases @Env.call_cases config env _ op now db with ⟨-, -, e, he⟩ | ⟨-, hsame⟩
    · rw [hanswer] at he
      cases he
    · rwa [hsame]

/-- A call that stores no status, for an outcome without a message. -/
lemma records_call_of_none {op : Operation Json.Value Unit} {now : Timestamp}
    {outcome : ProcessOutcome} (hstatus : op.status? = none) (houtcome : outcome.message = none) :
    Records (env.uuid 0)
      (((env.call config op now db).result.mapError .storage).map fun _ => outcome)
      (env.call config op now db).events where
  drawn row hrow := by
    obtain ⟨status, hgiven, -⟩ := committed_of_events (call_events rfl hrow)
    rw [hstatus] at hgiven
    cases hgiven
  committed other message hok hmessage := by
    rw [Except.map_mapError_eq_ok] at hok
    rw [hok.2, houtcome] at hmessage
    cases hmessage

lemma records_early {e : JobProcessingError} : Records (env.uuid 0) (.error e) [] where
  drawn row hrow := by cases hrow
  committed outcome message hok := by cases hok

lemma persistFailure_records {job : Option PrintJob} {failure : JobFailure}
    (h : persistFailure config env stored job failure db = ⟨result, db', events⟩) :
    Records (env.uuid 0) result events := by
  unfold persistFailure at h
  cases job with
  | none =>
      cases h
      exact records_call_of_none rfl rfl
  | some job =>
      simp only at h
      split at h
      · cases h
        exact records_early
      · rename_i message hmessage
        cases h
        refine records_call rfl ?_ rfl
        rw [(agentMessage_ok hmessage).1]
        rfl

lemma settle_records {job : PrintJob} {submission : Except SpoolerError SubmissionReceipt}
    {cancelled : Bool}
    (h : settle config env stored job submission cancelled db = ⟨result, db', events⟩) :
    Records (env.uuid 0) result events := by
  unfold settle at h
  cases submission with
  | ok receipt =>
      simp only at h
      split at h
      · cases h
        exact records_early
      · rename_i message hmessage
        cases h
        refine records_call rfl ?_ rfl
        rw [(agentMessage_ok hmessage).1]
        rfl
  | error e =>
      simp only at h
      split at h
      · cases h
        exact records_call_of_none rfl rfl
      · exact persistFailure_records h

/-- A claim commits no status. -/
lemma claim_not_committed {result : Except JobProcessingError Claim}
    (h : claim config env stored db = ⟨result, db', events⟩) {row : OutboxRow} :
    .committed row ∉ events := by
  intro hrow
  have hevents : events = (claim config env stored db).events := by rw [h]
  rw [hevents] at hrow
  obtain ⟨status, hgiven, -⟩ := committed_of_events (call_events rfl hrow)
  cases hgiven

end Processor

/-! ## What a step does with them -/

section Step

variable {agent agent' : Agent} {action : Action} {effects : List Effect}

lemma Transition.not_acknowledged {id : PrintJobId} {state : JobState} {db db' : Database}
    {result : StorageResult Unit} {events : List RepositoryEvent}
    (h : Transition config id state db result db' events) {messageId : String} :
    .acknowledged messageId ∉ events := by
  intro hmem
  rcases h.event_cases hmem with heq | ⟨status, heq, -⟩ | ⟨id', heq⟩ <;> cases heq

/-- How a step removes a row from the outbox. -/
inductive Removal (agent : Agent) (action : Action) (agent' : Agent) : String → Prop
  | flow {env call outcomes message messages} :
      action = .advance env → agent.flow = .confirming call outcomes message messages →
      agent'.flow.statuses ⊆ messages → agent'.replay = agent.replay →
      Removal agent action agent' message.messageId
  | replay {env delivered batchLen message statuses} :
      action = .advanceReplay env →
      agent.replay = .confirming delivered batchLen message statuses →
      agent'.replay.batch ⊆ statuses.map StoredOutboundStatus.messageId →
      agent'.flow = agent.flow → Removal agent action agent' message.messageId

/-- **Only the two confirmations remove rows.** -/
lemma AgentStep.removes (hstep : AgentStep config agent action effects agent')
    {messageId : String} (he : .repository (.acknowledged messageId) ∈ effects) :
    Removal agent action agent' messageId := by
  cases hstep with
  | received hanswer =>
      obtain ⟨job, received, -, heq⟩ := receivePrintJob_events hanswer (mem_ofEvents.mp he)
      cases heq
  | receivedConflict hanswer =>
      obtain ⟨job, received, -, heq⟩ :=
        receivePrintJob_events hanswer (mem_ofEvents.mp (by simpa using he))
      cases heq
  | receiveFailed hanswer =>
      obtain ⟨job, received, -, heq⟩ :=
        receivePrintJob_events hanswer (mem_ofEvents.mp (by simpa using he))
      cases heq
  | recoverStarted hreply =>
      obtain ⟨id, heq⟩ := recoverInterrupted_events (call_events hreply (mem_ofEvents.mp he))
      cases heq
  | recoverFailed hreply =>
      obtain ⟨id, heq⟩ :=
        recoverInterrupted_events (call_events hreply (mem_ofEvents.mp (by simpa using he)))
      cases heq
  | cancelAnswered =>
      obtain ⟨answer, htransition⟩ := @cancelQueued_transition config _ _ _
      exact absurd (mem_ofEvents.mp (by simpa using he)) htransition.not_acknowledged
  | restarted =>
      simp only [Agent.restart, mem_ofEvents, List.mem_append] at he
      rcases he with he | he
      · obtain ⟨id, heq⟩ := maintainTerminalJobs_events he
        cases heq
      · obtain ⟨id, heq⟩ := recoverInterrupted_events he
        cases heq
  | persisted hanswer =>
      obtain ⟨answer, htransition, -⟩ := persistFailure_transition hanswer
      exact absurd (mem_ofEvents.mp he) htransition.not_acknowledged
  | persistFailed hanswer =>
      obtain ⟨answer, htransition, -⟩ := persistFailure_transition hanswer
      exact absurd (mem_ofEvents.mp (by simpa using he)) htransition.not_acknowledged
  | claimed hanswer =>
      obtain ⟨answer, htransition, -⟩ := claim_transition hanswer
      exact absurd (mem_ofEvents.mp he) htransition.not_acknowledged
  | skipped hanswer =>
      obtain ⟨answer, htransition, -⟩ := claim_transition hanswer
      exact absurd (mem_ofEvents.mp he) htransition.not_acknowledged
  | claimFailed hanswer =>
      obtain ⟨answer, htransition, -⟩ := claim_transition hanswer
      exact absurd (mem_ofEvents.mp (by simpa using he)) htransition.not_acknowledged
  | settled hanswer =>
      obtain ⟨answer, htransition, -⟩ := settle_transition hanswer
      exact absurd (mem_ofEvents.mp (by simpa using he)) htransition.not_acknowledged
  | settleFailed hanswer =>
      obtain ⟨answer, htransition, -⟩ := settle_transition hanswer
      exact absurd (mem_ofEvents.mp (by simpa using he)) htransition.not_acknowledged
  | confirmed hreply =>
      cases acknowledgeOutboundStatus_events (call_events hreply (mem_ofEvents.mp he))
      exact .flow rfl rfl (List.Subset.refl _) rfl
  | confirmFailed hreply =>
      cases acknowledgeOutboundStatus_events
        (call_events hreply (mem_ofEvents.mp (by simpa using he)))
      exact .flow rfl rfl (List.nil_subset _) rfl
  | replayConfirmed hreply =>
      cases acknowledgeOutboundStatus_events (call_events hreply (mem_ofEvents.mp he))
      exact .replay rfl rfl (List.Subset.refl _) rfl
  | replayConfirmFailed hreply =>
      cases acknowledgeOutboundStatus_events
        (call_events hreply (mem_ofEvents.mp (by simpa using he)))
      exact .replay rfl rfl (List.nil_subset _) rfl
  | _ => simp at he

/-- **A status is committed under an identifier that is drawn in that step.** -/
lemma AgentStep.draws (hstep : AgentStep config agent action effects agent') {row : OutboxRow}
    (he : .repository (.committed row) ∈ effects) :
    ∃ env, action = .advance env ∧ agent.flow.commits = true ∧
      row.messageId = messageIdOf (env.uuid 0) := by
  have hshows := hstep.shows he
  cases hstep with
  | persisted hanswer =>
      exact ⟨_, rfl, rfl, (persistFailure_records hanswer).drawn row (mem_ofEvents.mp he)⟩
  | persistFailed hanswer =>
      exact ⟨_, rfl, rfl,
        (persistFailure_records hanswer).drawn row (mem_ofEvents.mp (by simpa using he))⟩
  | settled hanswer =>
      exact ⟨_, rfl, rfl, (settle_records hanswer).drawn row (mem_ofEvents.mp (by simpa using he))⟩
  | settleFailed hanswer =>
      exact ⟨_, rfl, rfl, (settle_records hanswer).drawn row (mem_ofEvents.mp (by simpa using he))⟩
  | claimed hanswer => exact absurd (mem_ofEvents.mp he) (claim_not_committed hanswer)
  | skipped hanswer => exact absurd (mem_ofEvents.mp he) (claim_not_committed hanswer)
  | claimFailed hanswer =>
      exact absurd (mem_ofEvents.mp (by simpa using he)) (claim_not_committed hanswer)
  | _ =>
      -- only a step of the flow that processes a job shows a commit
      first
      | (simp at he; done)
      | (cases hshows with
        | committed haction hflow => first | (cases haction; done) | cases hflow)

lemma replayedMessage_id {status : StoredOutboundStatus Json.Value} {message : AgentMessage}
    (h : Agent.replayedMessage config status = .ok message) :
    message.messageId = status.messageId := by
  simp only [Agent.replayedMessage, Result.bind_eq_ok, Result.mapError_eq_ok] at h
  obtain ⟨read, hread, ⟨⟩, hvalid, ⟨⟩, hmatches, hmessage⟩ := h
  cases hmessage
  by_contra hne
  rw [validateOutboundStatus, if_pos hne] at hmatches
  cases hmatches

/-- The outcome of a job is appended to the outcomes of the drain. -/
lemma Records.push {uuid : Uuid} {outcome : ProcessOutcome} {events : List RepositoryEvent}
    (hrecords : Records uuid (.ok outcome) events) (drain : Drain) {shown : List Effect}
    (hshown : ∀ event ∈ events, .repository event ∈ shown) :
    Flow.statuses (.draining (drain.push outcome)) = Flow.statuses (.draining drain) ∨
      ∃ message, message.messageId = messageIdOf uuid ∧ messageIdOf uuid ∈ committedIds shown ∧
        Flow.statuses (.draining (drain.push outcome)) =
          Flow.statuses (.draining drain) ++ [message] := by
  cases houtcome : outcome.message with
  | none => exact Or.inl (by simp [Flow.statuses, Drain.push, houtcome])
  | some message =>
      obtain ⟨hname, row, hrow, hid⟩ := hrecords.committed outcome message rfl houtcome
      refine Or.inr ⟨message, hname, mem_committedIds.mpr ⟨row, hshown _ hrow, hid⟩, ?_⟩
      simp [Flow.statuses, Drain.push, houtcome]

/-- Where the copies of a flow come from: a step drops some, or adds the status it commits. -/
lemma AgentStep.statuses (hstep : AgentStep config agent action effects agent') :
    agent'.flow.statuses.Sublist agent.flow.statuses ∨
      ∃ env message, action = .advance env ∧ agent.flow.commits = true ∧
        message.messageId = messageIdOf (env.uuid 0) ∧
        messageIdOf (env.uuid 0) ∈ committedIds effects ∧
        agent'.flow.statuses = agent.flow.statuses ++ [message] := by
  cases hstep with
  | @persisted _ _ _ _ _ drain _ _ _ _ _ hanswer =>
      rcases (persistFailure_records hanswer).push drain
          (fun _ hevent => mem_ofEvents.mpr hevent) with
        hsame | ⟨message, hname, hcommitted, hadded⟩
      · exact Or.inl (hsame ▸ List.Sublist.refl _)
      · exact Or.inr ⟨_, message, rfl, rfl, hname, hcommitted, hadded⟩
  | @settled _ _ _ _ _ drain _ _ _ _ _ _ hanswer =>
      rcases (settle_records hanswer).push drain
          (fun _ hevent => List.mem_append_left _ (mem_ofEvents.mpr hevent)) with
        hsame | ⟨message, hname, hcommitted, hadded⟩
      · exact Or.inl (hsame ▸ List.Sublist.refl _)
      · exact Or.inr ⟨_, message, rfl, rfl, hname, hcommitted, hadded⟩
  | skipped =>
      refine Or.inl ?_
      simp [Flow.statuses, Drain.push, ProcessOutcome.message]
  | confirmed => exact Or.inl (List.sublist_cons_self _ _)
  | _ => first | exact Or.inl (List.Sublist.refl _) | exact Or.inl (List.nil_sublist _)

/-- Where the rows of a replay come from: a step drops some, or reads a batch of the outbox. -/
lemma AgentStep.batch (hstep : AgentStep config agent action effects agent') :
    agent'.replay.batch.Sublist agent.replay.batch ∨
      (effects = [] ∧ agent'.replay.batch.Nodup ∧
        ∀ id ∈ agent'.replay.batch, ∃ row ∈ agent.db.outbox, row.messageId = id) := by
  cases hstep with
  | @batchRead db active flow env delivered statuses hread =>
      refine Or.inr ⟨rfl, ?_⟩
      have hanswer := (call_result_ok.mp
        (show (env.call config (.pendingOutboundStatuses Agent.defaultOutboundStatusBatchSize)
          (env.clock 0) db).result = .ok statuses by rw [hread])).2
      have hloads := loads_of_read (show pendingOutboundStatuses config.storage.codec
        Agent.defaultOutboundStatusBatchSize db = .ok statuses from hanswer)
      have hids : statuses.map StoredOutboundStatus.messageId =
          (Table.oldest OutboxRow.createdRank Agent.defaultOutboundStatusBatchSize db.outbox).map
            OutboxRow.messageId := by
        refine (List.forall₂_eq_eq_eq ▸ List.forall₂_map_right_iff.mpr
          (List.forall₂_map_left_iff.mpr (hloads.flip.imp ?_)) :)
        intro status row hload
        unfold loadStatus at hload
        split at hload
        · cases hload
          rfl
        · cases hload
      show (statuses.map StoredOutboundStatus.messageId).Nodup ∧
        ∀ id ∈ statuses.map StoredOutboundStatus.messageId, ∃ row ∈ db.outbox, row.messageId = id
      rw [hids]
      refine ⟨Table.UniqueBy.oldest db.messageIds, fun id hid => ?_⟩
      obtain ⟨row, hrow, hrowId⟩ := List.mem_map.mp hid
      exact ⟨row, Table.mem_of_mem_oldest hrow, hrowId⟩
  | replayReported hmessage =>
      refine Or.inl ?_
      simp only [Replay.batch, List.map_cons, replayedMessage_id hmessage]
      exact List.Sublist.refl _
  | replayConfirmed => exact Or.inl (List.sublist_cons_self _ _)
  | _ => first | exact Or.inl (List.Sublist.refl _) | exact Or.inl (List.nil_sublist _)

/-- The receipt of a delivery is acknowledged with a message about its receipt. -/
lemma acknowledgement_not_terminal {env : Env} {delivered : ServerMessage} {db db' : Database}
    {receipt : ReceiveJobOutcome} {acknowledgement : AgentMessage} {events : List RepositoryEvent}
    (hanswer : receivePrintJob config env delivered db = ⟨.ok receipt, db', events⟩)
    (hack : receipt.acknowledgement = some acknowledgement) :
    terminalJobId acknowledgement = none := by
  unfold receivePrintJob at hanswer
  split at hanswer
  · cases hanswer
  · rename_i job received hdelivery
    have hresult := congrArg Answer.result hanswer
    obtain ⟨answer, -, hreceipt⟩ := Result.bind_eq_ok.mp hresult
    cases answer with
    | inserted =>
        obtain ⟨message, hmessage, rfl⟩ := Result.map_eq_ok.mp hreceipt
        cases hack
        rw [(agentMessage_ok (Result.mapError_eq_ok.mp hmessage)).1]
        rfl
    | duplicateJob state =>
        obtain ⟨message, hmessage, rfl⟩ := Result.map_eq_ok.mp hreceipt
        cases hack
        rw [(agentMessage_ok (Result.mapError_eq_ok.mp hmessage)).1]
        rfl
    | duplicateIdempotency id state =>
        cases hreceipt
        cases hack

lemma pendingReceipts_not_terminal {env : Env} {stored : List (StoredPrintJob Json.Value)}
    {messages : List AgentMessage} (hmessages : pendingReceipts config env stored = .ok messages)
    {message : AgentMessage} (hmem : message ∈ messages) : terminalJobId message = none := by
  have hall := Result.mapError_eq_ok.mp hmessages
  obtain ⟨pair, -, hok⟩ := exists_left_of_forall₂ (forall₂_of_mapM hall) hmem
  rw [(agentMessage_ok hok).1]
  rfl

/-- **What is handed over** is a receipt, a copy of the flow or a row of the replay. -/
lemma AgentStep.hands (hstep : AgentStep config agent action effects agent')
    {message : AgentMessage} {delivered : Bool} (he : .handed message delivered ∈ effects) :
    acknowledgedIds effects = [] ∧
      (message ∈ agent.flow.receipts ∨ message ∈ agent.flow.statuses ∨
        message.messageId ∈ agent.replay.batch) := by
  cases hstep with
  | replayReported hmessage =>
      simp only [List.mem_singleton, Effect.handed.injEq] at he
      refine ⟨rfl, Or.inr (Or.inr ?_)⟩
      rw [he.1, replayedMessage_id hmessage]
      exact List.mem_cons_self
  | replayRefused hmessage =>
      simp only [List.mem_cons, Effect.handed.injEq, reduceCtorEq, List.not_mem_nil,
        or_false] at he
      refine ⟨rfl, Or.inr (Or.inr ?_)⟩
      rw [he.1, replayedMessage_id hmessage]
      exact List.mem_cons_self
  | _ =>
      first
      | (simp only [List.mem_cons, Effect.handed.injEq, reduceCtorEq, List.not_mem_nil,
          or_false] at he
         rw [he.1]
         refine ⟨rfl, ?_⟩
         simp [Flow.receipts, Flow.statuses])
      | simp [Effect.ofEvents, Agent.restart] at he

/-- A call holds `outbox_lock` alone. -/
lemma AgentStep.excludes (hstep : AgentStep config agent action effects agent')
    (hexclusive : agent.reporting = true → agent.replay = .idle)
    (hreporting : agent'.reporting = true) : agent'.replay = .idle := by
  cases hstep with
  | lockTaken => rfl
  | replayStarted hfree => exact absurd hreporting (by rw [Bool.not_eq_true]; exact hfree)
  | restarted => rfl
  | statusReported => exact hexclusive rfl
  | confirmed => exact hexclusive rfl
  | replayEnded => rfl
  | replayRefused => rfl
  | replayConfirmFailed => rfl
  | cancelRequested => exact hexclusive hreporting
  | cancelAnswered => exact hexclusive hreporting
  | _ => first | exact hexclusive hreporting | cases hexclusive hreporting | cases hreporting

/-- Receipts are not terminal statuses. -/
lemma AgentStep.receipts (hstep : AgentStep config agent action effects agent')
    (hreceipts : ∀ message ∈ agent.flow.receipts, terminalJobId message = none)
    {message : AgentMessage} (hmem : message ∈ agent'.flow.receipts) :
    terminalJobId message = none := by
  cases hstep with
  | @received _ _ _ _ delivered env receipt acknowledgement _ hanswer hack =>
      obtain rfl := List.mem_singleton.mp hmem
      exact acknowledgement_not_terminal hanswer hack
  | receiptsRead _ hmessages => exact pendingReceipts_not_terminal hmessages hmem
  | receiptReported => exact hreceipts message (List.mem_cons_of_mem _ hmem)
  | restarted => cases hmem
  | _ => first | exact hreceipts message hmem | cases hmem

end Step

/-! ## The invariant -/

/-- A status was committed under this id and has not been removed. -/
def Unremoved (h : List Effect) (id : String) : Prop :=
  id ∈ committedIds h ∧ id ∉ acknowledgedIds h

lemma Unremoved.append {h es : List Effect} {id : String} (hid : Unremoved h id)
    (hes : id ∉ acknowledgedIds es) : Unremoved (h ++ es) id := by
  refine ⟨?_, ?_⟩
  · rw [committedIds_append]
    exact List.mem_append_left _ hid.1
  · rw [acknowledgedIds_append, List.mem_append, not_or]
    exact ⟨hid.2, hes⟩

/-- What the law rests on: the outbox, the flow and the replay hold only statuses that have not been
removed, each once. -/
structure ReportInvariant (h : List Effect) (agent : Agent) : Prop where
  known : ∀ id ∈ acknowledgedIds h, id ∈ committedIds h
  stored : ∀ row ∈ agent.db.outbox, Unremoved h row.messageId
  statuses : ∀ message ∈ agent.flow.statuses, Unremoved h message.messageId
  distinct : (agent.flow.statuses.map AgentMessage.messageId).Nodup
  batch : ∀ id ∈ agent.replay.batch, Unremoved h id
  batchDistinct : agent.replay.batch.Nodup
  exclusive : agent.reporting = true → agent.replay = .idle
  receipts : ∀ message ∈ agent.flow.receipts, terminalJobId message = none
  law : EachAfter ReportedOnce h

lemma ReportInvariant.initial : ReportInvariant [] .initial where
  known := by simp [acknowledgedIds]
  stored row hrow := by cases hrow
  statuses message hmem := by cases hmem
  distinct := List.nodup_nil
  batch id hid := by cases hid
  batchDistinct := List.nodup_nil
  exclusive := by simp [Agent.reporting, Agent.initial]
  receipts message hmem := by cases hmem
  law := eachAfter_nil _

/-- A row of the outbox was committed just now, or was there before and has not been removed. -/
lemma mem_foldl_replayOutbox {es : List RepositoryEvent} {outbox : List OutboxRow} {row : OutboxRow}
    (hrow : row ∈ es.foldl replayOutbox outbox) :
    .committed row ∈ es ∨ (row ∈ outbox ∧ .acknowledged row.messageId ∉ es) := by
  induction es using List.reverseRecOn with
  | nil => exact Or.inr ⟨hrow, List.not_mem_nil⟩
  | append_singleton es e ih =>
      rw [List.foldl_append, List.foldl_cons, List.foldl_nil, mem_replayOutbox] at hrow
      rcases hrow with rfl | ⟨hrow, hkept⟩
      · exact Or.inl (List.mem_append_right _ (List.mem_singleton_self _))
      · rcases ih hrow with hcommitted | ⟨hold, hnot⟩
        · exact Or.inl (List.mem_append_left _ hcommitted)
        · refine Or.inr ⟨hold, ?_⟩
          rw [List.mem_append, List.mem_singleton, not_or]
          exact ⟨hnot, fun heq => hkept (Or.inl heq.symm)⟩

section Kept

variable {agent agent' : Agent} {action : Action} {h effects : List Effect}

/-- A step that commits a status removes none. -/
lemma Removal.not_commits {env : Env} {messageId : String}
    (hremoval : Removal agent action agent' messageId) (haction : action = .advance env) :
    agent.flow.commits = false := by
  cases hremoval with
  | flow _ hflow =>
      rw [hflow]
      rfl
  | replay hreplay =>
      rw [haction] at hreplay
      cases hreplay

lemma AgentStep.acknowledgedIds_of_commits (hstep : AgentStep config agent action effects agent')
    {env : Env} (haction : action = .advance env) (hcommits : agent.flow.commits = true)
    (id : String) : id ∉ acknowledgedIds effects := by
  intro hid
  have hnot := (hstep.removes (mem_acknowledgedIds.mp hid)).not_commits haction
  rw [hcommits] at hnot
  cases hnot

/-- A status that is committed under an unused identifier has not been removed. -/
lemma ReportInvariant.unremoved_of_draw (hinv : ReportInvariant h agent)
    (hok : Apart h agent action) (hstep : AgentStep config agent action effects agent') {env : Env}
    (haction : action = .advance env) (hcommits : agent.flow.commits = true)
    (hcommitted : messageIdOf (env.uuid 0) ∈ committedIds effects) :
    Unremoved (h ++ effects) (messageIdOf (env.uuid 0)) := by
  have hfresh : messageIdOf (env.uuid 0) ∉ committedIds h := by
    rw [haction] at hok
    exact hok hcommits
  refine ⟨?_, ?_⟩
  · rw [committedIds_append]
    exact List.mem_append_right _ hcommitted
  · rw [acknowledgedIds_append, List.mem_append, not_or]
    exact ⟨fun hold => hfresh (hinv.known _ hold),
      hstep.acknowledgedIds_of_commits haction hcommits _⟩

/-- What a step removes was committed. -/
lemma ReportInvariant.known_step (hinv : ReportInvariant h agent)
    (hstep : AgentStep config agent action effects agent') {id : String}
    (hid : id ∈ acknowledgedIds (h ++ effects)) : id ∈ committedIds (h ++ effects) := by
  rw [committedIds_append]
  refine List.mem_append_left _ ?_
  rw [acknowledgedIds_append, List.mem_append] at hid
  rcases hid with hold | hnew
  · exact hinv.known id hold
  · cases hstep.removes (mem_acknowledgedIds.mp hnew) with
    | flow _ hflow =>
        refine (hinv.statuses _ ?_).1
        rw [hflow]
        exact List.mem_cons_self
    | replay _ hreplay =>
        refine (hinv.batch _ ?_).1
        rw [hreplay]
        exact List.mem_cons_self

lemma ReportInvariant.stored_step (hinv : ReportInvariant h agent) (hok : Apart h agent action)
    (hstep : AgentStep config agent action effects agent') {row : OutboxRow}
    (hrow : row ∈ agent'.db.outbox) : Unremoved (h ++ effects) row.messageId := by
  rw [hstep.commits.outbox] at hrow
  rcases mem_foldl_replayOutbox hrow with hcommitted | ⟨hold, hkept⟩
  · have hmem := mem_repositoryEvents.mp hcommitted
    obtain ⟨env, haction, hcommits, hid⟩ := hstep.draws hmem
    rw [hid]
    exact hinv.unremoved_of_draw hok hstep haction hcommits
      (hid ▸ mem_committedIds.mpr ⟨row, hmem, rfl⟩)
  · refine (hinv.stored row hold).append fun hid => hkept ?_
    exact mem_repositoryEvents.mpr (mem_acknowledgedIds.mp hid)

/-- A copy that a flow keeps is not removed. -/
lemma ReportInvariant.not_removed (hinv : ReportInvariant h agent) (hok : Apart h agent action)
    (hstep : AgentStep config agent action effects agent')
    (hfewer : agent'.flow.statuses.Sublist agent.flow.statuses) {message : AgentMessage}
    (hmem : message ∈ agent'.flow.statuses) : message.messageId ∉ acknowledgedIds effects := by
  intro hid
  generalize heq : message.messageId = id at hid
  cases hstep.removes (mem_acknowledgedIds.mp hid) with
  | @flow _ _ _ removed messages _ hflow hrest =>
      have hdistinct := hinv.distinct
      rw [hflow] at hdistinct
      refine (List.nodup_cons.mp hdistinct).1 ?_
      rw [← heq]
      exact List.mem_map_of_mem (hrest hmem)
  | replay haction hreplay =>
      rw [haction] at hok
      refine hok message (hfewer.subset hmem) ?_
      rw [hreplay, heq]
      rfl

lemma ReportInvariant.statuses_step (hinv : ReportInvariant h agent) (hok : Apart h agent action)
    (hstep : AgentStep config agent action effects agent') {message : AgentMessage}
    (hmem : message ∈ agent'.flow.statuses) : Unremoved (h ++ effects) message.messageId := by
  rcases hstep.statuses with hfewer | ⟨env, added, haction, hcommits, hname, hcommitted, hsame⟩
  · exact (hinv.statuses message (hfewer.subset hmem)).append
      (hinv.not_removed hok hstep hfewer hmem)
  · rw [hsame, List.mem_append, List.mem_singleton] at hmem
    rcases hmem with hold | rfl
    · exact (hinv.statuses message hold).append
        (hstep.acknowledgedIds_of_commits haction hcommits _)
    · rw [hname]
      exact hinv.unremoved_of_draw hok hstep haction hcommits hcommitted

lemma ReportInvariant.distinct_step (hinv : ReportInvariant h agent) (hok : Apart h agent action)
    (hstep : AgentStep config agent action effects agent') :
    (agent'.flow.statuses.map AgentMessage.messageId).Nodup := by
  rcases hstep.statuses with hfewer | ⟨env, added, haction, hcommits, hname, hcommitted, hsame⟩
  · exact hinv.distinct.sublist (hfewer.map _)
  · rw [hsame, List.map_append, List.map_singleton]
    refine List.nodup_append.mpr ⟨hinv.distinct, List.nodup_singleton _, ?_⟩
    intro id hid other hother heq
    rw [List.mem_singleton, hname] at hother
    obtain ⟨message, hmem, rfl⟩ := List.mem_map.mp hid
    rw [haction] at hok
    refine hok hcommits ?_
    rw [← hother, ← heq]
    exact (hinv.statuses message hmem).1

/-- A row that a replay keeps is not removed. -/
lemma ReportInvariant.batch_step (hinv : ReportInvariant h agent)
    (hstep : AgentStep config agent action effects agent') {id : String}
    (hid : id ∈ agent'.replay.batch) : Unremoved (h ++ effects) id := by
  rcases hstep.batch with hfewer | ⟨heffects, -, hrows⟩
  · refine (hinv.batch id (hfewer.subset hid)).append fun hremoved => ?_
    cases hstep.removes (mem_acknowledgedIds.mp hremoved) with
    | flow _ hflow _ hsame =>
        have hidle : agent.replay = .idle := hinv.exclusive (by simp [Agent.reporting, hflow])
        rw [hsame, hidle] at hid
        cases hid
    | replay _ hreplay hrest =>
        have hdistinct := hinv.batchDistinct
        rw [hreplay] at hdistinct
        exact (List.nodup_cons.mp hdistinct).1 (hrest hid)
  · obtain ⟨row, hrow, rfl⟩ := hrows id hid
    rw [heffects, List.append_nil]
    exact hinv.stored row hrow

lemma ReportInvariant.batchDistinct_step (hinv : ReportInvariant h agent)
    (hstep : AgentStep config agent action effects agent') : agent'.replay.batch.Nodup := by
  rcases hstep.batch with hfewer | ⟨-, hnodup, -⟩
  · exact hinv.batchDistinct.sublist hfewer
  · exact hnodup

lemma ReportInvariant.law_step (hinv : ReportInvariant h agent)
    (hstep : AgentStep config agent action effects agent') :
    EachAfter ReportedOnce (h ++ effects) := by
  refine eachAfter_append.mpr ⟨hinv.law, fun past e rest heffects => ?_⟩
  have hmem : e ∈ effects := by simp [heffects]
  cases e with
  | handed message delivered =>
      intro hterminal
      obtain ⟨hnone, hsource⟩ := hstep.hands hmem
      have hunremoved : Unremoved h message.messageId := by
        rcases hsource with hreceipt | hstatus | hbatch
        · rw [hinv.receipts message hreceipt] at hterminal
          cases hterminal
        · exact hinv.statuses message hstatus
        · exact hinv.batch _ hbatch
      rw [acknowledgedIds_append, List.mem_append, not_or]
      refine ⟨hunremoved.2, fun hpast => ?_⟩
      have hshown : message.messageId ∈ acknowledgedIds effects := by
        rw [heffects, acknowledgedIds_append]
        exact List.mem_append_left _ hpast
      rw [hnone] at hshown
      cases hshown
  | _ => trivial

/-- **One step keeps the invariant.** -/
lemma ReportInvariant.step (hinv : ReportInvariant h agent) (hok : Apart h agent action)
    (hstep : AgentStep config agent action effects agent') :
    ReportInvariant (h ++ effects) agent' where
  known _ hid := hinv.known_step hstep hid
  stored _ hrow := hinv.stored_step hok hstep hrow
  statuses _ hmem := hinv.statuses_step hok hstep hmem
  distinct := hinv.distinct_step hok hstep
  batch _ hid := hinv.batch_step hstep hid
  batchDistinct := hinv.batchDistinct_step hstep
  exclusive := hstep.excludes hinv.exclusive
  receipts _ hmem := hstep.receipts hinv.receipts hmem
  law := hinv.law_step hstep

end Kept

/-- **No report after the acknowledgement**, in every run in which a replay does not remove a row of
which the flow still holds a copy. -/
theorem not_reported_again {h : List Effect} {agent : Agent}
    (hrun : (agentSystem config).Runs Apart .initial h agent) : EachAfter ReportedOnce h :=
  (hrun.invariant (I := ReportInvariant) .initial fun _ _ _ _ _ _ hinv hok hstep =>
    hinv.step hok (step_cases hstep)).law

/-! ## With and without the condition -/

namespace Sample

/-- The status of the first job, under the identifier drawn when it is settled. -/
def firstStatus : AgentMessage := submitted "job_1" 8

/-- A replay that finds one status. -/
def replayOnce : List Action :=
  .replayOutboundReports :: (List.range 4).map fun i => .advanceReplay (env (20 + i))

/-- The flow fails to report the status, and the replay makes up for it. -/
def replayedLater : List Action :=
  [.handlePrintJob (delivery "job_1") (env 1)] ++ advances 2 9 ++
    [.advance { env 11 with delivered := false }] ++ replayOnce ++ [.processPending] ++
    advances 30 6

/-- The replay comes between the commit of the status and its report by the flow. -/
def replayedBetween : List Action :=
  [.handlePrintJob (delivery "job_1") (env 1)] ++ advances 2 8 ++ replayOnce ++ advances 30 2

end Sample

/-- A status that the replay reported is not reported again. -/
theorem not_reported_again_replayedLater :
    let r := (agentSystem (Sample.config [Sample.firstStatus])).run
      (fun h a x => decide (Apart h a x)) .initial Sample.replayedLater
    .repository (.acknowledged Sample.firstStatus.messageId) ∈ r.1 ∧ EachAfter ReportedOnce r.1 :=
  ⟨by decide +kernel,
    not_reported_again (System.runs_run (fun _ _ _ => of_decide_eq_true) _)⟩

/-- **A status is handed over after it was reported and removed.** -/
theorem reported_twice :
    ¬ ∀ (config : AgentConfig) (h : List Effect) (agent : Agent),
      (agentSystem config).Runs anyStep .initial h agent → EachAfter ReportedOnce h := by
  intro hall
  have hlaw := hall (Sample.config [Sample.firstStatus])
    (Sample.run [Sample.firstStatus] Sample.replayedBetween).1 _
    (System.runs_run (fun _ _ _ _ => trivial) _)
  revert hlaw
  decide +kernel

end Oppa
