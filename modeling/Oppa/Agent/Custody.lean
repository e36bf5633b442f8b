import Oppa.Agent.Transition

/-!
# The jobs in hand, and what a step shows of the tables

* `Flow.held` — the jobs of its snapshot that a flow is still to process.  **`AgentStep.held`**: a
  step adds to them only by taking a snapshot.
* `Shows` — what a step that shows an event of the tables looks like.  **`AgentStep.shows`** is the
  only case analysis over it; a law about insertions, claims, recoveries or cancellations needs to
  look at the steps that show one.
-/

namespace Oppa

open Protocol History

variable {config : AgentConfig}

/-! ## Reading the received jobs -/

/-- Mapping with a fallible function succeeds element by element. -/
lemma forall₂_of_mapM {ε α β : Type} {f : α → Except ε β} {as : List α} {bs : List β}
    (h : as.mapM f = .ok bs) : List.Forall₂ (fun a b => f a = .ok b) as bs := by
  induction as generalizing bs with
  | nil =>
      cases h
      exact .nil
  | cons a as ih =>
      simp only [List.mapM_cons, bind, Except.bind] at h
      split at h
      · cases h
      · rename_i b hb
        split at h
        · cases h
        · rename_i bs' hbs
          cases h
          exact .cons hb (ih hbs)

lemma exists_left_of_forall₂ {α β : Type} {R : α → β → Prop} {as : List α} {bs : List β}
    (h : List.Forall₂ R as bs) {b : β} (hb : b ∈ bs) : ∃ a ∈ as, R a b := by
  induction h with
  | nil => simp at hb
  | cons hab _ ih =>
      rcases List.mem_cons.mp hb with rfl | hb
      · exact ⟨_, List.mem_cons_self, hab⟩
      · obtain ⟨a, ha, hR⟩ := ih hb
        exact ⟨a, List.mem_cons_of_mem _ ha, hR⟩

lemma exists_right_of_forall₂ {α β : Type} {R : α → β → Prop} {as : List α} {bs : List β}
    (h : List.Forall₂ R as bs) {a : α} (ha : a ∈ as) : ∃ b ∈ bs, R a b := by
  obtain ⟨b, hb, hR⟩ := exists_left_of_forall₂ h.flip ha
  exact ⟨b, hb, hR⟩

/-- A stored job is read from its row. -/
structure ReadFrom (codec : Codec Json.Value) (row : PrintJobRow)
    (stored : StoredPrintJob Json.Value) : Prop where
  id : stored.id = row.jobId
  idempotencyKey : stored.idempotencyKey = row.idempotencyKey
  printerId : stored.printerId = row.printerId
  sourceMessageId : stored.sourceMessageId = row.sourceMessageId
  payload : codec.fromStr row.payloadJson = some stored.payload

lemma loadJob_ok {codec : Codec Json.Value} {row : PrintJobRow} {stored : StoredPrintJob Json.Value}
    (h : loadJob codec row = .ok stored) : ReadFrom codec row stored := by
  unfold loadJob at h
  split at h
  · rename_i payload hpayload
    cases h
    exact ⟨rfl, rfl, rfl, rfl, hpayload⟩
  · cases h

lemma mem_pendingRows {db : Database} {row : PrintJobRow} :
    row ∈ pendingRows db ↔ row ∈ db.jobs ∧ row.state = .received := by
  simp [pendingRows]

lemma call_pending_ok {env : Env} {now : Timestamp} {db db' : Database}
    {stored : List (StoredPrintJob Json.Value)} {events : List RepositoryEvent}
    (h : env.call config .pending now db = ⟨.ok stored, db', events⟩) :
    List.Forall₂ (fun row job => loadJob config.storage.codec row = .ok job) (pendingRows db)
      stored := by
  have hok := (@Env.call_ok config env _ .pending now db stored (by rw [h])).1
  exact forall₂_of_mapM (Prod.mk.inj hok).1

/-- The jobs a snapshot takes are received jobs. -/
lemma read_of_snapshot {env : Env} {now : Timestamp} {db db' : Database}
    {stored : List (StoredPrintJob Json.Value)} {events : List RepositoryEvent}
    (h : env.call config .pending now db = ⟨.ok stored, db', events⟩)
    {job : StoredPrintJob Json.Value} (hjob : job ∈ stored) :
    ∃ row ∈ db.jobs, row.state = .received ∧ ReadFrom config.storage.codec row job := by
  obtain ⟨row, hrow, hload⟩ := exists_left_of_forall₂ (call_pending_ok h) hjob
  obtain ⟨hmem, hstate⟩ := mem_pendingRows.mp hrow
  exact ⟨row, hmem, hstate, loadJob_ok hload⟩

/-! ## Jobs in hand -/

/-- Whether an action is a step of the flow. -/
def Action.isAdvance : Action → Bool
  | .advance _ => true
  | _ => false

/-- The jobs of its snapshot that a flow is still to process, the current one included. -/
def Flow.held : Flow → List (StoredPrintJob Json.Value)
  | .draining drain => drain.queue
  | .processing drain stored _ => stored :: drain.queue
  | _ => []

/-- The stages before a job is claimed. -/
def Stage.isUnclaimed : Stage → Bool
  | .fetching _ | .persisting _ _ | .claiming _ => true
  | .claimed _ | .submitting _ | .settling _ _ => false

@[simp] lemma Stage.isUnclaimed_of (job : PrintJob) (result : Except JobFailure Unit) :
    (Stage.of job result).isUnclaimed = true := by
  cases result <;> rfl

/-- Preparation claims nothing. -/
@[simp] lemma isUnclaimed_prepare (env : Env) (stored : StoredPrintJob Json.Value) :
    (prepare config env stored).isUnclaimed = true := by
  unfold prepare
  repeat' split
  all_goals first | rfl | exact Stage.isUnclaimed_of _ _

@[simp] lemma isUnclaimed_finishFetch (env : Env) (job : PrintJob) :
    (finishFetch env job).isUnclaimed = true := Stage.isUnclaimed_of _ _

/-- Where a job in hand after a step comes from. -/
inductive ComesIntoHand (config : AgentConfig) (agent : Agent) (action : Action) (agent' : Agent)
    (stored : StoredPrintJob Json.Value) : Prop
  | held : stored ∈ agent.flow.held → ComesIntoHand config agent action agent' stored
  | snapshot {env : Env} {call : Call} {row : PrintJobRow} :
      action = .advance env → agent.flow = .reading call → agent'.db = agent.db →
      row ∈ agent.db.jobs → row.state = .received → ReadFrom config.storage.codec row stored →
      ComesIntoHand config agent action agent' stored

/-- **Only a snapshot adds to the jobs in hand.** -/
theorem AgentStep.held {agent agent' : Agent} {action : Action} {effects : List Effect}
    (hstep : AgentStep config agent action effects agent') {stored : StoredPrintJob Json.Value}
    (hheld : stored ∈ agent'.flow.held) : ComesIntoHand config agent action agent' stored := by
  cases hstep with
  | snapshotTaken hread =>
      obtain ⟨row, hrow, hstate, hfrom⟩ := read_of_snapshot hread hheld
      exact .snapshot rfl rfl rfl hrow hstate hfrom
  | persisted => exact .held (List.mem_cons_of_mem _ hheld)
  | skipped => exact .held (List.mem_cons_of_mem _ hheld)
  | settled => exact .held (List.mem_cons_of_mem _ hheld)
  | restarted => simp [Agent.restart, Flow.held] at hheld
  | _ => first | exact .held hheld | simp [Flow.held] at hheld

/-! ## Events of the tables -/

lemma mem_ofEvents {e : RepositoryEvent} {events : List RepositoryEvent} :
    .repository e ∈ Effect.ofEvents events ↔ e ∈ events := by
  simp [Effect.ofEvents]

lemma mem_repositoryEvents {e : RepositoryEvent} {h : List Effect} :
    e ∈ repositoryEvents h ↔ .repository e ∈ h := by
  simp only [repositoryEvents, List.mem_filterMap]
  constructor
  · rintro ⟨effect, heffect, he⟩
    cases effect with
    | repository event =>
        cases he
        exact heffect
    | _ => cases he
  · exact fun he => ⟨_, he, rfl⟩

/-- A call shows no more than its operation. -/
lemma call_events {env : Env} {α : Type} {op : Operation Json.Value α} {now : Timestamp}
    {db db' : Database} {result : StorageResult α} {events : List RepositoryEvent}
    (h : env.call config op now db = ⟨result, db', events⟩) {e : RepositoryEvent}
    (he : e ∈ events) : e ∈ op.events config.storage now db := by
  have hevents : events = (env.call config op now db).events := by rw [h]
  rw [hevents] at he
  rcases @Env.call_cases config env _ op now db with
    ⟨-, hnone, -⟩ | ⟨-, hsame⟩
  · simp [hnone] at he
  · rwa [hsame] at he

/-- The row a delivery is stored as. -/
def deliveredRow (config : AgentConfig) (received : ReceivedPrintJob Json.Value) : PrintJobRow :=
  receivedRow config.storage.codec received received.payload.toString

lemma insertReceived_events {now : Timestamp} {received : ReceivedPrintJob Json.Value}
    {db : Database} {e : RepositoryEvent}
    (he : e ∈ (Operation.insertReceived received).events config.storage now db) :
    e = .inserted (deliveredRow config received) := by
  simp only [Operation.events, Operation.run] at he
  rcases @insertReceived_cases _ config.storage.codec _ config.storage.limits received db with ⟨r, hr, hrun⟩ | ⟨payload, db', hprep, -, hdb', hrun⟩
  · rw [hrun] at he
    cases r with
    | error e => simp [effectsOf] at he
    | ok a =>
        have ha : a ≠ .inserted := fun h => hr (by rw [h])
        simp [effectsOf, Operation.effects, ha] at he
  · obtain ⟨-, -, -, rfl⟩ := prepareReceived_ok_iff.mp hprep
    rw [hrun] at he
    simp only [effectsOf, Operation.effects, if_true, List.mem_map, Option.mem_toList] at he
    obtain ⟨row, hrow, rfl⟩ := he
    have hmem : deliveredRow config received ∈ db'.jobs := by
      rw [(Database.insertJob_ok hdb').1]
      exact List.mem_append_right _ (List.mem_singleton_self _)
    have hfound : db'.job received.id = some (deliveredRow config received) :=
      Database.job_of_mem hmem
    rw [hfound, Option.some.injEq] at hrow
    rw [← hrow]

lemma receivePrintJob_events {env : Env} {message : ServerMessage} {db db' : Database}
    {result : Except JobProcessingError ReceiveJobOutcome} {events : List RepositoryEvent}
    (h : receivePrintJob config env message db = ⟨result, db', events⟩) {e : RepositoryEvent}
    (he : e ∈ events) :
    ∃ job received, delivery message (env.clock 0) = .ok (job, received) ∧
      e = .inserted (deliveredRow config received) := by
  unfold receivePrintJob at h
  split at h
  · cases h
    simp at he
  · rename_i job received hdelivery
    cases h
    exact ⟨job, received, hdelivery, insertReceived_events (call_events rfl he)⟩

lemma recoverInterrupted_events {now : Timestamp} {db : Database} {e : RepositoryEvent}
    (he : e ∈ (Operation.recoverInterrupted : Operation Json.Value _).events config.storage now db) :
    ∃ id, e = .recovered id := by
  simp only [Operation.events, Operation.run, recoverInterrupted, effectsOf, Operation.effects,
    List.mem_map] at he
  obtain ⟨row, -, rfl⟩ := he
  exact ⟨row.jobId, rfl⟩

lemma maintainTerminalJobs_events {now : Timestamp} {db : Database} {e : RepositoryEvent}
    (he : e ∈ (Operation.maintainTerminalJobs : Operation Json.Value _).events config.storage now db) :
    ∃ id, e = .evicted id := by
  simp only [Operation.events, Operation.run, effectsOf, Operation.effects, evictions,
    List.mem_map] at he
  obtain ⟨row, -, rfl⟩ := he
  exact ⟨row.jobId, rfl⟩

lemma acknowledgeOutboundStatus_events {now : Timestamp} {messageId : String} {db : Database}
    {e : RepositoryEvent}
    (he : e ∈ (Operation.acknowledgeOutboundStatus messageId : Operation Json.Value _).events
      config.storage now db) : e = .acknowledged messageId := by
  simp only [Operation.events, Operation.run, acknowledgeOutboundStatus] at he
  cases hkey : validateKey "outbound message id" messageId 128 with
  | error e =>
      rw [hkey] at he
      simp [effectsOf] at he
  | ok _ =>
      rw [hkey] at he
      simpa [effectsOf, Operation.effects] using he

lemma Transition.event_cases {id : PrintJobId} {state : JobState} {db db' : Database}
    {result : StorageResult Unit} {events : List RepositoryEvent}
    (h : Transition config id state db result db' events) {e : RepositoryEvent} (he : e ∈ events) :
    e = .transitioned id state ∨
      (∃ status, e = .committed status ∧ status.jobId = id ∧ state ≠ .cancelled) ∨
      ∃ id', e = .evicted id' := by
  cases h with
  | refused => simp at he
  | taken _ hstatus =>
      simp only [transitionEvents, evictions, List.mem_cons, List.mem_append, List.mem_map] at he
      rcases he with rfl | ⟨status, hmem, rfl⟩ | ⟨row, -, rfl⟩
      · exact Or.inl rfl
      · exact Or.inr (Or.inl ⟨status, rfl, hstatus status (Option.mem_toList.mp hmem)⟩)
      · exact Or.inr (Or.inr ⟨row.jobId, rfl⟩)

/-- The states to which a stage moves its job. -/
inductive Stage.Yields : Stage → JobState → Prop
  | persisting {job : Option PrintJob} {failure : JobFailure} :
      Yields (.persisting job failure) .failed
  | claiming {job : PrintJob} : Yields (.claiming job) .submitting
  | settling {job : PrintJob} {submission : Except SpoolerError SubmissionReceipt}
      (cancelled : Bool) : Yields (.settling job submission) (settledState submission cancelled)

/-- What a step that shows an event of the tables looks like. -/
inductive Shows (config : AgentConfig) (agent : Agent) (action : Action) (agent' : Agent) :
    RepositoryEvent → Prop
  | inserted {message : ServerMessage} {env : Env} {job : PrintJob}
      {received : ReceivedPrintJob Json.Value} :
      action = .handlePrintJob message env → agent.flow = .idle → agent'.flow.held = [] →
      (∀ call, agent'.flow ≠ .reading call) →
      delivery message (env.clock 0) = .ok (job, received) →
      Shows config agent action agent' (.inserted (deliveredRow config received))
  | processed {env : Env} {drain : Drain} {stored : StoredPrintJob Json.Value} {stage : Stage}
      {state : JobState} {row row' : PrintJobRow} :
      action = .advance env → agent.flow = .processing drain stored stage → stage.Yields state →
      MovesTo agent.db agent'.db stored.id state row row' →
      Shows config agent action agent' (.transitioned stored.id state)
  | cancelled {id : PrintJobId} {row row' : PrintJobRow} :
      (∀ entry ∈ agent.active, entry.1 ≠ id) →
      MovesTo agent.db agent'.db id .cancelled row row' →
      Shows config agent action agent' (.transitioned id .cancelled)
  | recovered {id : PrintJobId} :
      agent'.flow = .idle ∨ (agent.flow = .idle ∧ ∃ call, agent'.flow = .readingReceipts call) →
      Shows config agent action agent' (.recovered id)
  | committed {env : Env} {drain : Drain} {stored : StoredPrintJob Json.Value} {stage : Stage}
      {status : OutboxRow} :
      action = .advance env → agent.flow = .processing drain stored stage → status.jobId = stored.id →
      Shows config agent action agent' (.committed status)
  | acknowledged {messageId : String} :
      Shows config agent action agent' (.acknowledged messageId)
  | evicted {id : PrintJobId} : Shows config agent action agent' (.evicted id)

/-- A transition of the job being processed. -/
lemma Shows.of_processing {agent agent' : Agent} {action : Action} {env : Env} {drain : Drain}
    {stored : StoredPrintJob Json.Value} {stage : Stage} {state : JobState}
    {result : StorageResult Unit} {events : List RepositoryEvent}
    (haction : action = .advance env) (hflow : agent.flow = .processing drain stored stage)
    (hyields : stage.Yields state)
    (h : Transition config stored.id state agent.db result agent'.db events) {e : RepositoryEvent}
    (he : e ∈ events) : Shows config agent action agent' e := by
  rcases h.event_cases he with rfl | ⟨status, rfl, hid, -⟩ | ⟨id', rfl⟩
  · obtain ⟨row, row', hmoves⟩ := h.moves_of_transitioned he
    exact .processed haction hflow hyields hmoves
  · exact .committed haction hflow hid
  · exact .evicted

/-- **What a step that shows an event of the tables looks like.** -/
theorem AgentStep.shows {agent agent' : Agent} {action : Action} {effects : List Effect}
    (hstep : AgentStep config agent action effects agent') {e : RepositoryEvent}
    (he : .repository e ∈ effects) : Shows config agent action agent' e := by
  cases hstep with
  | received hanswer =>
      obtain ⟨job, received, hdelivery, rfl⟩ := receivePrintJob_events hanswer (mem_ofEvents.mp he)
      exact .inserted rfl rfl rfl (by simp) hdelivery
  | receivedConflict hanswer =>
      obtain ⟨job, received, hdelivery, rfl⟩ :=
        receivePrintJob_events hanswer (mem_ofEvents.mp (by simpa using he))
      exact .inserted rfl rfl rfl (by simp) hdelivery
  | receiveFailed hanswer =>
      obtain ⟨job, received, hdelivery, rfl⟩ :=
        receivePrintJob_events hanswer (mem_ofEvents.mp (by simpa using he))
      exact .inserted rfl rfl rfl (by simp) hdelivery
  | recoverStarted hreply =>
      obtain ⟨id, rfl⟩ := recoverInterrupted_events (call_events hreply (mem_ofEvents.mp he))
      exact .recovered (Or.inr ⟨rfl, _, rfl⟩)
  | recoverFailed hreply =>
      obtain ⟨id, rfl⟩ :=
        recoverInterrupted_events (call_events hreply (mem_ofEvents.mp (by simpa using he)))
      exact .recovered (Or.inl rfl)
  | cancelAnswered hinactive =>
      obtain ⟨answer, htransition⟩ := @cancelQueued_transition config _ _ _
      have hevent := mem_ofEvents.mp (by simpa using he)
      rcases htransition.event_cases hevent with rfl | ⟨status, -, -, hnot⟩ | ⟨id', rfl⟩
      · obtain ⟨row, row', hmoves⟩ := htransition.moves_of_transitioned hevent
        exact .cancelled hinactive hmoves
      · exact absurd rfl hnot
      · exact .evicted
  | restarted =>
      simp only [Agent.restart, mem_ofEvents, List.mem_append] at he
      rcases he with he | he
      · obtain ⟨id, rfl⟩ := maintainTerminalJobs_events he
        exact .evicted
      · obtain ⟨id, rfl⟩ := recoverInterrupted_events he
        exact .recovered (Or.inl rfl)
  | persisted hanswer =>
      obtain ⟨answer, htransition, -⟩ := persistFailure_transition hanswer
      exact .of_processing rfl rfl .persisting htransition (mem_ofEvents.mp he)
  | persistFailed hanswer =>
      obtain ⟨answer, htransition, -⟩ := persistFailure_transition hanswer
      exact .of_processing rfl rfl .persisting htransition (mem_ofEvents.mp (by simpa using he))
  | claimed hanswer =>
      obtain ⟨answer, htransition, -⟩ := claim_transition hanswer
      exact .of_processing rfl rfl .claiming htransition (mem_ofEvents.mp he)
  | skipped hanswer =>
      obtain ⟨answer, htransition, -⟩ := claim_transition hanswer
      exact .of_processing rfl rfl .claiming htransition (mem_ofEvents.mp he)
  | claimFailed hanswer =>
      obtain ⟨answer, htransition, -⟩ := claim_transition hanswer
      exact .of_processing rfl rfl .claiming htransition (mem_ofEvents.mp (by simpa using he))
  | settled hanswer =>
      obtain ⟨answer, htransition, -⟩ := settle_transition hanswer
      exact .of_processing rfl rfl (.settling _) htransition (mem_ofEvents.mp (by simpa using he))
  | settleFailed hanswer =>
      obtain ⟨answer, htransition, -⟩ := settle_transition hanswer
      exact .of_processing rfl rfl (.settling _) htransition (mem_ofEvents.mp (by simpa using he))
  | confirmed hreply =>
      obtain rfl := acknowledgeOutboundStatus_events (call_events hreply (mem_ofEvents.mp he))
      exact .acknowledged
  | confirmFailed hreply =>
      obtain rfl := acknowledgeOutboundStatus_events
        (call_events hreply (mem_ofEvents.mp (by simpa using he)))
      exact .acknowledged
  | replayConfirmed hreply =>
      obtain rfl := acknowledgeOutboundStatus_events (call_events hreply (mem_ofEvents.mp he))
      exact .acknowledged
  | replayConfirmFailed hreply =>
      obtain rfl := acknowledgeOutboundStatus_events
        (call_events hreply (mem_ofEvents.mp (by simpa using he)))
      exact .acknowledged
  | _ => simp at he

/-- Jobs are inserted only while no call is draining. -/
lemma AgentStep.noInsertion {agent agent' : Agent} {action : Action} {effects : List Effect}
    (hstep : AgentStep config agent action effects agent')
    (hbusy : agent.flow ≠ .idle) {row : PrintJobRow} : .repository (.inserted row) ∉ effects := by
  intro hmem
  cases hstep.shows hmem with
  | inserted _ hidle => exact hbusy hidle

end Oppa
