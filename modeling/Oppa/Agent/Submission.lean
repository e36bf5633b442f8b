import Oppa.Agent.Settlement

/-!
# The submission in flight

From its claim to the record of its result a job is out of everybody else's reach: it is the one
entry of the active map, a cancellation only sets its token, and its row is submitting.

* `delivery_ok` — what an accepted delivery looks like.
* `Flow.inFlight` — the job between claim and settlement; `Flow.validated` — the job a flow has
  validated.
* `Flow.receipt` — the receipt that is about to be recorded.
* `SubmissionInvariant` — what holds in every run: the active map is the job in flight, its row is
  submitting, and whatever is to be reported can be.
* **`submissionInvariant_of_runs`**.
-/

namespace Oppa

open Protocol History

variable {config : AgentConfig}

/-- What an accepted delivery looks like. -/
structure Admitted (message : ServerMessage) (job : PrintJob)
    (received : ReceivedPrintJob Json.Value) : Prop where
  messageValid : message.validate = .ok ()
  kind : message.kind = .printJob job
  jobValid : job.validate = .ok ()
  id : received.id.value = job.jobId
  idempotencyKey : received.idempotencyKey = job.idempotencyKey
  printerId : received.printerId.value = job.printerId
  payload : received.payload = job.toValue
  source : received.sourceMessageId = message.messageId

lemma delivery_ok {message : ServerMessage} {receivedAt : Timestamp} {job : PrintJob}
    {received : ReceivedPrintJob Json.Value}
    (h : delivery message receivedAt = .ok (job, received)) : Admitted message job received := by
  unfold delivery at h
  simp only [bind, Except.bind] at h
  split at h
  · cases h
  rename_i hmessage
  split at h
  · rename_i job' hkind
    split at h
    · cases h
    rename_i hjob
    split at h
    · cases h
    rename_i id hid
    split at h
    · cases h
    rename_i printerId hprinter
    cases h
    have hvalid : ∀ {ε ε' α : Type} {f : ε → ε'} {x : Except ε α} {a : α},
        x.mapError f = .ok a → x = .ok a := by
      intro ε ε' α f x a hx
      cases x with
      | error e => cases hx
      | ok b =>
          cases hx
          rfl
    exact ⟨hvalid hmessage, hkind, hvalid hjob, TypedIdentifier.value_of_new (hvalid hid), rfl,
      TypedIdentifier.value_of_new (hvalid hprinter), rfl, rfl⟩
  · cases h

lemma Admitted.source_valid {message : ServerMessage} {job : PrintJob}
    {received : ReceivedPrintJob Json.Value} (h : Admitted message job received) :
    Protocol.validateIdentifier received.sourceMessageId "messageId" 128 = .ok () := by
  have hvalid := h.messageValid
  simp only [ServerMessage.validate, validateEnvelope, andThen_eq_ok] at hvalid
  rw [h.source]
  exact hvalid.1.1

/-! ## The job in flight -/

/-- The job between its claim and the record of its result. -/
def Flow.inFlight : Flow → List PrintJobId
  | .processing _ stored (.claimed _) | .processing _ stored (.submitting _)
  | .processing _ stored (.settling _ _) => [stored.id]
  | _ => []

/-- The job a stage has validated. -/
def Stage.validated : Stage → Option PrintJob
  | .claiming job | .claimed job | .submitting job | .settling job _ => some job
  | .fetching job => some job
  | .persisting _ _ => none

/-- The job a flow has validated. -/
def Flow.validated : Flow → Option PrintJob
  | .processing _ _ stage => stage.validated
  | _ => none

lemma inFlight_processing {drain : Drain} {stored : StoredPrintJob Json.Value} {stage : Stage}
    (h : stage.isUnclaimed = true) : (Flow.processing drain stored stage).inFlight = [] := by
  cases stage <;> first | rfl | simp [Stage.isUnclaimed] at h

lemma inFlight_of_held {flow : Flow} (h : flow.held = []) : flow.inFlight = [] := by
  cases flow <;> first | rfl | simp [Flow.held] at h

lemma validated_of {job job' : PrintJob} {result : Except JobFailure Unit}
    (h : (Stage.of job result).validated = some job') : job' = job := by
  cases result with
  | error e => cases h
  | ok _ => exact (Option.some.inj h).symm

/-- Preparation goes on only with a job it has validated. -/
lemma reportable_of_prepare {env : Env} {stored : StoredPrintJob Json.Value} {job : PrintJob}
    (h : (prepare config env stored).validated = some job) : ReportableJob job := by
  unfold prepare at h
  split at h
  · cases h
  · rename_i read hread
    have hreportable : ∀ {printer},
        (do validatePersistedJob stored read; resolveEnabledPrinter env stored.printerId) =
          .ok printer → ReportableJob read := by
      intro printer hok
      refine reportableJob_of_valid ?_
      simp only [validatePersistedJob, bind, Except.bind] at hok
      cases hvalid : read.validate with
      | error e => simp [hvalid] at hok
      | ok _ => rfl
    split at h
    · cases h
    · rename_i printer hprinter
      split at h
      · exact validated_of h ▸ hreportable hprinter
      · split at h
        · cases h
        · cases h
          exact hreportable hprinter

/-- The receipt that is about to be recorded, and the job it is for. -/
def Flow.receipt : Flow → Option (PrintJobId × SubmissionReceipt)
  | .processing _ stored (.settling _ (.ok receipt)) => some (stored.id, receipt)
  | _ => none

lemma receipt_inFlight {flow : Flow} {id : PrintJobId} {receipt : SubmissionReceipt}
    (h : flow.receipt = some (id, receipt)) : id ∈ flow.inFlight := by
  unfold Flow.receipt at h
  split at h
  · cases h
    exact List.mem_singleton_self _
  · cases h

lemma receipt_of_unclaimed {drain : Drain} {stored : StoredPrintJob Json.Value} {stage : Stage}
    (h : stage.isUnclaimed = true) : (Flow.processing drain stored stage).receipt = none := by
  cases stage <;> first | rfl | simp [Stage.isUnclaimed] at h

/-- The receipt that is about to be recorded prints as a protocol timestamp. -/
def Flow.ReceiptPrints (config : AgentConfig) (flow : Flow) : Prop :=
  ∀ id receipt, flow.receipt = some (id, receipt) →
    validateTimestamp (config.display receipt.acceptedAt) "timestamp" = .ok ()

lemma Flow.ReceiptPrints.initial : (Agent.initial).flow.ReceiptPrints config := by
  intro id receipt h
  cases h

/-- Receipts come from the surroundings, and print if these conform. -/
lemma Flow.ReceiptPrints.step {agent agent' : Agent} {action : Action} {effects : List Effect}
    (hprints : agent.flow.ReceiptPrints config)
    (hconforms : ∀ env, action = .advance env → env.Conforms config agent.db)
    (hstep : AgentStep config agent action effects agent') :
    agent'.flow.ReceiptPrints config := by
  intro id receipt hreceipt
  cases hstep with
  | @submitReturned _ _ _ env =>
      refine (hconforms env rfl).accepted receipt ?_
      cases hanswer : env.submission with
      | ok answered =>
          simp only [Flow.receipt, hanswer, Option.some.injEq, Prod.mk.injEq] at hreceipt
          rw [hreceipt.2]
      | error e => simp [Flow.receipt, hanswer] at hreceipt
  | jobTaken => simp [receipt_of_unclaimed] at hreceipt
  | documentFetched => simp [receipt_of_unclaimed] at hreceipt
  | restarted => simp [Agent.restart, Flow.receipt] at hreceipt
  | _ => first | exact hprints id receipt hreceipt | cases hreceipt

/-! ## The invariant -/

/-- What holds of the submission in flight. -/
structure SubmissionInvariant (agent : Agent) : Prop where
  /-- Jobs were delivered in messages whose identifiers a status can refer to. -/
  source : ∀ row ∈ agent.db.jobs,
    Protocol.validateIdentifier row.sourceMessageId "messageId" 128 = .ok ()
  heldSource : ∀ stored ∈ agent.flow.held,
    Protocol.validateIdentifier stored.sourceMessageId "messageId" 128 = .ok ()
  reportable : ∀ job ∈ agent.flow.validated, ReportableJob job
  active : agent.active.map Prod.fst = agent.flow.inFlight
  submitting : ∀ id ∈ agent.flow.inFlight,
    ∃ row, agent.db.job id = some row ∧ row.state = .submitting

lemma SubmissionInvariant.initial : SubmissionInvariant .initial where
  source := by simp [Agent.initial, Database.empty]
  heldSource := by simp [Agent.initial, Flow.held]
  reportable := by simp [Agent.initial, Flow.validated]
  active := rfl
  submitting := by simp [Agent.initial, Flow.inFlight]

section Step

variable {agent agent' : Agent} {action : Action} {effects : List Effect}

lemma SubmissionInvariant.source_step (hinv : SubmissionInvariant agent)
    (hstep : AgentStep config agent action effects agent') {row : PrintJobRow}
    (hrow : row ∈ agent'.db.jobs) :
    Protocol.validateIdentifier row.sourceMessageId "messageId" 128 = .ok () := by
  rcases hstep.commits.row_cases hrow with ⟨old, hold, hpath, -⟩ | ⟨first, hfirst, hpath⟩
  · rw [hpath.sourceMessageId]
    exact hinv.source old hold
  · rw [hpath.sourceMessageId]
    cases hstep.shows (mem_repositoryEvents.mp hfirst) with
    | inserted _ _ _ _ hdelivery => exact (delivery_ok hdelivery).source_valid

lemma SubmissionInvariant.heldSource_step (hinv : SubmissionInvariant agent)
    (hstep : AgentStep config agent action effects agent') {stored : StoredPrintJob Json.Value}
    (hheld : stored ∈ agent'.flow.held) :
    Protocol.validateIdentifier stored.sourceMessageId "messageId" 128 = .ok () := by
  cases hstep.held hheld with
  | held hold => exact hinv.heldSource stored hold
  | snapshot _ _ _ hrow _ hread =>
      rw [hread.sourceMessageId]
      exact hinv.source _ hrow

lemma SubmissionInvariant.reportable_step (hinv : SubmissionInvariant agent)
    (hstep : AgentStep config agent action effects agent') {job : PrintJob}
    (hjob : agent'.flow.validated = some job) : ReportableJob job := by
  cases hstep with
  | jobTaken => exact reportable_of_prepare hjob
  | documentFetched =>
      rw [validated_of hjob]
      exact hinv.reportable _ rfl
  | restarted => simp [Agent.restart, Flow.validated] at hjob
  | _ => first | exact hinv.reportable _ hjob | cases hjob

lemma map_fst_cancel {active : List (PrintJobId × Bool)} {id : PrintJobId} :
    (active.map fun entry => if entry.1 = id then (entry.1, true) else entry).map Prod.fst
      = active.map Prod.fst := by
  rw [List.map_map]
  refine List.map_congr_left fun entry _ => ?_
  simp only [Function.comp_apply]
  split <;> rfl

lemma map_fst_release {active : List (PrintJobId × Bool)} {id : PrintJobId}
    (h : active.map Prod.fst = [id]) :
    (active.filter fun entry => entry.1 ≠ id).map Prod.fst = [] := by
  rw [List.map_eq_nil_iff, List.filter_eq_nil_iff]
  intro entry hentry
  have hmem : entry.1 ∈ active.map Prod.fst := List.mem_map_of_mem hentry
  rw [h, List.mem_singleton] at hmem
  simp [hmem]

lemma SubmissionInvariant.active_step (hinv : SubmissionInvariant agent)
    (hstep : AgentStep config agent action effects agent') :
    agent'.active.map Prod.fst = agent'.flow.inFlight := by
  have hactive := hinv.active
  cases hstep with
  | cancelRequested => exact map_fst_cancel.trans hactive
  | restarted => rfl
  | jobTaken => exact hactive.trans (inFlight_processing (isUnclaimed_prepare _ _)).symm
  | documentFetched => exact hactive.trans (inFlight_processing (isUnclaimed_finishFetch _ _)).symm
  | claimed =>
      have hnone := List.map_eq_nil_iff.mp hactive
      simp only at hnone
      subst hnone
      rfl
  | settled => exact map_fst_release hactive
  | settleFailed => exact map_fst_release hactive
  | _ => exact hactive

/-- Nothing but a step of its flow moves the job in flight. -/
lemma SubmissionInvariant.untouched (hinv : SubmissionInvariant agent)
    (hstep : AgentStep config agent action effects agent') (hflow : agent'.flow = agent.flow)
    (hother : ∀ env, action ≠ .advance env) {id : PrintJobId} (hid : id ∈ agent.flow.inFlight) :
    Untouched id (repositoryEvents effects) := by
  have hbusy : agent.flow ≠ .idle := by
    intro hidle
    simp [hidle, Flow.inFlight] at hid
  refine ⟨fun state hmem => ?_, fun hmem => ?_⟩
  · cases hstep.shows (mem_repositoryEvents.mp hmem) with
    | processed haction => exact hother _ haction
    | cancelled hinactive =>
        rw [← hinv.active] at hid
        obtain ⟨entry, hentry, heq⟩ := List.mem_map.mp hid
        exact hinactive entry hentry heq
  · cases hstep.shows (mem_repositoryEvents.mp hmem) with
    | recovered hidle => exact hidle.elim (fun h => hbusy (hflow ▸ h)) fun h => hbusy h.1

lemma SubmissionInvariant.submitting_step (hinv : SubmissionInvariant agent)
    (hstep : AgentStep config agent action effects agent') {id : PrintJobId}
    (hid : id ∈ agent'.flow.inFlight) :
    ∃ row, agent'.db.job id = some row ∧ row.state = .submitting := by
  have hbeside : agent'.flow = agent.flow → (∀ env, action ≠ .advance env) →
      ∃ row, agent'.db.job id = some row ∧ row.state = .submitting := by
    intro hflow hother
    rw [hflow] at hid
    obtain ⟨row, hrow, hstate⟩ := hinv.submitting id hid
    obtain ⟨hmem, hrowId⟩ := Database.job_eq_some.mp hrow
    have hpending : row.isTerminal = false := by
      simp [PrintJobRow.isTerminal, JobState.isTerminal, hstate]
    have huntouched := hinv.untouched hstep hflow hother hid
    have hkept := hstep.commits.keeps_pending hmem hpending (hrowId ▸ huntouched)
    exact ⟨row, Database.job_eq_some.mpr ⟨hkept, hrowId⟩, hstate⟩
  cases hstep with
  | claimed hanswer =>
      obtain ⟨answer, htransition, hclaimed⟩ := claim_transition hanswer
      rw [hclaimed rfl] at htransition
      obtain ⟨row, row', hmoves⟩ := htransition.of_ok
      rw [List.mem_singleton.mp hid]
      exact ⟨row', hmoves.after, hmoves.state_eq⟩
  | submitCalled => exact hinv.submitting id hid
  | submitReturned => exact hinv.submitting id hid
  | jobTaken => simp [inFlight_processing] at hid
  | documentFetched => simp [inFlight_processing] at hid
  | restarted => simp [Agent.restart, Flow.inFlight] at hid
  | _ => first | exact hbeside rfl (by simp) | simp [Flow.inFlight] at hid

/-- **One step keeps the invariant.** -/
lemma SubmissionInvariant.step (hinv : SubmissionInvariant agent)
    (hstep : AgentStep config agent action effects agent') : SubmissionInvariant agent' where
  source _ hrow := hinv.source_step hstep hrow
  heldSource _ hheld := hinv.heldSource_step hstep hheld
  reportable _ hjob := hinv.reportable_step hstep hjob
  active := hinv.active_step hstep
  submitting _ hid := hinv.submitting_step hstep hid

end Step

/-- The result of a submission can always be recorded. -/
theorem SubmissionInvariant.settles {agent : Agent} {env : Env}
    {stored : StoredPrintJob Json.Value} {job : PrintJob} {drain : Drain}
    {submission : Except SpoolerError SubmissionReceipt} {cancelled : Bool}
    (hinv : SubmissionInvariant agent) (hprints : agent.flow.ReceiptPrints config)
    (hconforms : env.Conforms config agent.db) (hfault : env.fault ≠ .before)
    (hflow : agent.flow = .processing drain stored (.settling job submission)) :
    Takes env stored.id (settledState submission cancelled) agent.db
      (settle config env stored job submission cancelled agent.db).db
      (∃ outcome, (settle config env stored job submission cancelled agent.db).result
        = .ok outcome) := by
  obtain ⟨row, hrow, hstate⟩ := hinv.submitting stored.id (by simp [hflow, Flow.inFlight])
  have hjob : Recordable stored job :=
    ⟨hinv.reportable job (by simp [hflow, Flow.validated, Stage.validated]),
      hinv.heldSource stored (by simp [hflow, Flow.held])⟩
  refine settle_takes hrow hstate hjob hconforms.prints ?_ hconforms.draws hfault
  rintro receipt rfl
  exact hprints stored.id receipt (by simp [hflow, Flow.receipt])

/-- **What holds of the submission in flight holds in every run.** -/
theorem submissionInvariant_of_runs {ok : StepCondition Agent Action Effect} {h : List Effect}
    {agent : Agent} (hrun : (agentSystem config).Runs ok .initial h agent) :
    SubmissionInvariant agent :=
  hrun.invariant (I := fun _ agent => SubmissionInvariant agent) .initial
    fun _ _ _ _ _ _ hinv _ hstep => hinv.step (step_cases hstep)

end Oppa
