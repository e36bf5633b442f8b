import Oppa.Agent.Custody

/-!
# When a result is recorded

What it takes for the calls of a drain to succeed: a claim, the record of a failure, and the record
of what the spooler answered.  None of them can fail on account of the status message it builds.

* `Env.Prints`, `Env.Draws` — the clock prints as the protocol asks, and a random identifier is not
  one that is in use; `Env.Conforms` is both.
* `Recordable` — a job about which statuses can be reported.
* **`claim_takes`, `persistFailure_takes`, `settle_takes`** — with these, a call that is not lost
  makes its transition, and one that answers answers with its outcome.
-/

namespace Oppa

open Protocol History

variable {config : AgentConfig}

/-- The clock prints as a protocol timestamp. -/
def Env.Prints (config : AgentConfig) (env : Env) : Prop :=
  ∀ i, validateTimestamp (config.display (env.clock i)) "timestamp" = .ok ()

/-- The first identifier drawn is not that of a status in the outbox. -/
def Env.Draws (env : Env) (db : Database) : Prop :=
  ∀ status ∈ db.outbox, status.messageId ≠ "msg_" ++ (env.uuid 0).simple

instance (env : Env) (db : Database) : Decidable (env.Draws db) :=
  inferInstanceAs (Decidable (∀ status ∈ db.outbox, _))

/-- The surroundings of a step answer as documented: times print as protocol timestamps, and random
identifiers do not repeat. -/
structure Env.Conforms (config : AgentConfig) (env : Env) (db : Database) : Prop where
  prints : env.Prints config
  accepted : ∀ receipt, env.submission = .ok receipt →
    validateTimestamp (config.display receipt.acceptedAt) "timestamp" = .ok ()
  draws : env.Draws db

/-- The libraries of the samples print every time alike. -/
lemma Sample.conforms {messages : List AgentMessage} {env : Env} {db : Database}
    (hdraws : env.Draws db) : env.Conforms (Sample.config messages) db := by
  have hprints : validateTimestamp "2026-07-01T09:00:00.000Z" "timestamp" = .ok () := by decide
  exact ⟨fun _ => hprints, fun _ _ => hprints, hdraws⟩

/-- A job about which statuses can be reported. -/
structure Recordable (stored : StoredPrintJob Json.Value) (job : PrintJob) : Prop where
  job : ReportableJob job
  source : Protocol.validateIdentifier stored.sourceMessageId "messageId" 128 = .ok ()

/-- A terminal status of a job, as the agent builds it. -/
structure Terminal (job : PrintJob) (uuid : Uuid) (message : AgentMessage) : Prop where
  valid : message.validate = .ok ()
  jobId : terminalJobId message = some job.jobId
  messageId : message.messageId = "msg_" ++ uuid.simple

section Messages

variable {env : Env} {stored : StoredPrintJob Json.Value} {job : PrintJob}
  {sentAt : Timestamp}

lemma Recordable.submittedMessage_ok (uuid : Uuid) (h : Recordable stored job)
    {submittedAt : Timestamp}
    (hat : validateTimestamp (config.display submittedAt) "timestamp" = .ok ())
    (hsent : validateTimestamp (config.display sentAt) "timestamp" = .ok ()) :
    ∃ message, submittedMessage config.toLibraries job stored.sourceMessageId submittedAt uuid sentAt
      = .ok message ∧ Terminal job uuid message := by
  have hkind := @submittedPayload_valid config.toLibraries _ _ h.job
    (validateTimestamp_path "submittedAt" hat)
  have hmessage := @agentMessage_of_valid _ _ _ uuid _ rfl (validateIdentifier_path _ h.source)
    (validateTimestamp_path _ hsent) hkind
  exact ⟨_, hmessage, (agentMessage_ok hmessage).2, rfl, rfl⟩

lemma Recordable.failedMessage_ok (uuid : Uuid) (h : Recordable stored job)
    {failedAt : Timestamp} (failure : JobFailure)
    (hat : validateTimestamp (config.display failedAt) "timestamp" = .ok ())
    (hsent : validateTimestamp (config.display sentAt) "timestamp" = .ok ()) :
    ∃ message, failedMessage config.toLibraries job stored.sourceMessageId failedAt failure uuid
      sentAt = .ok message ∧ Terminal job uuid message := by
  have hkind := @failedPayload_valid config.toLibraries _ _ failure h.job
    (validateTimestamp_path "failedAt" hat)
  have hmessage := @agentMessage_of_valid _ _ _ uuid _ rfl (validateIdentifier_path _ h.source)
    (validateTimestamp_path _ hsent) hkind
  exact ⟨_, hmessage, (agentMessage_ok hmessage).2, rfl, rfl⟩

end Messages

/-! ## Operations that succeed -/

section Store

variable {limits : StorageLimits} {now : Timestamp} {id : PrintJobId} {requested : JobState}
  {receipt : Option SubmissionReceipt} {error : Option StoredJobError} {db : Database}
  {row : PrintJobRow}

/-- An allowed transition succeeds if its status has an unused identifier. -/
lemma transition_ok {status : Option OutboxRow} (hrow : db.job id = some row)
    (hallowed : transitionAllowed row.state requested = true)
    (hstatus : ∀ s ∈ status, s.jobId = id ∧ s.messageId ∉ db.outbox.map OutboxRow.messageId) :
    (transition limits now id requested receipt error status db).1 = .ok () := by
  have hrec : ∃ recorded, recordStatus status
      (updatedBy now id requested receipt error db) = .ok recorded := by
    cases status with
    | none => exact ⟨_, rfl⟩
    | some s =>
        obtain ⟨hid, hfree⟩ := hstatus s rfl
        exact recordStatus_of_free hrow hid hfree
  obtain ⟨recorded, hrec⟩ := hrec
  rw [transition_of_recorded hrow hallowed hrec]

/-- So does one that commits a status the agent has built. -/
lemma transitionWithStatus_ok {env : Env} {job : PrintJob} {message : AgentMessage}
    {createdAt : Timestamp} (hrow : db.job id = some row)
    (hallowed : transitionAllowed row.state requested = true)
    (hmessage : Terminal job (env.uuid 0) message) (hdraws : env.Draws db) :
    (Operation.transitionWithStatus config.storage now id requested receipt error
      (outboundStatus id message createdAt) db).1 = .ok () := by
  unfold Operation.transitionWithStatus
  rw [prepareOutboundStatus_outboundStatus hmessage.valid (by rw [hmessage.jobId]; rfl)]
  refine transition_ok hrow hallowed ?_
  rintro s ⟨⟩
  refine ⟨rfl, fun hmem => ?_⟩
  obtain ⟨status, hstatus, hid⟩ := List.mem_map.mp hmem
  exact hdraws status hstatus (hid.trans hmessage.messageId)

end Store

section Call

variable {env : Env} {id : PrintJobId} {state : JobState} {now : Timestamp} {db : Database}

/-- What a call leaves behind that is to move a job to a state. -/
structure Takes (env : Env) (id : PrintJobId) (state : JobState) (db db' : Database)
    (answered : Prop) : Prop where
  moves : ∃ row row', MovesTo db db' id state row row'
  answers : env.fault = .absent → answered

lemma Takes.imp {db' : Database} {answered answered' : Prop} (hanswer : answered → answered')
    (h : Takes env id state db db' answered) : Takes env id state db db' answered' :=
  ⟨h.moves, fun habsent => hanswer (h.answers habsent)⟩

/-- A call of an operation that succeeds takes effect, unless it is lost before. -/
lemma call_takes {op : Operation Json.Value Unit} (hop : op.transition? = some (id, state))
    (hok : (op.run config.storage now db).1 = .ok ()) (hfault : env.fault ≠ .before) :
    Takes env id state db (env.call config op now db).db
      ((env.call config op now db).result = .ok ()) := by
  obtain ⟨hmoves, -⟩ := run_transition hop hok
  unfold Env.call
  cases hcase : env.fault with
  | absent => exact ⟨hmoves, fun _ => hok⟩
  | before => exact absurd hcase hfault
  | after => exact ⟨hmoves, fun h => by rw [hcase] at h; cases h⟩

end Call

/-! ## The calls of a drain -/

section Calls

variable {env : Env} {stored : StoredPrintJob Json.Value} {job : PrintJob} {db : Database}
  {row : PrintJobRow}

/-- A claim of a stored job is answered: the job is claimed or, if it has moved on, skipped. -/
theorem claim_takes (hrow : db.job stored.id = some row) (hfault : env.fault = .absent) :
    ∃ result, (claim config env stored db).result = .ok result := by
  unfold claim
  rw [Env.call_absent hfault]
  simp only [Operation.run]
  cases hallowed : transitionAllowed row.state .submitting with
  | true =>
      rw [transition_ok hrow hallowed (by simp)]
      exact ⟨_, rfl⟩
  | false =>
      rw [transition_of_disallowed hrow hallowed]
      exact ⟨_, rfl⟩

/-- The record of a failure takes effect, unless it is lost. -/
theorem persistFailure_takes {reportable : Option PrintJob} {failure : JobFailure}
    (hrow : db.job stored.id = some row)
    (hallowed : transitionAllowed row.state .failed = true)
    (hjob : ∀ job ∈ reportable, Recordable stored job) (hprints : env.Prints config)
    (hdraws : env.Draws db) (hfault : env.fault ≠ .before) :
    Takes env stored.id .failed db (persistFailure config env stored reportable failure db).db
      (∃ outcome, (persistFailure config env stored reportable failure db).result = .ok outcome) := by
  unfold persistFailure
  simp only
  have hstored := (recoveryAwareFailure stored.recoveryCount failure).validate_stored (env.clock 0)
  cases reportable with
  | none =>
      have hok : ((Operation.markFailed stored.id
          ((recoveryAwareFailure stored.recoveryCount failure).stored (env.clock 0))).run
            config.storage (env.clock 1) db).1 = .ok () := by
        simp only [Operation.run, Operation.whenValid, hstored]
        exact transition_ok hrow hallowed (by simp)
      refine (call_takes rfl hok hfault).imp fun hanswer => ⟨.failed stored.id none, ?_⟩
      simp only [hanswer]
      rfl
  | some job =>
      obtain ⟨message, hmessage, hterminal⟩ := (hjob job rfl).failedMessage_ok (env.uuid 0)
        (recoveryAwareFailure stored.recoveryCount failure) (hprints 0) (hprints 1)
      simp only [hmessage]
      have hok : ((Operation.markFailedWithStatus stored.id
          ((recoveryAwareFailure stored.recoveryCount failure).stored (env.clock 0))
          (outboundStatus stored.id message (env.clock 2))).run config.storage (env.clock 3) db).1
            = .ok () := by
        simp only [Operation.run, Operation.whenValid, hstored]
        exact transitionWithStatus_ok hrow hallowed hterminal hdraws
      refine (call_takes rfl hok hfault).imp fun hanswer => ⟨.failed stored.id (some message), ?_⟩
      simp only [hanswer]
      rfl

/-- The record of what the spooler answered takes effect, unless it is lost. -/
theorem settle_takes {submission : Except SpoolerError SubmissionReceipt} {cancelled : Bool}
    (hrow : db.job stored.id = some row) (hstate : row.state = .submitting)
    (hjob : Recordable stored job) (hprints : env.Prints config)
    (haccepted : ∀ receipt, submission = .ok receipt →
      validateTimestamp (config.display receipt.acceptedAt) "timestamp" = .ok ())
    (hdraws : env.Draws db) (hfault : env.fault ≠ .before) :
    Takes env stored.id (settledState submission cancelled) db
      (settle config env stored job submission cancelled db).db
      (∃ outcome, (settle config env stored job submission cancelled db).result = .ok outcome) := by
  unfold settle
  cases submission with
  | ok receipt =>
      obtain ⟨message, hmessage, hterminal⟩ := hjob.submittedMessage_ok (env.uuid 0)
        (haccepted receipt rfl) (hprints 1)
      simp only [hmessage]
      have hok : ((Operation.markSubmittedWithStatus stored.id receipt
          (outboundStatus stored.id message (env.clock 2))).run config.storage (env.clock 3) db).1
            = .ok () := by
        simp only [Operation.run]
        exact transitionWithStatus_ok hrow (by simp [hstate, transitionAllowed]) hterminal hdraws
      refine (call_takes rfl hok hfault).imp fun hanswer => ⟨.submitted stored.id message, ?_⟩
      simp only [hanswer]
      rfl
  | error e =>
      simp only [settledState]
      split
      · have hok : ((Operation.markCancelled stored.id : Operation Json.Value _).run config.storage
            (env.clock 0) db).1 = .ok () :=
          transition_ok hrow (by simp [hstate, transitionAllowed]) (by simp)
        refine (call_takes rfl hok hfault).imp fun hanswer => ⟨.cancelled stored.id, ?_⟩
        simp only [hanswer]
        rfl
      · refine persistFailure_takes hrow (by simp [hstate, transitionAllowed]) ?_ hprints hdraws hfault
        rintro j ⟨⟩
        exact hjob

end Calls

end Oppa
