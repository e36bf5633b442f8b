import Oppa.Agent.Admission

/-!
# Outcomes can be recorded

Once the spooler has answered, the agent builds a status about the job, the store checks it, and a
failure is checked as well.  None of these checks refuses anything on account of its content.

* `Timestamp.FourDigitYear` — the instants whose year has four digits; a protocol timestamp has no
  room for others.
* `StatusTaken` — a status is built, passes the check of the protocol, and is taken by the outbox.
* `Recorded` — what is meant by an outcome that can always be recorded.
* **`outcome_recorded`** — every delivered job has it, at instants of four-digit years.
-/

namespace Oppa

open Protocol Text

variable {config : AgentConfig}

/-- The instants of the years 0 to 9999. -/
def Timestamp.FourDigitYear (t : Timestamp) : Prop :=
  -62167219200000 ≤ t.millis ∧ t.millis < 253402300800000

instance (t : Timestamp) : Decidable t.FourDigitYear := inferInstanceAs (Decidable (_ ∧ _))

/-- What `to_rfc3339_opts` documents: a year of four digits is printed as such. -/
def Libraries.PrintsFourDigitYears (libraries : Libraries) : Prop :=
  ∀ t : Timestamp, t.FourDigitYear → validateTimestamp (libraries.display t) "timestamp" = .ok ()

/-! ## Cut texts -/

/-- A cut text is the beginning of the text. -/
lemma truncateUtf8_prefix (budget : ℕ) (cs : List Char) : truncateUtf8 budget cs <+: cs := by
  induction cs generalizing budget with
  | nil => exact List.prefix_rfl
  | cons c cs ih =>
      rw [truncateUtf8]
      split_ifs with hfits
      · exact List.cons_prefix_cons.mpr ⟨rfl, ih _⟩
      · exact List.nil_prefix

/-- It is cut no earlier than needed: the next character would not fit. -/
lemma truncateUtf8_maximal {budget : ℕ} {cs : List Char} {c : Char}
    (hnext : truncateUtf8 budget cs ++ [c] <+: cs) :
    budget < ((truncateUtf8 budget cs ++ [c]).map Char.utf8Size).sum := by
  induction cs generalizing budget with
  | nil => simp [truncateUtf8] at hnext
  | cons d cs ih =>
      rw [truncateUtf8] at hnext ⊢
      split_ifs at hnext ⊢ with hfits
      · rw [List.cons_append, List.cons_prefix_cons] at hnext
        have hrest := ih hnext.2
        simp only [List.cons_append, List.map_cons, List.sum_cons]
        omega
      · rw [List.nil_append, List.cons_prefix_cons] at hnext
        simp only [hnext.1, List.nil_append, List.map_cons, List.map_nil, List.sum_cons,
          List.sum_nil]
        omega

/-! ## Statuses that are taken -/

/-- A status is built, passes the check of the protocol, and is taken by the outbox. -/
def StatusTaken (config : AgentConfig) (id : PrintJobId) (createdAt : Timestamp)
    (built : Except ValidationError AgentMessage) : Prop :=
  ∃ message row, built = .ok message ∧ message.validate = .ok () ∧
    prepareOutboundStatus config.storage.codec id (outboundStatus id message createdAt) = .ok row

lemma Terminal.statusTaken {job : PrintJob} {uuid : Uuid} {message : AgentMessage}
    {built : Except ValidationError AgentMessage} (hbuilt : built = .ok message)
    (hterminal : Terminal job uuid message) (id : PrintJobId) (createdAt : Timestamp) :
    StatusTaken config id createdAt built := by
  have hjob : (terminalJobId message).isSome = true := by
    rw [hterminal.jobId]
    rfl
  exact ⟨message, _, hbuilt, hterminal.valid,
    prepareOutboundStatus_outboundStatus hterminal.valid hjob⟩

/-- Whatever the spooler answers and whatever goes wrong, the outcome of the job can be recorded. -/
structure Recorded (config : AgentConfig) (stored : StoredPrintJob Json.Value) (job : PrintJob) :
    Prop where
  submitted : ∀ (receipt : SubmissionReceipt) (uuid : Uuid) (sentAt createdAt : Timestamp),
    receipt.acceptedAt.FourDigitYear → sentAt.FourDigitYear →
      StatusTaken config stored.id createdAt (submittedMessage config.toLibraries job
        stored.sourceMessageId receipt.acceptedAt uuid sentAt)
  failed : ∀ (code : FailureCode) (text : String) (retryable : Bool) (uuid : Uuid)
    (failedAt sentAt createdAt : Timestamp), failedAt.FourDigitYear → sentAt.FourDigitYear →
      StatusTaken config stored.id createdAt (failedMessage config.toLibraries job
        stored.sourceMessageId failedAt
        (recoveryAwareFailure stored.recoveryCount (.new code text retryable)) uuid sentAt)
  error : ∀ (code : FailureCode) (text : String) (retryable : Bool) (failedAt : Timestamp),
    ((recoveryAwareFailure stored.recoveryCount (.new code text retryable)).stored
      failedAt).validate = .ok ()
  /-- The record fails only because of the database or a lost race. -/
  settled : ∀ (env : Env) (submission : Except SpoolerError SubmissionReceipt) (cancelled : Bool)
    (db : Database) (e : JobProcessingError), (∀ i, (env.clock i).FourDigitYear) →
      (∀ receipt, submission = .ok receipt → receipt.acceptedAt.FourDigitYear) →
      (settle config env stored job submission cancelled db).result = .error e →
        env.fault ≠ .absent ∨ ¬ env.Draws db ∨
          ∀ row, db.job stored.id = some row → row.state ≠ .submitting

/-- **The outcome of a delivered job can be recorded**, at instants of four-digit years. -/
theorem outcome_recorded {message : ServerMessage} {receivedAt : Timestamp} {job : PrintJob}
    {received : ReceivedPrintJob Json.Value} {stored : StoredPrintJob Json.Value}
    (hdisplay : config.PrintsFourDigitYears)
    (hdelivery : delivery message receivedAt = .ok (job, received))
    (hsource : stored.sourceMessageId = received.sourceMessageId) :
    Recorded config stored job := by
  have hadmitted := delivery_ok hdelivery
  have hrecordable : Recordable stored job :=
    ⟨reportableJob_of_valid hadmitted.jobValid, hsource ▸ hadmitted.source_valid⟩
  constructor
  · intro receipt uuid sentAt createdAt haccepted hsent
    obtain ⟨status, hbuilt, hterminal⟩ :=
      hrecordable.submittedMessage_ok uuid (hdisplay _ haccepted) (hdisplay _ hsent)
    exact hterminal.statusTaken hbuilt _ _
  · intro code text retryable uuid failedAt sentAt createdAt hfailed hsent
    obtain ⟨status, hbuilt, hterminal⟩ :=
      hrecordable.failedMessage_ok uuid _ (hdisplay _ hfailed) (hdisplay _ hsent)
    exact hterminal.statusTaken hbuilt _ _
  · intro code text retryable failedAt
    exact JobFailure.validate_stored _ _
  · intro env submission cancelled db e hclock haccepted hresult
    by_contra hnone
    push Not at hnone
    obtain ⟨hfault, hdraws, row, hrow, hstate⟩ := hnone
    have htakes := @settle_takes _ _ _ _ _ _ _ cancelled hrow hstate hrecordable
      (fun i => hdisplay _ (hclock i)) (fun receipt hok => hdisplay _ (haccepted receipt hok))
      hdraws (by rw [hfault]; decide)
    obtain ⟨outcome, hok⟩ := htakes.answers hfault
    rw [hresult] at hok
    cases hok

/-! ## A receipt of the year 10000 -/

namespace Sample

/-- The row of the first job, while it is being submitted. -/
def firstRow : StoredPrintJob Json.Value where
  id := firstId
  idempotencyKey := "delivery:job_1"
  printerId := printer.id
  payload := (job "job_1").toValue
  state := .submitting
  receivedAt := morning
  updatedAt := morning
  retryAttempts := 0
  recoveryCount := 0
  receipt := none
  error := none
  sourceMessageId := "server_job_1"

/-- The first instant of the year 10000. -/
def tenThousand : Timestamp := ⟨253402300800000⟩

/-- The libraries at two instants: the morning of the samples, and the year 10000. -/
def lateConfig : AgentConfig :=
  { Sample.config [] with
    display := fun t =>
      if t.FourDigitYear then "2026-07-01T09:00:00.000Z" else "+10000-01-01T00:00:00.000Z" }

lemma lateConfig_prints : lateConfig.PrintsFourDigitYears := by
  intro t ht
  show validateTimestamp (if t.FourDigitYear then _ else _) _ = _
  rw [if_pos ht]
  decide

end Sample

/-- What the spooler answers about the first job can be recorded. -/
theorem outcome_recorded_first :
    Recorded Sample.lateConfig Sample.firstRow (Sample.job "job_1") := by
  obtain ⟨received, hdelivery, -⟩ := @delivery_of_valid (Sample.delivery "job_1") _
    (by decide +kernel) rfl Sample.morning
  exact outcome_recorded Sample.lateConfig_prints hdelivery (delivery_ok hdelivery).source.symm

/-- **A receipt of the year 10000 cannot be recorded.** -/
theorem late_receipt_refused :
    ¬ ∀ (config : AgentConfig) (message : ServerMessage) (receivedAt : Timestamp) (job : PrintJob)
      (received : ReceivedPrintJob Json.Value) (receipt : SubmissionReceipt) (uuid : Uuid)
      (sentAt : Timestamp), config.PrintsFourDigitYears →
        delivery message receivedAt = .ok (job, received) → sentAt.FourDigitYear →
        ∃ status, submittedMessage config.toLibraries job received.sourceMessageId
          receipt.acceptedAt uuid sentAt = .ok status := by
  intro hall
  obtain ⟨received, hdelivery, -⟩ := @delivery_of_valid (Sample.delivery "job_1") _
    (by decide +kernel) rfl Sample.morning
  obtain ⟨status, hstatus⟩ := hall Sample.lateConfig _ _ _ _
    { backendJobId := none, backend := "virtual", acceptedAt := Sample.tenThousand, metadata := [] }
    0 Sample.morning Sample.lateConfig_prints hdelivery (by decide)
  rw [(delivery_ok hdelivery).source] at hstatus
  have hlate : submittedMessage Sample.lateConfig.toLibraries (Sample.job "job_1")
      (Sample.delivery "job_1").messageId Sample.tenThousand 0 Sample.morning = .ok status :=
    hstatus
  have hrefused : (submittedMessage Sample.lateConfig.toLibraries (Sample.job "job_1")
      (Sample.delivery "job_1").messageId Sample.tenThousand 0 Sample.morning).isOk = false := by
    decide +kernel
  rw [hlate] at hrefused
  cases hrefused

end Oppa
