import Oppa.Agent.Submission

/-!
# Which deliveries the store takes

A delivery is checked twice: by the protocol, in UTF-16 code units and with free text in its
idempotency key, and by the store, in bytes and without white space around a key or control
characters in it.

* `IsKey` — what the store asks of a key; **`validateKey_ok_iff`**.
* `Storable` — what it asks of a job beyond what the protocol has checked.
* **`delivery_inserted_iff`** — a valid delivery that is new and for which there is room is inserted
  and acknowledged if it is storable, and refused without a trace otherwise.
-/

namespace Oppa

open Protocol Text

variable {config : AgentConfig}

/-! ## The rules of the store -/

/-- What the store asks of a key. -/
structure IsKey (value : String) (maximum : ℕ) : Prop where
  notBlank : (trim value).isEmpty = false
  trimmed : trim value = value
  short : value.utf8ByteSize ≤ maximum
  printable : ∀ c ∈ value.toList, isControl c = false

/-- **The check of a key.** -/
theorem validateKey_ok_iff {field value : String} {maximum : ℕ} :
    validateKey field value maximum = .ok () ↔ IsKey value maximum := by
  unfold validateKey
  constructor
  · intro h
    split at h
    · cases h
    · rename_i hnone
      simp only [Bool.or_eq_true, bne_iff_ne, ne_eq, decide_eq_true_eq, List.any_eq_true,
        not_or, not_exists, not_and, Bool.not_eq_true, not_not, not_lt] at hnone
      exact ⟨hnone.1.1.1, hnone.1.1.2, hnone.1.2, hnone.2⟩
  · rintro ⟨hblank, htrim, hshort, hprint⟩
    rw [if_neg]
    simp only [Bool.or_eq_true, bne_iff_ne, ne_eq, decide_eq_true_eq, List.any_eq_true,
      not_or, not_exists, not_and, Bool.not_eq_true, not_not, not_lt]
    exact ⟨⟨⟨hblank, htrim⟩, hshort⟩, hprint⟩

/-- A key that fails the check is an invalid input. -/
lemma validateKey_error {field value : String} {maximum : ℕ} (h : ¬ IsKey value maximum) :
    ∃ text, validateKey field value maximum = .error (.invalidInput text) := by
  cases hcheck : validateKey field value maximum with
  | ok _ => exact absurd (validateKey_ok_iff.mp hcheck) h
  | error e =>
      unfold validateKey at hcheck
      split at hcheck
      · cases hcheck
        exact ⟨_, rfl⟩
      · cases hcheck

/-- The rule of the domain for an identifier is that of the store for a key. -/
lemma validateIdentifier_ok_iff {value : String} :
    validateIdentifier value = .ok () ↔ IsKey value maxIdentifierLen := by
  unfold validateIdentifier
  constructor
  · intro h
    split at h
    · cases h
    · split at h
      · cases h
      · split at h
        · cases h
        · split at h
          · cases h
          · rename_i hblank hshort htrim hprint
            simp only [List.any_eq_true, not_exists, not_and, Bool.not_eq_true] at hprint
            exact ⟨by simpa using hblank, not_not.mp htrim, not_lt.mp hshort, hprint⟩
  · rintro ⟨hblank, htrim, hshort, hprint⟩
    rw [if_neg (by simp [hblank]), if_neg (not_lt.mpr hshort), if_neg (not_not.mpr htrim),
      if_neg]
    simp only [List.any_eq_true, not_exists, not_and, Bool.not_eq_true]
    exact hprint

/-- An identifier of the protocol is one of the domain. -/
lemma new_of_identifier (kind : IdentifierKind) {value path : String}
    (h : Protocol.validateIdentifier value path 128 = .ok ()) :
    ∃ id : TypedIdentifier kind, TypedIdentifier.new kind value = .ok id ∧ id.value = value := by
  have hkey : validateKey "identifier" value maxIdentifierLen = .ok () :=
    validateKey_of_identifier h
  have hvalid := validateIdentifier_ok_iff.mpr (validateKey_ok_iff.mp hkey)
  exact ⟨⟨value, hvalid⟩, TypedIdentifier.new_of_valid hvalid, rfl⟩

/-! ## The two checks together -/

/-- What the store asks of a job that the protocol has accepted. -/
structure Storable (job : PrintJob) : Prop where
  key : IsKey job.idempotencyKey 256
  payload : job.toValue.toString.utf8ByteSize ≤ maxJobPayloadBytes

section Delivery

variable {message : ServerMessage} {job : PrintJob}

/-- A valid delivery reaches the store. -/
lemma delivery_of_valid (hvalid : message.validate = .ok ()) (hkind : message.kind = .printJob job)
    (receivedAt : Timestamp) :
    ∃ received, delivery message receivedAt = .ok (job, received) ∧
      received.receivedAt = receivedAt := by
  have hjob : job.validate = .ok () := by
    simp only [ServerMessage.validate, andThen_eq_ok, ServerMessageKind.validate, hkind,
      within_eq_ok] at hvalid
    tauto
  have hfields := reportableJob_of_valid hjob
  obtain ⟨id, hid, -⟩ := new_of_identifier .printJob hfields.jobId
  obtain ⟨printerId, hprinter, -⟩ := new_of_identifier .printer hfields.printerId
  unfold delivery
  simp only [hvalid, hkind, hjob, hid, hprinter, Except.mapError, bind, Except.bind]
  exact ⟨_, rfl, rfl⟩

/-- Of a delivery, the store refuses only what is not storable. -/
lemma prepareReceived_of_storable (config : AgentConfig)
    {received : ReceivedPrintJob Json.Value} (hadmitted : Admitted message job received)
    (hstorable : Storable job) :
    prepareReceived config.storage.codec received = .ok job.toValue.toString := by
  refine prepareReceived_ok_iff.mpr ⟨?_, ?_, ?_, ?_⟩
  · rw [hadmitted.idempotencyKey]
    exact validateKey_ok_iff.mpr hstorable.key
  · exact validateKey_of_identifier hadmitted.source_valid
  · rw [hadmitted.payload]
    exact hstorable.payload
  · rw [hadmitted.payload]
    rfl

lemma prepareReceived_of_not_storable (config : AgentConfig)
    {received : ReceivedPrintJob Json.Value} (hadmitted : Admitted message job received)
    (hnot : ¬ Storable job) :
    ∃ text, prepareReceived config.storage.codec received = .error (.invalidInput text) := by
  have hsource : validateKey "source message id" received.sourceMessageId 128 = .ok () :=
    validateKey_of_identifier hadmitted.source_valid
  unfold prepareReceived
  rw [hadmitted.idempotencyKey]
  by_cases hkey : IsKey job.idempotencyKey 256
  · have hlong : maxJobPayloadBytes < job.toValue.toString.utf8ByteSize := by
      by_contra hfits
      exact hnot ⟨hkey, not_lt.mp hfits⟩
    simp only [validateKey_ok_iff.mpr hkey, hsource, bind, Except.bind, boundedJson,
      hadmitted.payload]
    rw [if_pos (show maxJobPayloadBytes <
      (config.storage.codec.toString job.toValue).utf8ByteSize from hlong)]
    exact ⟨_, rfl⟩
  · obtain ⟨text, htext⟩ := validateKey_error hkey
    exact ⟨text, by rw [htext]; rfl⟩

/-- The receipt of a valid job is acknowledged. -/
lemma receivedMessage_of_valid {correlationId : String} {receivedAt sentAt : Timestamp}
    (uuid : Uuid) (hjob : ReportableJob job)
    (hcorrelation : Protocol.validateIdentifier correlationId "messageId" 128 = .ok ())
    (hreceived : validateTimestamp (config.display receivedAt) "timestamp" = .ok ())
    (hsent : validateTimestamp (config.display sentAt) "timestamp" = .ok ()) :
    ∃ acknowledgement, receivedMessage config.toLibraries job correlationId receivedAt uuid sentAt =
        .ok acknowledgement ∧ receivedJobId acknowledgement = some job.jobId := by
  refine ⟨_, agentMessage_of_valid rfl (validateIdentifier_path _ hcorrelation)
    (validateTimestamp_path _ hsent) ?_, rfl⟩
  simp only [AgentMessageKind.validate, within_eq_ok, JobReceived.validate, validateJobIdentity,
    validateExpectedStatus, andThen_eq_ok, if_true]
  exact ⟨⟨hjob.jobId, hjob.idempotencyKey⟩, trivial, validateTimestamp_path _ hreceived⟩

/-- **A valid delivery is stored and acknowledged exactly if it is storable.**  The job is new and
there is room for it; the store answers, and times print as protocol timestamps. -/
theorem delivery_inserted_iff {env : Env} {db : Database} (hanswers : env.fault = .absent)
    (hprints : env.Prints config) (hvalid : message.validate = .ok ())
    (hkind : message.kind = .printJob job) (hid : ∀ row ∈ db.jobs, row.jobId.value ≠ job.jobId)
    (hkey : ∀ row ∈ db.jobs, row.idempotencyKey ≠ job.idempotencyKey)
    (hroom : db.countJobs PrintJobRow.isPending < config.limits.maxPendingJobs) :
    (Storable job → ∃ acknowledgement row,
      (receivePrintJob config env message db).result = .ok (.inserted acknowledgement) ∧
        receivedJobId acknowledgement = some job.jobId ∧
        (receivePrintJob config env message db).db.jobs = db.jobs ++ [row] ∧
        row.jobId.value = job.jobId ∧ row.idempotencyKey = job.idempotencyKey ∧
        row.payloadJson = job.toValue.toString ∧ row.state = .received) ∧
    (¬ Storable job → ∃ text,
      (receivePrintJob config env message db).result = .error (.storage (.invalidInput text)) ∧
        (receivePrintJob config env message db).db = db) := by
  obtain ⟨received, hdelivery, hreceivedAt⟩ := delivery_of_valid hvalid hkind (env.clock 0)
  have hadmitted := delivery_ok hdelivery
  have hcall := @Env.call_absent config env _ (.insertReceived received) (env.clock 0) db hanswers
  have hanswer : receivePrintJob config env message db =
      { result := (((insertReceived config.storage.codec config.limits received db).1.mapError
          .storage).bind (receiptOutcome config env job received))
        db := (insertReceived config.storage.codec config.limits received db).2
        events := (env.call config (.insertReceived received) (env.clock 0) db).events } := by
    unfold receivePrintJob
    rw [hdelivery]
    simp only [hcall]
    rfl
  rw [hanswer]
  constructor
  · intro hstorable
    have hfreeId : db.job received.id = none := Database.job_eq_none.mpr fun row hrow heq =>
      hid row hrow (by rw [heq, hadmitted.id])
    have hfreeKey : db.jobByKey received.idempotencyKey = none :=
      Database.jobByKey_eq_none.mpr fun row hrow heq =>
        hkey row hrow (heq.trans hadmitted.idempotencyKey)
    obtain ⟨db', hdb', hrun⟩ := insertReceived_of_free
      (prepareReceived_of_storable config hadmitted hstorable) hfreeId hfreeKey hroom
    obtain ⟨acknowledgement, hack, hackId⟩ := receivedMessage_of_valid
      (env.uuid 0) (reportableJob_of_valid hadmitted.jobValid) hadmitted.source_valid (hprints 0)
      (hprints 1)
    refine ⟨acknowledgement, receivedRow config.storage.codec received job.toValue.toString, ?_,
      hackId, ?_, ?_⟩
    · rw [hrun]
      simp only [Except.mapError, Except.bind, receiptOutcome, hreceivedAt, hack, Except.map]
    · rw [hrun]
      exact (Database.insertJob_ok hdb').1
    · exact ⟨hadmitted.id, hadmitted.idempotencyKey, rfl, rfl⟩
  · intro hnot
    obtain ⟨text, htext⟩ := prepareReceived_of_not_storable config hadmitted hnot
    refine ⟨text, ?_, ?_⟩
    · simp only [insertReceived, htext, Except.mapError, Except.bind]
    · simp only [insertReceived, htext]

end Delivery

/-! ## Two keys -/

namespace Sample

/-- A job whose key begins with a blank. -/
def blankKeyJob : PrintJob := { job "job_1" with idempotencyKey := " a" }

def blankKey : ServerMessage := { delivery "job_1" with kind := .printJob blankKeyJob }

lemma env_prints (n : ℕ) (messages : List AgentMessage) :
    (env n).Prints (Sample.config messages) := by
  have hnone : (env n).Draws .empty := fun status hstatus => by cases hstatus
  exact (Sample.conforms hnone).prints

lemma room : Database.empty.countJobs PrintJobRow.isPending <
    (Sample.config []).limits.maxPendingJobs := by
  show 0 < 10000
  omega

lemma storable_job : Storable (job "job_1") :=
  ⟨validateKey_ok_iff.mp (show validateKey "idempotency key" _ 256 = .ok () by decide),
    by decide +kernel⟩

end Sample

/-- A key without blanks is taken. -/
theorem delivery_inserted_iff_first :
    ∃ acknowledgement row,
      (receivePrintJob (Sample.config []) (Sample.env 1) (Sample.delivery "job_1") .empty).result =
          .ok (.inserted acknowledgement) ∧
        receivedJobId acknowledgement = some "job_1" ∧
        (receivePrintJob (Sample.config []) (Sample.env 1) (Sample.delivery "job_1")
          .empty).db.jobs = [row] ∧ row.state = .received := by
  obtain ⟨acknowledgement, row, hresult, hack, hrow, -, -, -, hstate⟩ :=
    (@delivery_inserted_iff (Sample.config []) (Sample.delivery "job_1") (Sample.job "job_1")
      (Sample.env 1) .empty rfl (Sample.env_prints 1 []) (by decide +kernel) rfl (by decide)
      (by decide) Sample.room).1 Sample.storable_job
  exact ⟨acknowledgement, row, hresult, hack, hrow, hstate⟩

/-- **A key that begins with a blank passes the protocol and not the store.** -/
theorem blank_key_refused :
    ¬ ∀ (config : AgentConfig) (env : Env) (db : Database) (message : ServerMessage)
      (job : PrintJob), env.fault = .absent → env.Prints config → message.validate = .ok () →
        message.kind = .printJob job → (∀ row ∈ db.jobs, row.jobId.value ≠ job.jobId) →
        (∀ row ∈ db.jobs, row.idempotencyKey ≠ job.idempotencyKey) →
        db.countJobs PrintJobRow.isPending < config.limits.maxPendingJobs →
        ∃ acknowledgement, (receivePrintJob config env message db).result =
          .ok (.inserted acknowledgement) := by
  intro hall
  obtain ⟨acknowledgement, hresult⟩ := hall (Sample.config []) (Sample.env 1) .empty
    Sample.blankKey Sample.blankKeyJob rfl (Sample.env_prints 1 []) (by decide +kernel) rfl
    (by decide) (by decide) Sample.room
  have hrefused : (receivePrintJob (Sample.config []) (Sample.env 1) Sample.blankKey
      .empty).result.isOk = false := by decide +kernel
  rw [hresult] at hrefused
  cases hrefused

end Oppa
