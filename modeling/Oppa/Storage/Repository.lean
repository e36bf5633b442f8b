import Oppa.Storage.Schema

/-!
# The job repository

The operations of `JobRepository` for `SqliteStorage`, each a function of the database.

* `Codec` — what the store uses of `serde_json` and `sha2`.
* `insertReceived`, `transition`, `enforceTerminalRetention`, … — the operations, in source order.
* `transaction` around a body is what makes an operation take effect as a whole or not at all.
-/

namespace Oppa

open Text

/-- What the store uses of `serde_json` and `sha2`. -/
structure Codec (Value : Type) where
  /-- `serde_json::to_string`. -/
  toString : Value → String
  /-- `serde_json::from_str::<Value>`. -/
  fromStr : String → Option Value
  /-- `format!("{:x}", Sha256::digest(text))`. -/
  sha256Hex : String → String

/-- Explicit bounds for durable job storage; `validate_limits` refuses zero. -/
structure StorageLimits where
  maxPendingJobs : ℕ
  maxTerminalJobs : ℕ
  maxPendingJobs_pos : 0 < maxPendingJobs
  maxTerminalJobs_pos : 0 < maxTerminalJobs

/-- Maximum serialized job payload accepted by the repository. -/
def maxJobPayloadBytes : ℕ := 2 * 1024 * 1024

/-- Maximum serialized terminal status retained for transport replay. -/
def maxOutboundStatusBytes : ℕ := 64 * 1024

/-- `StorageLimits::default`. -/
def StorageLimits.default : StorageLimits where
  maxPendingJobs := 10000
  maxTerminalJobs := 10000
  maxPendingJobs_pos := by decide
  maxTerminalJobs_pos := by decide

/-! ## Input checks -/

/-- `validate_key`. -/
def validateKey (field value : String) (maximum : ℕ) : StorageResult Unit :=
  if (trim value).isEmpty || trim value != value || maximum < value.utf8ByteSize ||
      value.toList.any isControl then
    .error (.invalidInput
      (field ++ " must be 1 to " ++ toString maximum ++
        " bytes without surrounding whitespace or control characters"))
  else .ok ()

/-- `StoredJobError::validate`. -/
def StoredJobError.validate (error : StoredJobError) : StorageResult Unit := do
  validateKey "job error code" error.code 64
  if (trim error.message).isEmpty || 2000 < error.message.utf8ByteSize then
    .error (.invalidInput "job error message must be 1 to 2000 bytes")

section Operations

variable {Value : Type} (codec : Codec Value)

/-- `bounded_json`. -/
def boundedJson (value : Value) (maximum : ℕ) (field : String) : StorageResult String :=
  let json := codec.toString value
  if maximum < json.utf8ByteSize then
    .error (.invalidInput
      (field ++ " is " ++ toString json.utf8ByteSize ++ " bytes; maximum is " ++ toString maximum))
  else .ok json

/-- `payload_fingerprint`. -/
def payloadFingerprint (payload : Value) : String := codec.sha256Hex (codec.toString payload)

/-- `prepare_outbound_status`. -/
def prepareOutboundStatus (jobId : PrintJobId) (status : NewOutboundStatus Value) :
    StorageResult OutboxRow := do
  validateKey "outbound message id" status.messageId 128
  if status.jobId ≠ jobId then
    .error (.invalidInput "outbound status job id must match its terminal transition")
  else
    let payloadJson ←
      boundedJson codec status.payload maxOutboundStatusBytes "outbound status payload"
    .ok
      { messageId := status.messageId
        jobId := status.jobId
        payloadJson := payloadJson
        createdAt := status.createdAt }

/-! ## Receipt -/

/-- The row `insert_received` writes. -/
def receivedRow (job : ReceivedPrintJob Value) (payload : String) : PrintJobRow where
  jobId := job.id
  idempotencyKey := job.idempotencyKey
  printerId := job.printerId
  payloadJson := payload
  state := .received
  receivedAt := job.receivedAt
  updatedAt := job.receivedAt
  retryAttempts := 0
  recoveryCount := 0
  receipt := none
  error := none
  sourceMessageId := job.sourceMessageId
  payloadSha256 := payloadFingerprint codec job.payload

/-- The checks `insert_received` makes before it opens a transaction; they leave the text of the
payload. -/
def prepareReceived (job : ReceivedPrintJob Value) : StorageResult String := do
  validateKey "idempotency key" job.idempotencyKey 256
  validateKey "source message id" job.sourceMessageId 128
  boundedJson codec job.payload maxJobPayloadBytes "print job payload"

variable {codec} in
/-- The checks pass exactly on well-formed keys and a payload that fits. -/
lemma prepareReceived_ok_iff {job : ReceivedPrintJob Value} {payload : String} :
    prepareReceived codec job = .ok payload ↔
      validateKey "idempotency key" job.idempotencyKey 256 = .ok () ∧
        validateKey "source message id" job.sourceMessageId 128 = .ok () ∧
        (codec.toString job.payload).utf8ByteSize ≤ maxJobPayloadBytes ∧
        payload = codec.toString job.payload := by
  simp only [prepareReceived, boundedJson, bind, Except.bind]
  cases validateKey "idempotency key" job.idempotencyKey 256 with
  | error e => simp
  | ok _ =>
      cases validateKey "source message id" job.sourceMessageId 128 with
      | error e => simp
      | ok _ =>
          simp only
          split
          · rename_i hbig
            simp [not_le.mpr hbig]
          · rename_i hfits
            simp [not_lt.mp hfits, eq_comm]

section Classify

variable [BEq Value]

/-- Whether a delivery carries the payload of a stored row.  A pruned payload is compared by its
fingerprint. -/
def payloadMatches (job : ReceivedPrintJob Value) (existing : PrintJobRow) : StorageResult Bool :=
  if existing.payloadJson = "null" then
    .ok (existing.payloadSha256 == payloadFingerprint codec job.payload)
  else
    match codec.fromStr existing.payloadJson with
    | some stored => .ok (stored == job.payload)
    | none => .error (.json "stored payload is not JSON")

/-- The branch of `insert_received` for a job id that is already stored. -/
def classifyDelivery (job : ReceivedPrintJob Value) (existing : PrintJobRow) :
    StorageResult InsertResult :=
  if existing.idempotencyKey ≠ job.idempotencyKey then
    .error (.jobIdentityConflict job.id)
  else do
    let same ← payloadMatches codec job existing
    if existing.printerId ≠ job.printerId ∨ same = false then
      .error (.jobContentConflict job.id)
    else
      .ok (.duplicateJob existing.state)

/-- `state IN ('received', 'submitting')`. -/
def PrintJobRow.isPending (row : PrintJobRow) : Bool :=
  row.state = .received || row.state = .submitting

/-- The transaction of `insert_received`. -/
def insertTransaction (limits : StorageLimits) (job : ReceivedPrintJob Value) (payload : String)
    (db : Database) : StorageResult (InsertResult × Database) :=
  match db.job job.id with
  | some existing => do
    let result ← classifyDelivery codec job existing
    .ok (result, db)
  | none =>
    match db.jobByKey job.idempotencyKey with
    | some owner => .ok (.duplicateIdempotency owner.jobId owner.state, db)
    | none =>
      if limits.maxPendingJobs ≤ db.countJobs PrintJobRow.isPending then
        .error (.queueFull limits.maxPendingJobs)
      else do
        let db' ← db.insertJob (receivedRow codec job payload)
        .ok (.inserted, db')

/-- `insert_received`. -/
def insertReceived (limits : StorageLimits) (job : ReceivedPrintJob Value) (db : Database) :
    StorageResult InsertResult × Database :=
  match prepareReceived codec job with
  | .ok payload => transaction (insertTransaction codec limits job payload) db
  | .error e => (.error e, db)

variable {codec} {limits : StorageLimits} {job : ReceivedPrintJob Value} {payload : String}
  {db : Database}

/-! A delivery that is not well-formed is refused, and there are four answers to any other. -/

example {e : StorageError} (hprep : prepareReceived codec job = .error e) :
    insertReceived codec limits job db = (.error e, db) := by
  rw [insertReceived, hprep]

lemma insertReceived_of_stored (hprep : prepareReceived codec job = .ok payload)
    {existing : PrintJobRow} (hid : db.job job.id = some existing) :
    insertReceived codec limits job db = (classifyDelivery codec job existing, db) := by
  simp only [insertReceived, hprep, transaction, insertTransaction, hid, bind, Except.bind]
  cases classifyDelivery codec job existing <;> rfl

lemma insertReceived_of_key (hprep : prepareReceived codec job = .ok payload)
    (hid : db.job job.id = none) {owner : PrintJobRow}
    (hkey : db.jobByKey job.idempotencyKey = some owner) :
    insertReceived codec limits job db
      = (.ok (.duplicateIdempotency owner.jobId owner.state), db) := by
  simp only [insertReceived, hprep, transaction, insertTransaction, hid, hkey]

lemma insertReceived_of_full (hprep : prepareReceived codec job = .ok payload)
    (hid : db.job job.id = none) (hkey : db.jobByKey job.idempotencyKey = none)
    (hfull : limits.maxPendingJobs ≤ db.countJobs PrintJobRow.isPending) :
    insertReceived codec limits job db = (.error (.queueFull limits.maxPendingJobs), db) := by
  simp only [insertReceived, hprep, transaction, insertTransaction, hid, hkey, hfull, if_true]

lemma insertReceived_of_free (hprep : prepareReceived codec job = .ok payload)
    (hid : db.job job.id = none) (hkey : db.jobByKey job.idempotencyKey = none)
    (hroom : db.countJobs PrintJobRow.isPending < limits.maxPendingJobs) :
    ∃ db', db.insertJob (receivedRow codec job payload) = .ok db' ∧
      insertReceived codec limits job db = (.ok .inserted, db') := by
  obtain ⟨db', hdb'⟩ : ∃ db', db.insertJob (receivedRow codec job payload) = .ok db' :=
    db.insertJob_of_free hid hkey
  refine ⟨db', hdb', ?_⟩
  simp only [insertReceived, hprep, transaction, insertTransaction, hid, hkey, hdb',
    not_le.mpr hroom, if_false, bind, Except.bind]

/-- A stored job is never inserted again. -/
lemma classifyDelivery_ne_inserted {existing : PrintJobRow} :
    classifyDelivery codec job existing ≠ .ok .inserted := by
  intro h
  simp only [classifyDelivery, bind, Except.bind] at h
  repeat' split at h
  all_goals cases h

/-- A delivery either changes nothing or appends its row. -/
lemma insertReceived_cases :
    (∃ r, r ≠ .ok .inserted ∧ insertReceived codec limits job db = (r, db)) ∨
    ∃ payload db', prepareReceived codec job = .ok payload ∧
      db.countJobs PrintJobRow.isPending < limits.maxPendingJobs ∧
      db.insertJob (receivedRow codec job payload) = .ok db' ∧
      insertReceived codec limits job db = (.ok .inserted, db') := by
  cases hprep : prepareReceived codec job with
  | error e => exact Or.inl ⟨.error e, by simp, by simp only [insertReceived, hprep]⟩
  | ok payload =>
      cases hid : db.job job.id with
      | some existing =>
          exact Or.inl ⟨_, classifyDelivery_ne_inserted, insertReceived_of_stored hprep hid⟩
      | none =>
          cases hkey : db.jobByKey job.idempotencyKey with
          | some owner => exact Or.inl ⟨_, by simp, insertReceived_of_key hprep hid hkey⟩
          | none =>
              rcases le_or_gt limits.maxPendingJobs (db.countJobs PrintJobRow.isPending) with
                hfull | hroom
              · exact Or.inl ⟨_, by simp, insertReceived_of_full hprep hid hkey hfull⟩
              · obtain ⟨db', hdb', hrun⟩ := insertReceived_of_free hprep hid hkey hroom
                exact Or.inr ⟨payload, db', rfl, hroom, hdb', hrun⟩

end Classify

/-! ## Reads -/

/-- One row of `load_jobs`. -/
def loadJob (row : PrintJobRow) : StorageResult (StoredPrintJob Value) :=
  match codec.fromStr row.payloadJson with
  | some payload =>
    .ok
      { id := row.jobId
        idempotencyKey := row.idempotencyKey
        printerId := row.printerId
        payload := payload
        sourceMessageId := row.sourceMessageId
        state := row.state
        receivedAt := row.receivedAt
        updatedAt := row.updatedAt
        retryAttempts := row.retryAttempts
        recoveryCount := row.recoveryCount
        receipt := row.receipt
        error := row.error }
  | none => .error (.json "stored payload is not JSON")

/-- The rows `pending` selects. -/
def pendingRows (db : Database) : List PrintJobRow :=
  Table.orderBy PrintJobRow.receiptRank (db.jobs.filter fun row => row.state = .received)

/-- `pending`. -/
def pending (db : Database) : StorageResult (List (StoredPrintJob Value)) :=
  (pendingRows db).mapM (loadJob codec)

/-- `has_completed_idempotency_key`. -/
def hasCompletedIdempotencyKey (key : String) (db : Database) : StorageResult Bool := do
  validateKey "idempotency key" key 256
  .ok (db.jobs.any fun row => row.idempotencyKey = key && row.isTerminal)

/-- One row of `pending_outbound_statuses`. -/
def loadStatus (row : OutboxRow) : StorageResult (StoredOutboundStatus Value) :=
  match codec.fromStr row.payloadJson with
  | some payload =>
    .ok
      { messageId := row.messageId
        jobId := row.jobId
        payload := payload
        createdAt := row.createdAt }
  | none => .error (.json "stored status is not JSON")

/-- `pending_outbound_statuses`. -/
def pendingOutboundStatuses (limit : ℕ) (db : Database) :
    StorageResult (List (StoredOutboundStatus Value)) :=
  if limit = 0 then
    .error (.invalidInput "outbound status read limit must be greater than zero")
  else if 2 ^ 63 ≤ limit then
    .error (.invalidInput "outbound status read limit is too large")
  else
    (Table.oldest OutboxRow.createdRank limit db.outbox).mapM (loadStatus codec)

end Operations

/-! ## Terminal retention -/

/-- `payload_json = 'null'`. -/
def pruneUpdate : RowUpdate where
  apply row := { row with payloadJson := "null" }
  jobId _ := rfl
  idempotencyKey _ := rfl

/-- The first statement of `enforce_terminal_retention`. -/
def prunePayloads (db : Database) : Database :=
  db.updateJobs (fun row => row.isTerminal && row.payloadJson != "null") pruneUpdate

/-- The rows `enforce_terminal_retention` deletes. -/
def retentionVictims (maximum : ℕ) (protectedJobId : Option PrintJobId) (db : Database) :
    List PrintJobRow :=
  Table.oldest PrintJobRow.updateRank (db.countJobs PrintJobRow.isTerminal - maximum)
    (db.jobs.filter fun row => row.isTerminal && some row.jobId ≠ protectedJobId)

/-- `enforce_terminal_retention`. -/
def enforceTerminalRetention (maximum : ℕ) (protectedJobId : Option PrintJobId) (db : Database) :
    TerminalRetentionResult × Database :=
  let pruned := prunePayloads db
  let victims := retentionVictims maximum protectedJobId pruned
  let kept := pruned.deleteJobs (victims.map PrintJobRow.jobId)
  ({ payloadsPruned := db.countJobs fun row => row.isTerminal && row.payloadJson != "null"
     jobsDeleted := victims.length
     jobsRetained := kept.countJobs PrintJobRow.isTerminal }, kept)

/-! ## Lifecycle transitions -/

/-- The `allowed` table of `transition`. -/
def transitionAllowed (current requested : JobState) : Bool :=
  match requested with
  | .submitting => current = .received
  | .submitted => current = .submitting
  | .failed => current = .received || current = .submitting
  | .cancelled => current = .received || current = .submitting
  | .received => false

/-- The columns `transition` writes: receipts are coalesced, errors overwritten, and only a claim
counts as an attempt. -/
def transitionUpdate (requested : JobState) (receipt : Option SubmissionReceipt)
    (error : Option StoredJobError) (now : Timestamp) : RowUpdate where
  apply row :=
    { row with
      state := requested
      updatedAt := now
      retryAttempts := row.retryAttempts + if requested = .submitting then 1 else 0
      receipt := receipt <|> row.receipt
      error := error }
  jobId _ := rfl
  idempotencyKey _ := rfl

/-- The statement of `transition` that puts a status into the outbox, when there is one. -/
def recordStatus (status : Option OutboxRow) (db : Database) : StorageResult Database :=
  match status with
  | some status => db.insertStatus status
  | none => .ok db

lemma recordStatus_ok {status : Option OutboxRow} {db db' : Database}
    (h : recordStatus status db = .ok db') :
    db'.jobs = db.jobs ∧ db'.outbox = db.outbox ++ status.toList := by
  cases status with
  | none =>
      cases h
      simp
  | some status => exact ⟨(Database.insertStatus_ok h).1, (Database.insertStatus_ok h).2.1⟩

/-- The transaction of `transition`. -/
def transitionTransaction (limits : StorageLimits) (now : Timestamp) (id : PrintJobId)
    (requested : JobState) (receipt : Option SubmissionReceipt) (error : Option StoredJobError)
    (status : Option OutboxRow) (db : Database) : StorageResult (Unit × Database) :=
  match db.job id with
  | none => .error (.jobNotFound id)
  | some row =>
    if transitionAllowed row.state requested = false then
      .error (.invalidTransition id row.state requested)
    else do
      let updated := db.updateJobs (fun row => row.jobId = id)
        (transitionUpdate requested receipt error now)
      let recorded ← recordStatus status updated
      if requested.isTerminal then
        .ok ((), (enforceTerminalRetention limits.maxTerminalJobs (some id) recorded).2)
      else
        .ok ((), recorded)

/-- `transition`. -/
def transition (limits : StorageLimits) (now : Timestamp) (id : PrintJobId)
    (requested : JobState) (receipt : Option SubmissionReceipt) (error : Option StoredJobError)
    (status : Option OutboxRow) (db : Database) : StorageResult Unit × Database :=
  transaction (transitionTransaction limits now id requested receipt error status) db

/-! ## Recovery and acknowledgement -/

/-- The error `recover_interrupted` records. -/
def recoveryError (now : Timestamp) : StoredJobError where
  code := "agent-restarted"
  message := "submission was interrupted by agent restart; outcome is unknown"
  retryable := true
  occurredAt := now

/-- The columns `recover_interrupted` writes. -/
def recoveryUpdate (now : Timestamp) : RowUpdate where
  apply row :=
    { row with
      state := .received
      recoveryCount := row.recoveryCount + 1
      updatedAt := now
      error := some (recoveryError now) }
  jobId _ := rfl
  idempotencyKey _ := rfl

/-- `recover_interrupted`. -/
def recoverInterrupted (now : Timestamp) (db : Database) :
    StorageResult RecoveryResult × Database :=
  let recovered := db.updateJobs (fun row => row.state = .submitting) (recoveryUpdate now)
  (.ok
    { recoveredSubmissions := db.countJobs fun row => row.state = .submitting
      pendingJobs := recovered.countJobs fun row => row.state = .received }, recovered)

/-- `acknowledge_outbound_status`. -/
def acknowledgeOutboundStatus (messageId : String) (db : Database) :
    StorageResult Bool × Database :=
  match validateKey "outbound message id" messageId 128 with
  | .error e => (.error e, db)
  | .ok () =>
    (.ok (db.outbox.any fun status => status.messageId = messageId), db.deleteStatus messageId)

end Oppa
