import Mathlib.Data.Prod.Lex
import Mathlib.Data.String.Basic
import Oppa.Core.Domain
import Oppa.Foundation.Table

/-!
# The schema of the job store

The two tables the agent's durability rests on, with their constraints, and the statements that
read and write them.

* `PrintJobRow`, `OutboxRow` — the rows of `print_jobs` and `outbound_status_outbox`.
* `Database` — both tables.  The primary keys, the unique key and the foreign key of the migrations
  are fields: a statement has to show that it keeps them, and an `INSERT` that cannot is an error.
* `insertJob`, `updateJobs`, `deleteJobs`, `insertStatus`, `deleteStatus` — the statements, with
  `ON DELETE CASCADE` in `deleteJobs`.
* `transaction` — a body that fails is rolled back.

Payloads stay the texts of their columns, since the store compares them as texts.  Identifiers,
states, receipts and errors are kept decoded.
-/

namespace Oppa

/-! ## Records the store exchanges with its callers -/

/-- What a spooler answers when it accepts a job. -/
structure SubmissionReceipt where
  backendJobId : Option String
  backend : String
  acceptedAt : Timestamp
  metadata : List (String × String)
  deriving DecidableEq, Repr

/-- Sanitized failure information. -/
structure StoredJobError where
  code : String
  message : String
  retryable : Bool
  occurredAt : Timestamp
  deriving DecidableEq, Repr

/-- Validated data persisted before a delivered job is acknowledged. -/
structure ReceivedPrintJob (Value : Type) where
  id : PrintJobId
  idempotencyKey : String
  printerId : PrinterId
  payload : Value
  sourceMessageId : String
  receivedAt : Timestamp
  deriving DecidableEq, Repr

/-- A durable job restored from its row. -/
structure StoredPrintJob (Value : Type) where
  id : PrintJobId
  idempotencyKey : String
  printerId : PrinterId
  payload : Value
  sourceMessageId : String
  state : JobState
  receivedAt : Timestamp
  updatedAt : Timestamp
  retryAttempts : ℕ
  recoveryCount : ℕ
  receipt : Option SubmissionReceipt
  error : Option StoredJobError
  deriving DecidableEq, Repr

/-- A status to be committed together with a terminal job. -/
structure NewOutboundStatus (Value : Type) where
  messageId : String
  jobId : PrintJobId
  payload : Value
  createdAt : Timestamp
  deriving DecidableEq, Repr

/-- A durable status awaiting its transport acknowledgement. -/
structure StoredOutboundStatus (Value : Type) where
  messageId : String
  jobId : PrintJobId
  payload : Value
  createdAt : Timestamp
  deriving DecidableEq, Repr

/-- Result of trying to insert an at-least-once delivery. -/
inductive InsertResult
  | inserted
  | duplicateJob (state : JobState)
  | duplicateIdempotency (existingJobId : PrintJobId) (state : JobState)
  deriving DecidableEq, Repr

/-- Summary of `recover_interrupted`. -/
structure RecoveryResult where
  recoveredSubmissions : ℕ
  pendingJobs : ℕ
  deriving DecidableEq, Repr

/-- Result of terminal payload pruning and row-count retention. -/
structure TerminalRetentionResult where
  payloadsPruned : ℕ
  jobsDeleted : ℕ
  jobsRetained : ℕ
  deriving DecidableEq, Repr

/-- Storage failures. -/
inductive StorageError
  | sqlite (message : String)
  | json (message : String)
  | invalidInput (message : String)
  | queueFull (maximum : ℕ)
  | jobIdentityConflict (jobId : PrintJobId)
  | jobContentConflict (jobId : PrintJobId)
  | invalidTransition (jobId : PrintJobId) (current requested : JobState)
  | jobNotFound (jobId : PrintJobId)
  | worker (message : String)
  deriving DecidableEq, Repr

/-- `StorageResult<T>`. -/
abbrev StorageResult (α : Type) := Except StorageError α

/-! ## Rows -/

/-- A row of `print_jobs`. -/
structure PrintJobRow where
  jobId : PrintJobId
  idempotencyKey : String
  printerId : PrinterId
  payloadJson : String
  state : JobState
  receivedAt : Timestamp
  updatedAt : Timestamp
  retryAttempts : ℕ
  recoveryCount : ℕ
  receipt : Option SubmissionReceipt
  error : Option StoredJobError
  sourceMessageId : String
  payloadSha256 : String
  deriving DecidableEq, Repr

/-- A row of `outbound_status_outbox`. -/
structure OutboxRow where
  messageId : String
  jobId : PrintJobId
  payloadJson : String
  createdAt : Timestamp
  deriving DecidableEq, Repr

namespace PrintJobRow

/-- `state IN ('submitted', 'failed', 'cancelled')`. -/
def isTerminal (row : PrintJobRow) : Bool := row.state.isTerminal

/-- `ORDER BY updated_at_ms, job_id`. -/
def updateRank (row : PrintJobRow) : ℤ ×ₗ String := toLex (row.updatedAt.millis, row.jobId.value)

/-- `ORDER BY received_at_ms, job_id`. -/
def receiptRank (row : PrintJobRow) : ℤ ×ₗ String := toLex (row.receivedAt.millis, row.jobId.value)

end PrintJobRow

/-- `ORDER BY created_at_ms, message_id`. -/
def OutboxRow.createdRank (row : OutboxRow) : ℤ ×ₗ String :=
  toLex (row.createdAt.millis, row.messageId)

/-! ## The database -/

/-- The tables of the store, with the constraints the migrations declare. -/
structure Database where
  jobs : List PrintJobRow
  outbox : List OutboxRow
  jobIds : Table.UniqueBy PrintJobRow.jobId jobs
  idempotencyKeys : Table.UniqueBy PrintJobRow.idempotencyKey jobs
  messageIds : Table.UniqueBy OutboxRow.messageId outbox
  references : ∀ status ∈ outbox, ∃ row ∈ jobs, row.jobId = status.jobId
  deriving DecidableEq

/-- A body that fails leaves the database as it found it. -/
def transaction {α : Type} (body : Database → StorageResult (α × Database)) (db : Database) :
    StorageResult α × Database :=
  match body db with
  | .ok (a, db') => (.ok a, db')
  | .error e => (.error e, db)

lemma transaction_error {α : Type} {body : Database → StorageResult (α × Database)}
    {db : Database} {e : StorageError} (h : (transaction body db).1 = .error e) :
    (transaction body db).2 = db := by
  unfold transaction at h ⊢
  cases hbody : body db with
  | ok r => simp [hbody] at h
  | error e => rfl

/-- An `UPDATE` of `print_jobs` that leaves both key columns alone. -/
structure RowUpdate where
  apply : PrintJobRow → PrintJobRow
  jobId : ∀ row, (apply row).jobId = row.jobId
  idempotencyKey : ∀ row, (apply row).idempotencyKey = row.idempotencyKey

namespace Database

/-- A freshly migrated database. -/
def empty : Database where
  jobs := []
  outbox := []
  jobIds := .nil
  idempotencyKeys := .nil
  messageIds := .nil
  references := by simp

variable (db : Database)

/-- `SELECT … FROM print_jobs WHERE job_id = ?1`. -/
def job (id : PrintJobId) : Option PrintJobRow := Table.lookup PrintJobRow.jobId id db.jobs

/-- `SELECT … FROM print_jobs WHERE idempotency_key = ?1`. -/
def jobByKey (key : String) : Option PrintJobRow :=
  Table.lookup PrintJobRow.idempotencyKey key db.jobs

/-- `INSERT INTO print_jobs`. -/
def insertJob (row : PrintJobRow) : StorageResult Database :=
  if hid : row.jobId ∈ db.jobs.map PrintJobRow.jobId then
    .error (.sqlite "UNIQUE constraint failed: print_jobs.job_id")
  else if hkey : row.idempotencyKey ∈ db.jobs.map PrintJobRow.idempotencyKey then
    .error (.sqlite "UNIQUE constraint failed: print_jobs.idempotency_key")
  else
    .ok
      { db with
        jobs := db.jobs ++ [row]
        jobIds := db.jobIds.concat hid
        idempotencyKeys := db.idempotencyKeys.concat hkey
        references := fun status hs => by
          obtain ⟨r, hr, hrid⟩ := db.references status hs
          exact ⟨r, List.mem_append_left _ hr, hrid⟩ }

/-- `UPDATE print_jobs SET … WHERE p`. -/
def updateJobs (p : PrintJobRow → Bool) (u : RowUpdate) : Database :=
  { db with
    jobs := Table.updateWhere p u.apply db.jobs
    jobIds := db.jobIds.updateWhere u.jobId
    idempotencyKeys := db.idempotencyKeys.updateWhere u.idempotencyKey
    references := fun status hs => by
      obtain ⟨row, hrow, hid⟩ := db.references status hs
      refine ⟨_, List.mem_map_of_mem hrow, ?_⟩
      split <;> simp [u.jobId, hid] }

/-- `DELETE FROM print_jobs WHERE job_id IN ids`, with the cascade to the outbox. -/
def deleteJobs (ids : List PrintJobId) : Database where
  jobs := Table.dropKeys PrintJobRow.jobId ids db.jobs
  outbox := Table.dropKeys OutboxRow.jobId ids db.outbox
  jobIds := db.jobIds.filter _
  idempotencyKeys := db.idempotencyKeys.filter _
  messageIds := db.messageIds.filter _
  references := by
    intro status hs
    rw [Table.mem_dropKeys] at hs
    obtain ⟨row, hrow, hid⟩ := db.references status hs.1
    exact ⟨row, Table.mem_dropKeys.mpr ⟨hrow, hid ▸ hs.2⟩, hid⟩

/-- `INSERT INTO outbound_status_outbox`. -/
def insertStatus (status : OutboxRow) : StorageResult Database :=
  if hmid : status.messageId ∈ db.outbox.map OutboxRow.messageId then
    .error (.sqlite "UNIQUE constraint failed: outbound_status_outbox.message_id")
  else if hjob : ∃ row ∈ db.jobs, row.jobId = status.jobId then
    .ok
      { db with
        outbox := db.outbox ++ [status]
        messageIds := db.messageIds.concat hmid
        references := fun s hs => by
          rcases List.mem_append.mp hs with hs | hs
          · exact db.references s hs
          · rw [List.mem_singleton.mp hs]
            exact hjob }
  else .error (.sqlite "FOREIGN KEY constraint failed")

/-- `DELETE FROM outbound_status_outbox WHERE message_id = ?1`. -/
def deleteStatus (messageId : String) : Database :=
  { db with
    outbox := Table.dropKeys OutboxRow.messageId [messageId] db.outbox
    messageIds := db.messageIds.filter _
    references := fun status hs => db.references status (Table.mem_dropKeys.mp hs).1 }

/-- `SELECT COUNT(*) FROM print_jobs WHERE p`. -/
def countJobs (p : PrintJobRow → Bool) : ℕ := db.jobs.countP p

/-! ## What the statements do to the tables -/

variable {db}

@[simp] lemma updateJobs_jobs (p : PrintJobRow → Bool) (u : RowUpdate) :
    (db.updateJobs p u).jobs = Table.updateWhere p u.apply db.jobs := rfl

@[simp] lemma updateJobs_outbox (p : PrintJobRow → Bool) (u : RowUpdate) :
    (db.updateJobs p u).outbox = db.outbox := rfl

@[simp] lemma deleteJobs_jobs (ids : List PrintJobId) :
    (db.deleteJobs ids).jobs = Table.dropKeys PrintJobRow.jobId ids db.jobs := rfl

@[simp] lemma deleteJobs_outbox (ids : List PrintJobId) :
    (db.deleteJobs ids).outbox = Table.dropKeys OutboxRow.jobId ids db.outbox := rfl

@[simp] lemma deleteStatus_jobs (messageId : String) :
    (db.deleteStatus messageId).jobs = db.jobs := rfl

@[simp] lemma deleteStatus_outbox (messageId : String) :
    (db.deleteStatus messageId).outbox
      = Table.dropKeys OutboxRow.messageId [messageId] db.outbox := rfl

lemma job_eq_some {id : PrintJobId} {row : PrintJobRow} :
    db.job id = some row ↔ row ∈ db.jobs ∧ row.jobId = id := Table.lookup_eq_some db.jobIds

lemma job_eq_none {id : PrintJobId} : db.job id = none ↔ ∀ row ∈ db.jobs, row.jobId ≠ id :=
  Table.lookup_eq_none

lemma job_of_mem {row : PrintJobRow} (h : row ∈ db.jobs) : db.job row.jobId = some row :=
  job_eq_some.mpr ⟨h, rfl⟩

lemma jobByKey_eq_none {key : String} :
    db.jobByKey key = none ↔ ∀ row ∈ db.jobs, row.idempotencyKey ≠ key := Table.lookup_eq_none

lemma insertJob_ok {row : PrintJobRow} {db' : Database} (h : db.insertJob row = .ok db') :
    db'.jobs = db.jobs ++ [row] ∧ db'.outbox = db.outbox ∧ db.job row.jobId = none := by
  unfold insertJob at h
  split at h
  · cases h
  · split at h
    · cases h
    · rename_i hid hkey
      cases h
      refine ⟨rfl, rfl, job_eq_none.mpr fun r hr he => hid ?_⟩
      exact List.mem_map.mpr ⟨r, hr, he⟩

/-- A row whose keys are both free satisfies the constraints. -/
lemma insertJob_of_free {row : PrintJobRow} (hid : db.job row.jobId = none)
    (hkey : db.jobByKey row.idempotencyKey = none) : ∃ db', db.insertJob row = .ok db' := by
  have hid' : row.jobId ∉ db.jobs.map PrintJobRow.jobId := fun hm => by
    obtain ⟨r, hr, he⟩ := List.mem_map.mp hm
    exact job_eq_none.mp hid r hr he
  have hkey' : row.idempotencyKey ∉ db.jobs.map PrintJobRow.idempotencyKey := fun hm => by
    obtain ⟨r, hr, he⟩ := List.mem_map.mp hm
    exact jobByKey_eq_none.mp hkey r hr he
  exact ⟨_, by rw [insertJob, dif_neg hid', dif_neg hkey']⟩

lemma insertStatus_ok {status : OutboxRow} {db' : Database}
    (h : db.insertStatus status = .ok db') :
    db'.jobs = db.jobs ∧ db'.outbox = db.outbox ++ [status] ∧
      status.messageId ∉ db.outbox.map OutboxRow.messageId := by
  unfold insertStatus at h
  split at h
  · cases h
  · split at h
    · rename_i hmid hjob
      cases h
      exact ⟨rfl, rfl, hmid⟩
    · cases h

/-- A status of a stored job with an unused message id satisfies the constraints. -/
lemma insertStatus_of_free {status : OutboxRow}
    (hmid : status.messageId ∉ db.outbox.map OutboxRow.messageId)
    (hjob : ∃ row ∈ db.jobs, row.jobId = status.jobId) :
    ∃ db', db.insertStatus status = .ok db' :=
  ⟨_, by rw [insertStatus, dif_neg hmid, dif_pos hjob]⟩

end Database

end Oppa
