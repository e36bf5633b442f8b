import Oppa.Storage.Repository

/-!
# Opening a database

The migrations of the store and what `open` does with a file of any earlier version.  A file that
is opened goes through a sequence of transactions, and the process can die between any two of them;
a transaction that it dies in is rolled back.

* `SqliteJson` — what the migrations use of the JSON functions of SQLite.
* `LegacyRow`, `LegacyJobs` — the table `print_jobs` of versions 1 and 2.
* `Tables`, `StoreFile` — the tables of a file of any version, with the applied migrations.
* `migrations`, `migrationTransaction`, `maintainTerminalJobs` — the transactions of an open.
* `openStorage`, `interruptedOpen` — an open, and one that the process dies in.
-/

namespace Oppa

/-! ## The tables of each version -/

/-- What the migrations use of SQLite: both functions take a JSON text and a path, fail on a text
that is not JSON, and answer `NULL` when the path leads nowhere. -/
structure SqliteJson where
  /-- `json_type`. -/
  jsonType : String → String → Except String (Option String)
  /-- `json_extract`, of a string or of an object. -/
  jsonExtract : String → String → Except String (Option String)

/-- A row of `print_jobs` before the third migration. -/
structure LegacyRow where
  jobId : PrintJobId
  idempotencyKey : String
  printerId : PrinterId
  payloadJson : String
  state : JobState
  receivedAt : Timestamp
  updatedAt : Timestamp
  retryAttempts : ℕ
  recoveryCount : ℕ
  receipt : Option SubmissionReceipt
  error : Option StoredJobError
  deriving DecidableEq, Repr

/-- The two columns that the third migration adds, with their defaults. -/
def LegacyRow.widen (row : LegacyRow) : PrintJobRow where
  jobId := row.jobId
  idempotencyKey := row.idempotencyKey
  printerId := row.printerId
  payloadJson := row.payloadJson
  state := row.state
  receivedAt := row.receivedAt
  updatedAt := row.updatedAt
  retryAttempts := row.retryAttempts
  recoveryCount := row.recoveryCount
  receipt := row.receipt
  error := row.error
  sourceMessageId := ""
  payloadSha256 := ""

/-- The table `print_jobs` before the third migration. -/
structure LegacyJobs where
  rows : List LegacyRow
  jobIds : Table.UniqueBy LegacyRow.jobId rows
  idempotencyKeys : Table.UniqueBy LegacyRow.idempotencyKey rows
  deriving DecidableEq

/-- The tables as the first migration creates them. -/
def LegacyJobs.empty : LegacyJobs := ⟨[], .nil, .nil⟩

/-- `ALTER TABLE print_jobs ADD COLUMN`, and the new outbox. -/
def LegacyJobs.alter (legacy : LegacyJobs) : Database where
  jobs := legacy.rows.map LegacyRow.widen
  outbox := []
  jobIds := by
    rw [Table.UniqueBy, List.map_map]
    exact legacy.jobIds
  idempotencyKeys := by
    rw [Table.UniqueBy, List.map_map]
    exact legacy.idempotencyKeys
  messageIds := .nil
  references := nofun

/-- The tables of a file, by the migrations that made them. -/
inductive Tables
  | absent
  | initial (jobs : LegacyJobs)
  | indexed (jobs : LegacyJobs)
  | current (db : Database)
  deriving DecidableEq

/-- A database file: `schema_migrations` with its versions and times, and the other tables. -/
structure StoreFile where
  migrations : List (ℕ × ℤ)
  tables : Tables
  deriving DecidableEq

/-- `SELECT COALESCE(MAX(version), 0) FROM schema_migrations`. -/
def StoreFile.version (file : StoreFile) : ℕ := (file.migrations.map Prod.fst).foldr max 0

/-- `CURRENT_MIGRATION_VERSION`. -/
def currentMigrationVersion : ℕ := 3

/-! ## Statements that visit every row -/

/-- An update that changes nothing. -/
def RowUpdate.keep : RowUpdate where
  apply row := row
  jobId _ := rfl
  idempotencyKey _ := rfl

/-- Each row is updated by its key, in the order of the table. -/
def Database.updateEach (f : PrintJobRow → StorageResult RowUpdate) (db : Database) :
    StorageResult Database :=
  db.jobs.foldlM (fun current row =>
    (f row).map fun update => current.updateJobs (fun other => other.jobId = row.jobId) update) db

/-! ## The migrations -/

section Migrations

variable {Value : Type} (codec : Codec Value) (sqlite : SqliteJson)

/-- The columns that are set when the wrapper of a payload is taken off. -/
def unwrapUpdate (sourceMessageId payload : String) : RowUpdate where
  apply row := { row with sourceMessageId := sourceMessageId, payloadJson := payload }
  jobId _ := rfl
  idempotencyKey _ := rfl

/-- `UPDATE print_jobs SET source_message_id = …, payload_json = … WHERE …`, at a row. -/
def unwrapRow (row : PrintJobRow) : StorageResult RowUpdate := do
  let jobType ← (sqlite.jsonType row.payloadJson "$.job").mapError .sqlite
  let correlationType ← (sqlite.jsonType row.payloadJson "$.correlationId").mapError .sqlite
  if jobType = some "object" ∧ correlationType = some "text" then do
    let correlationId ← (sqlite.jsonExtract row.payloadJson "$.correlationId").mapError .sqlite
    let job ← (sqlite.jsonExtract row.payloadJson "$.job").mapError .sqlite
    match correlationId, job with
    | some correlationId, some job => .ok (unwrapUpdate correlationId job)
    | none, _ => .error (.sqlite "NOT NULL constraint failed: print_jobs.source_message_id")
    | _, none => .error (.sqlite "NOT NULL constraint failed: print_jobs.payload_json")
  else .ok .keep

/-- The column that is set when a payload is hashed. -/
def fingerprintUpdate (fingerprint : String) : RowUpdate where
  apply row := { row with payloadSha256 := fingerprint }
  jobId _ := rfl
  idempotencyKey _ := rfl

/-- `backfill_payload_fingerprints`, at a row. -/
def backfillRow (row : PrintJobRow) : StorageResult RowUpdate :=
  if row.payloadSha256 = "" then
    match codec.fromStr row.payloadJson with
    | some payload => .ok (fingerprintUpdate (payloadFingerprint codec payload))
    | none => .error (.json "stored payload is not JSON")
  else .ok .keep

/-- `0001_initial.sql`. -/
def initialMigration : Tables → StorageResult Tables
  | .absent => .ok (.initial .empty)
  | _ => .error (.sqlite "table printers already exists")

/-- `0002_job_indexes.sql`. -/
def jobIndexesMigration : Tables → StorageResult Tables
  | .initial jobs => .ok (.indexed jobs)
  | .absent => .error (.sqlite "no such table: main.print_jobs")
  | _ => .error (.sqlite "index print_jobs_pending_idx already exists")

/-- `0003_job_retention_outbox.sql`. -/
def jobRetentionOutboxMigration : Tables → StorageResult Tables
  | .initial jobs | .indexed jobs => (jobs.alter.updateEach (unwrapRow sqlite)).map .current
  | .absent => .error (.sqlite "no such table: print_jobs")
  | .current _ => .error (.sqlite "duplicate column name: source_message_id")

/-- `MIGRATIONS`. -/
def migrations : List (ℕ × (Tables → StorageResult Tables)) :=
  [(1, initialMigration), (2, jobIndexesMigration), (3, jobRetentionOutboxMigration sqlite)]

/-- `backfill_payload_fingerprints`. -/
def backfillPayloadFingerprints : Tables → StorageResult Tables
  | .current db => (db.updateEach (backfillRow codec)).map .current
  | _ => .error (.sqlite "no such column: payload_sha256")

/-- What follows the statements of a migration. -/
def backfill (version : ℕ) (tables : Tables) : StorageResult Tables :=
  if version = 3 then backfillPayloadFingerprints codec tables else .ok tables

/-- The transaction of one migration; `now` is what the clock answers in it. -/
def migrationTransaction (version : ℕ) (sql : Tables → StorageResult Tables)
    (now : StorageResult ℤ) (file : StoreFile) : StorageResult StoreFile := do
  let tables ← sql file.tables
  let tables ← backfill codec version tables
  let appliedAt ← now
  if version ∈ file.migrations.map Prod.fst then
    .error (.sqlite "UNIQUE constraint failed: schema_migrations.version")
  else pure ⟨file.migrations ++ [(version, appliedAt)], tables⟩

/-- `maintain_terminal_jobs`, which an open comes to with the current tables only. -/
def maintainTerminalJobs (limits : StorageLimits) (file : StoreFile) : StorageResult StoreFile :=
  match file.tables with
  | .current db =>
      let kept := (enforceTerminalRetention limits.maxTerminalJobs none db).2
      .ok { file with tables := .current kept }
  | _ => .error (.sqlite "no such table: outbound_status_outbox")

/-! ## Opening a file -/

/-- Transactions in a row, up to the first that fails. -/
def runTransactions :
    List (StoreFile → StorageResult StoreFile) → StoreFile → StorageResult Unit × StoreFile
  | [], file => (.ok (), file)
  | transaction :: transactions, file =>
      match transaction file with
      | .ok file' => runTransactions transactions file'
      | .error error => (.error error, file)

variable (limits : StorageLimits) (now : ℕ → StorageResult ℤ)

/-- The transactions of an open; `now` is what the clock answers at each migration. -/
def openTransactions (file : StoreFile) : List (StoreFile → StorageResult StoreFile) :=
  (((migrations sqlite).filter fun migration => file.version < migration.1).map fun migration =>
    migrationTransaction codec migration.1 migration.2 (now migration.1)) ++
      [maintainTerminalJobs limits]

/-- `from_connection`: the migrations that are missing, then the retention. -/
def openStorage (file : StoreFile) : StorageResult Unit × StoreFile :=
  if currentMigrationVersion < file.version then
    (.error (.invalidInput ("database schema " ++ toString file.version ++
      " is newer than supported schema " ++ toString currentMigrationVersion)), file)
  else runTransactions (openTransactions codec sqlite limits now file) file

/-- What an open leaves when the process dies after so many of its transactions. -/
def interruptedOpen (commits : ℕ) (file : StoreFile) : StoreFile :=
  if currentMigrationVersion < file.version then file
  else (runTransactions ((openTransactions codec sqlite limits now file).take commits) file).2

/-- An attempt to open a file. -/
structure OpenAttempt where
  limits : StorageLimits
  now : ℕ → StorageResult ℤ
  commits : ℕ

/-- What a sequence of attempts leaves. -/
def afterAttempts (attempts : List OpenAttempt) (file : StoreFile) : StoreFile :=
  attempts.foldl (fun file attempt =>
    interruptedOpen codec sqlite attempt.limits attempt.now attempt.commits file) file

end Migrations

end Oppa
