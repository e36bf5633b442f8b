import Oppa.Foundation.Json
import Oppa.Storage.Redelivery
import Oppa.Storage.Upgrade

/-!
# Migration is lossless

What a completed open makes of a file of version 1 or 2.

* `openStorage_ok`, `openStorage_total` — what a completed open has done, and when one completes.
* `retention_idempotent` — retention has nothing to do a second time.
* `Upgraded` — the rows of a completed open, and how they compare with a delivery.
* **`migration_lossless`** — a completed open has lost nothing, and the next one changes nothing.
-/

namespace Oppa

open Result

section Opened

variable {Value : Type} {codec : Codec Value} {view : JsonView Value} {sqlite : SqliteJson}
  {legacy : LegacyJobs}

/-! ## A completed open -/

lemma runTransactions_cons {transaction : StoreFile → StorageResult StoreFile}
    {transactions : List (StoreFile → StorageResult StoreFile)} {file file' : StoreFile}
    (hrun : transaction file = .ok file') :
    runTransactions (transaction :: transactions) file = runTransactions transactions file' := by
  rw [runTransactions, hrun]

lemma runTransactions_concat {transactions : List (StoreFile → StorageResult StoreFile)}
    {transaction : StoreFile → StorageResult StoreFile} {file : StoreFile}
    (hok : (runTransactions (transactions ++ [transaction]) file).1 = .ok ()) :
    transaction (runTransactions transactions file).2 =
      .ok (runTransactions (transactions ++ [transaction]) file).2 := by
  induction transactions generalizing file with
  | nil =>
      rw [List.nil_append, runTransactions] at hok ⊢
      cases hrun : transaction file with
      | error error =>
          rw [hrun] at hok
          cases hok
      | ok file' => exact hrun
  | cons first transactions ih =>
      rw [List.cons_append, runTransactions] at hok ⊢
      rw [runTransactions]
      cases hrun : first file with
      | error error =>
          rw [hrun] at hok
          cases hok
      | ok file' =>
          rw [hrun] at hok
          exact ih hok

lemma UpgradingTables.version_le {version : ℕ} {tables : Tables}
    (h : UpgradingTables codec view legacy version tables) : version ≤ currentMigrationVersion := by
  have hcurrent : currentMigrationVersion = 3 := rfl
  cases tables with
  | absent => exact h.elim
  | initial jobs =>
      have hversion := h.2
      omega
  | indexed jobs =>
      have hversion := h.2
      omega
  | current db =>
      have hversion := h.2
      omega

/-- A file on its way is never refused as too new. -/
lemma Upgrading.not_newer {file : StoreFile} (hfile : Upgrading codec view legacy file) :
    ¬ currentMigrationVersion < file.version := not_lt.mpr (UpgradingTables.version_le hfile)

/-- An open that completes has applied every migration and then the retention. -/
lemma openStorage_ok (hjson : JsonFaithful codec view sqlite)
    (hwrapped : legacy.Wrapped codec view) {limits : StorageLimits} {now : ℕ → StorageResult ℤ}
    {file : StoreFile} (hfile : Upgrading codec view legacy file)
    (hok : (openStorage codec sqlite limits now file).1 = .ok ()) :
    (openStorage codec sqlite limits now file).2.version = 3 ∧
      ∃ db, Moved codec view legacy db ∧ (openStorage codec sqlite limits now file).2.tables =
        .current (enforceTerminalRetention limits.maxTerminalJobs none db).2 := by
  rw [openStorage, if_neg hfile.not_newer] at hok ⊢
  set transactions := (((migrations sqlite).filter fun migration => file.version < migration.1).map
    fun migration => migrationTransaction codec migration.1 migration.2 (now migration.1))
    with htransactions
  have hopen : openTransactions codec sqlite limits now file =
      transactions ++ [maintainTerminalJobs limits] := rfl
  rw [hopen] at hok ⊢
  have hlast := runTransactions_concat hok
  have hmigrated : Upgrading codec view legacy (runTransactions transactions file).2 := by
    refine runTransactions_upgrading hjson hwrapped (fun transaction hmem => ?_) hfile
    exact @openTransactions_sound _ _ _ limits now file transaction
      (hopen ▸ List.mem_append_left _ hmem)
  rw [maintainTerminalJobs] at hlast
  split at hlast
  · rename_i db htables
    rw [Upgrading, htables] at hmigrated
    rw [← Except.ok.inj hlast]
    exact ⟨hmigrated.2, db, hmigrated.1, rfl⟩
  · cases hlast

lemma not_mem_of_version_lt {file : StoreFile} {version : ℕ} (hnew : file.version < version) :
    version ∉ file.migrations.map Prod.fst := by
  intro hmem
  have hle : ∀ versions : List ℕ, version ∈ versions → version ≤ versions.foldr max 0 := by
    intro versions
    induction versions with
    | nil => nofun
    | cons head versions ih =>
        intro hmem
        rw [List.foldr_cons]
        rcases List.mem_cons.mp hmem with rfl | hrest
        · exact Nat.le_max_left _ _
        · exact le_trans (ih hrest) (Nat.le_max_right _ _)
  exact absurd (hle _ hmem) (not_le.mpr hnew)

/-- A migration whose statements succeed is committed when the clock can be read. -/
lemma migrationTransaction_of_ok {file : StoreFile} {version : ℕ} {tables after : Tables}
    {sql : Tables → StorageResult Tables} {now : StorageResult ℤ} {appliedAt : ℤ}
    (hsql : sql file.tables = .ok tables) (hfill : backfill codec version tables = .ok after)
    (hnow : now = .ok appliedAt) (hnew : file.version < version) :
    migrationTransaction codec version sql now file =
      .ok ⟨file.migrations ++ [(version, appliedAt)], after⟩ := by
  rw [migrationTransaction, hsql, hnow]
  simp only [bind, Except.bind, hfill, if_neg (not_mem_of_version_lt hnew)]
  rfl

lemma maintainTerminalJobs_ok {limits : StorageLimits} {file : StoreFile} {db : Database}
    (htables : file.tables = .current db) :
    (runTransactions [maintainTerminalJobs limits] file).1 = .ok () := by
  rw [runTransactions, maintainTerminalJobs, htables]
  rfl

/-- **An open completes** when the clock can be read. -/
lemma openStorage_total (hjson : JsonFaithful codec view sqlite)
    (hwrapped : legacy.Wrapped codec view) (limits : StorageLimits) {now : ℕ → StorageResult ℤ}
    (hnow : ∀ version, ∃ appliedAt, now version = .ok appliedAt) {file : StoreFile}
    (hfile : Upgrading codec view legacy file) :
    (openStorage codec sqlite limits now file).1 = .ok () := by
  obtain ⟨unwrapped, db, hinitial, hindexed, hfilled, -⟩ := moved_of_migrated hjson hwrapped
  have hfill : backfill codec 3 (.current unwrapped) = .ok (.current db) := hfilled
  obtain ⟨second, hsecond⟩ := hnow 2
  obtain ⟨third, hthird⟩ := hnow 3
  rw [openStorage, if_neg hfile.not_newer, openTransactions]
  rw [Upgrading] at hfile
  cases htables : file.tables with
  | absent =>
      rw [htables] at hfile
      exact hfile.elim
  | current db =>
      rw [htables] at hfile
      rw [hfile.2]
      exact maintainTerminalJobs_ok htables
  | indexed jobs =>
      rw [htables] at hfile
      obtain ⟨rfl, hversion⟩ := hfile
      rw [hversion]
      have hcommit : migrationTransaction codec 3 (jobRetentionOutboxMigration sqlite) (now 3) file
          = .ok ⟨file.migrations ++ [(3, third)], .current db⟩ :=
        migrationTransaction_of_ok (htables ▸ hindexed) hfill hthird (by omega)
      refine (congrArg Prod.fst (runTransactions_cons hcommit)).trans ?_
      exact maintainTerminalJobs_ok rfl
  | initial jobs =>
      rw [htables] at hfile
      obtain ⟨rfl, hversion⟩ := hfile
      rw [hversion]
      set next : StoreFile := ⟨file.migrations ++ [(2, second)], .indexed jobs⟩ with hnext
      have hadvanced : next.version = 2 := by
        rw [hnext, version_append _ _ _ file.tables]
        show max file.version 2 = 2
        omega
      have hindexes : migrationTransaction codec 2 jobIndexesMigration (now 2) file = .ok next :=
        migrationTransaction_of_ok (by rw [htables]; rfl) rfl hsecond (by omega)
      have hcommit : migrationTransaction codec 3 (jobRetentionOutboxMigration sqlite) (now 3) next
          = .ok ⟨next.migrations ++ [(3, third)], .current db⟩ :=
        migrationTransaction_of_ok hindexed hfill hthird (by omega)
      refine (congrArg Prod.fst (runTransactions_cons hindexes)).trans ?_
      refine (congrArg Prod.fst (runTransactions_cons hcommit)).trans ?_
      exact maintainTerminalJobs_ok rfl

/-- Retention that has been enforced finds nothing to prune and nothing to evict. -/
lemma retention_idempotent {maximum : ℕ} (hmax : 0 < maximum) (db : Database) :
    (enforceTerminalRetention maximum none (enforceTerminalRetention maximum none db).2).2 =
      (enforceTerminalRetention maximum none db).2 := by
  set kept := (enforceTerminalRetention maximum none db).2 with hkept
  have hpruned : kept.jobs.map PrintJobRow.prune = kept.jobs := by
    refine (List.map_congr_left fun row hrow => ?_).trans (List.map_id _)
    obtain ⟨⟨old, -, rfl⟩, -⟩ := mem_retention_jobs.mp hrow
    rw [id, PrintJobRow.prune, PrintJobRow.prune_isTerminal]
    split_ifs with hterminal
    · rw [PrintJobRow.prune, if_pos hterminal]
    · rfl
  have hfew : kept.countJobs PrintJobRow.isTerminal ≤ maximum := by
    rw [hkept, countTerminal_retention hmax]
    exact Nat.min_le_right _ _
  have hnone : victimIds maximum none kept = [] := by
    rw [victimIds, retentionVictims, countJobs_prunePayloads PrintJobRow.prune_isTerminal,
      Nat.sub_eq_zero_of_le hfew, Table.oldest, List.take_zero, List.map_nil]
  refine Database.eq_of_tables ?_ ?_
  · have hjobs := @retention_jobs maximum none kept
    rw [hjobs, hpruned]
    exact (congrArg (Table.dropKeys PrintJobRow.jobId · kept.jobs) hnone).trans Table.dropKeys_nil
  · rw [retention_outbox, hnone, Table.dropKeys_nil]

/-- A file of the current version whose retention has been enforced is opened as it is. -/
lemma openStorage_current {limits : StorageLimits} {now : ℕ → StorageResult ℤ} {file : StoreFile}
    {db : Database} (hversion : file.version = 3)
    (htables : file.tables = .current (enforceTerminalRetention limits.maxTerminalJobs none db).2) :
    openStorage codec sqlite limits now file = (.ok (), file) := by
  have hnone : openTransactions codec sqlite limits now file = [maintainTerminalJobs limits] := by
    rw [openTransactions, hversion]
    rfl
  have hmaintain : maintainTerminalJobs limits file = .ok file := by
    rw [maintainTerminalJobs, htables]
    dsimp only
    rw [retention_idempotent limits.maxTerminalJobs_pos, ← htables]
  rw [openStorage, if_neg (by rw [hversion]; exact lt_irrefl 3), hnone, runTransactions, hmaintain]
  rfl

/-! ## Redelivery -/

/-- The delivery that a row was stored for. -/
def LegacyRow.delivered (row : LegacyRow) (correlationId : String) (job : Value) :
    ReceivedPrintJob Value where
  id := row.jobId
  idempotencyKey := row.idempotencyKey
  printerId := row.printerId
  payload := job
  sourceMessageId := correlationId
  receivedAt := row.receivedAt

/-- The row that the current version inserts for a delivery, once it has come to a state: when the
job has ended, its payload is pruned. -/
def insertedUpdate (codec : Codec Value) (job : ReceivedPrintJob Value) : RowUpdate where
  apply row :=
    { receivedRow codec job (if row.isTerminal then "null" else codec.toString job.payload) with
      jobId := row.jobId
      idempotencyKey := row.idempotencyKey
      state := row.state }
  jobId _ := rfl
  idempotencyKey _ := rfl

/-- What a completed open makes of the rows of an earlier version. -/
structure Upgraded [BEq Value] (codec : Codec Value) (view : JsonView Value) (legacy : LegacyJobs)
    (db : Database) : Prop where
  kept : ∀ row ∈ legacy.rows, row.state.isTerminal = false → ∀ correlationId job,
    wrapped codec view row.payloadJson = some (correlationId, job) →
      ∃ payloadJson, codec.fromStr payloadJson = some job ∧
        migratedRow codec row correlationId job payloadJson ∈ db.jobs
  origin : ∀ current ∈ db.jobs, ∃ row ∈ legacy.rows, ∃ correlationId job payloadJson,
    wrapped codec view row.payloadJson = some (correlationId, job) ∧
      current = migratedRow codec row correlationId job payloadJson ∧
      (row.state.isTerminal = false → codec.fromStr payloadJson = some job) ∧
      (row.state.isTerminal = true → payloadJson = "null")
  redelivery : ∀ row ∈ legacy.rows, ∀ correlationId job,
    wrapped codec view row.payloadJson = some (correlationId, job) → RoundTrips codec job →
      (∃ current ∈ db.jobs, current.jobId = row.jobId) →
      ∀ limits delivery, delivery.id = row.jobId →
        (insertReceived codec limits delivery db).1 =
          (insertReceived codec limits delivery
            (db.updateJobs (fun current => current.jobId = row.jobId)
              (insertedUpdate codec (row.delivered correlationId job)))).1

/-- After the retention, exactly the terminal rows are pruned. -/
lemma Moved.origin_retention {db : Database} (h : Moved codec view legacy db) (maximum : ℕ) :
    ∀ current ∈ (enforceTerminalRetention maximum none db).2.jobs, ∃ row ∈ legacy.rows,
      ∃ correlationId job payloadJson,
        wrapped codec view row.payloadJson = some (correlationId, job) ∧
        current = migratedRow codec row correlationId job payloadJson ∧
        (row.state.isTerminal = false → codec.fromStr payloadJson = some job) ∧
        (row.state.isTerminal = true → payloadJson = "null") := by
  intro current hcurrent
  obtain ⟨⟨old, hold, rfl⟩, -⟩ := mem_retention_jobs.mp hcurrent
  obtain ⟨row, hrow, correlationId, job, payloadJson, hcontent, rfl, hpayload⟩ :=
    h.origin old hold
  refine ⟨row, hrow, correlationId, job, _, hcontent, prune_migratedRow _ _ _ _ _, ?_, ?_⟩
  · intro hpending
    rw [hpending] at hpayload ⊢
    exact hpayload.resolve_right fun hpruned => Bool.false_ne_true hpruned.1
  · intro hterminal
    rw [hterminal, if_pos rfl]

/-- A row of the current version and a migrated one compare alike with a delivery. -/
lemma payloadMatches_migratedRow [BEq Value] [EquivBEq Value]
    (hjson : JsonFaithful codec view sqlite) {row : LegacyRow} {correlationId payloadJson : String}
    {job : Value} (hcontent : wrapped codec view row.payloadJson = some (correlationId, job))
    (hround : RoundTrips codec job)
    (hpending : row.state.isTerminal = false → codec.fromStr payloadJson = some job)
    (hterminal : row.state.isTerminal = true → payloadJson = "null")
    (delivery : ReceivedPrintJob Value) :
    payloadMatches codec delivery ((insertedUpdate codec (row.delivered correlationId job)).apply
        (migratedRow codec row correlationId job payloadJson)) =
      payloadMatches codec delivery (migratedRow codec row correlationId job payloadJson) := by
  obtain ⟨-, -, -, -, -, -, hobject⟩ := wrapped_eq_some hcontent
  have hmigrated : (migratedRow codec row correlationId job payloadJson).payloadJson =
      payloadJson := rfl
  cases hstate : row.state.isTerminal with
  | true =>
      have hinserted : ((insertedUpdate codec (row.delivered correlationId job)).apply
          (migratedRow codec row correlationId job payloadJson)).payloadJson = "null" :=
        if_pos hstate
      rw [payloadMatches, payloadMatches, if_pos hinserted, hmigrated, if_pos (hterminal hstate)]
      rfl
  | false =>
      have hparsed := hpending hstate
      obtain ⟨stored, hstored, heq⟩ := hround
      have hinserted : ((insertedUpdate codec (row.delivered correlationId job)).apply
          (migratedRow codec row correlationId job payloadJson)).payloadJson =
            codec.toString job := if_neg (by rw [← Bool.not_eq_true] at hstate; exact hstate)
      have hnull : payloadJson ≠ "null" := by
        rintro rfl
        exact hjson.typeName_null _ hparsed hobject
      rw [payloadMatches, payloadMatches, hinserted, hmigrated,
        if_neg (hjson.toString_object _ hobject), if_neg hnull, hstored, hparsed]
      exact congrArg Except.ok (BEq.congr_left heq)

/-- The rows of a completed open. -/
lemma Moved.upgraded [BEq Value] [EquivBEq Value] (hjson : JsonFaithful codec view sqlite)
    {db : Database} (h : Moved codec view legacy db) (maximum : ℕ) :
    Upgraded codec view legacy (enforceTerminalRetention maximum none db).2 := by
  have horigin := h.origin_retention maximum
  refine ⟨(h.retention maximum).kept, horigin, ?_⟩
  rintro row hrow correlationId job hcontent hround ⟨current, hcurrent, hid⟩
  intro limits delivery hdelivery
  obtain ⟨source, hsource, foundId, found, payloadJson, hfound, rfl, hpending, hterminal⟩ :=
    horigin current hcurrent
  -- the table has one row only for the job
  cases legacy.jobIds.eq_of_key_eq hsource hrow hid
  cases hfound.symm.trans hcontent
  have hstored := Database.job_eq_some.mpr ⟨hcurrent, hid.trans hdelivery.symm⟩
  set update := insertedUpdate codec (row.delivered correlationId job) with hupdate
  have hinserted : ((enforceTerminalRetention maximum none db).2.updateJobs
      (fun current => current.jobId = row.jobId) update).job delivery.id =
        some (update.apply (migratedRow codec row correlationId job payloadJson)) := by
    refine Database.job_eq_some.mpr ⟨?_, hid.trans hdelivery.symm⟩
    exact Table.mem_updateWhere.mpr (.inr ⟨_, hcurrent, decide_eq_true hid, rfl⟩)
  exact (insertReceived_congr hstored hinserted rfl rfl rfl
    (payloadMatches_migratedRow hjson hcontent hround hpending hterminal delivery)).symm

/-- A file of version 1 or 2. -/
def StoreFile.IsLegacy (file : StoreFile) (legacy : LegacyJobs) : Prop :=
  file.tables = .initial legacy ∧ file.version = 1 ∨
    file.tables = .indexed legacy ∧ file.version = 2

lemma StoreFile.IsLegacy.upgrading {file : StoreFile} (h : file.IsLegacy legacy) :
    Upgrading codec view legacy file := by
  rw [Upgrading]
  rcases h with ⟨htables, hversion⟩ | ⟨htables, hversion⟩
  · rw [htables]
    exact ⟨rfl, hversion⟩
  · rw [htables]
    exact ⟨rfl, hversion⟩

/-- **Migration is lossless.**  A file of version 1 or 2 whose payloads are wrappers is opened,
after any attempts that the process has died in.  The open completes when the clock can be read; a
completed open has the current version and every row that is not terminal, each row with the content
of its wrapper and its fingerprint, so that a redelivery is answered as it is for a row of the
current version; and opening the file again changes nothing. -/
theorem migration_lossless [BEq Value] [EquivBEq Value] (hjson : JsonFaithful codec view sqlite)
    {file : StoreFile} (hfile : file.IsLegacy legacy) (hwrapped : legacy.Wrapped codec view)
    (attempts : List OpenAttempt) (limits : StorageLimits) :
    let interrupted := afterAttempts codec sqlite attempts file
    (∀ now, (∀ version, ∃ appliedAt, now version = .ok appliedAt) →
      (openStorage codec sqlite limits now interrupted).1 = .ok ()) ∧
    ∀ now, (openStorage codec sqlite limits now interrupted).1 = .ok () →
      let opened := (openStorage codec sqlite limits now interrupted).2
      opened.version = currentMigrationVersion ∧
        (∃ db, opened.tables = .current db ∧ Upgraded codec view legacy db) ∧
        ∀ later, openStorage codec sqlite limits later opened = (.ok (), opened) := by
  intro interrupted
  have hupgrading : Upgrading codec view legacy interrupted :=
    afterAttempts_upgrading hjson hwrapped attempts hfile.upgrading
  refine ⟨?_, ?_⟩
  · intro now hnow
    exact openStorage_total hjson hwrapped limits hnow hupgrading
  · intro now hok opened
    obtain ⟨hversion, db, hmoved, htables⟩ := openStorage_ok hjson hwrapped hupgrading hok
    refine ⟨hversion, ⟨_, htables, hmoved.upgraded hjson _⟩, ?_⟩
    intro later
    exact openStorage_current hversion htables

end Opened

/-! ## A file of version 1 -/

section Sample

open Json (Value)

/-- The text of a wrapper, and of what it wraps. -/
def wrapperText : String :=
  "\x7b\"correlationId\":\"server_job_1\",\"job\":\x7b\"document\":\x7b\x7d\x7d\x7d"

def wrappedText : String := "\x7b\"document\":\x7b\x7d\x7d"

def wrappedJob : Value := .object [("document", .object [])]

/-- `serde_json` and SHA-256 on these texts. -/
def wrapperCodec : Codec Value where
  toString := Value.toString
  fromStr text :=
    if text = wrapperText then
      some (.object [("correlationId", .string "server_job_1"), ("job", wrappedJob)])
    else if text = wrappedText then some wrappedJob
    else if text = "null" then some .null
    else none
  sha256Hex text :=
    if text = wrappedText then "577fb1126636075a0283c21bc2eb10e101cdf16837c11cee50bb82e6241dec9e"
    else ""

/-- JSON values as SQLite sees them. -/
def valueView : JsonView Value where
  member
    | .object members, key => members.lookup key
    | _, _ => none
  text
    | .string content => some content
    | _ => none
  typeName
    | .null => "null"
    | .bool true => "true"
    | .bool false => "false"
    | .number _ => "integer"
    | .string _ => "text"
    | .array _ => "array"
    | .object _ => "object"

/-- The JSON functions on these texts. -/
def wrapperSqlite : SqliteJson where
  jsonType text path :=
    if text = wrapperText then
      .ok (if path = "$.job" then some "object"
        else if path = "$.correlationId" then some "text" else none)
    else if text = wrappedText ∨ text = "null" then .ok none
    else .error "malformed JSON"
  jsonExtract text path :=
    if text = wrapperText then
      .ok (if path = "$.job" then some wrappedText
        else if path = "$.correlationId" then some "server_job_1" else none)
    else if text = wrappedText ∨ text = "null" then .ok none
    else .error "malformed JSON"

/-- The three texts that are read. -/
lemma wrapperCodec_fromStr {text : String} {value : Value}
    (h : wrapperCodec.fromStr text = some value) :
    text = wrapperText ∧
        value = .object [("correlationId", .string "server_job_1"), ("job", wrappedJob)] ∨
      text = wrappedText ∧ value = wrappedJob ∨ text = "null" ∧ value = .null := by
  simp only [wrapperCodec] at h
  split_ifs at h with hwrapper hwrapped hnull
  · exact .inl ⟨hwrapper, (Option.some.inj h).symm⟩
  · exact .inr (.inl ⟨hwrapped, (Option.some.inj h).symm⟩)
  · exact .inr (.inr ⟨hnull, (Option.some.inj h).symm⟩)

lemma toString_object_ne_null (members : List (String × Value)) :
    Value.toString (.object members) ≠ "null" := by
  intro heq
  have hlist := congrArg String.toList heq
  rw [Value.toString, String.toList_ofList] at hlist
  cases members with
  | nil => cases hlist
  | cons member members => cases hlist

lemma jsonFaithful_wrapper : JsonFaithful wrapperCodec valueView wrapperSqlite where
  jsonType text value hvalue key hkey := by
    rcases wrapperCodec_fromStr hvalue with ⟨rfl, rfl⟩ | ⟨rfl, rfl⟩ | ⟨rfl, rfl⟩ <;>
      · simp only [List.mem_cons, List.not_mem_nil, or_false] at hkey
        rcases hkey with rfl | rfl <;> rfl
  extractText text value hvalue item content hitem hcontent := by
    rcases wrapperCodec_fromStr hvalue with ⟨rfl, rfl⟩ | ⟨rfl, rfl⟩ | ⟨rfl, rfl⟩
    · cases hitem
      cases hcontent
      rfl
    · cases hitem
    · cases hitem
  extractObject text value hvalue item hitem _ := by
    rcases wrapperCodec_fromStr hvalue with ⟨rfl, rfl⟩ | ⟨rfl, rfl⟩ | ⟨rfl, rfl⟩
    · cases hitem
      exact ⟨wrappedText, rfl, rfl⟩
    · cases hitem
    · cases hitem
  typeName_text value content hcontent := by
    cases value with
    | string s => rfl
    | bool b => cases hcontent
    | null => cases hcontent
    | number n => cases hcontent
    | array items => cases hcontent
    | object members => cases hcontent
  typeName_null value hvalue := by
    cases hvalue
    decide
  toString_object value hobject := by
    cases value with
    | object members => exact toString_object_ne_null members
    | bool b => cases b <;> simp [valueView] at hobject
    | null => simp [valueView] at hobject
    | number n => simp [valueView] at hobject
    | string s => simp [valueView] at hobject
    | array items => simp [valueView] at hobject

/-- A row of version 1. -/
def wrapperRow (jobId : PrintJobId) (idempotencyKey : String) (state : JobState) : LegacyRow where
  jobId := jobId
  idempotencyKey := idempotencyKey
  printerId := (booleanJob true).printerId
  payloadJson := wrapperText
  state := state
  receivedAt := ⟨1000⟩
  updatedAt := ⟨1001⟩
  retryAttempts := 1
  recoveryCount := 0
  receipt := none
  error := none

lemma wrapperId_valid : validateIdentifier "job_2" = .ok () := by decide

/-- A job that waits, and one that has failed. -/
def wrapperJobs : LegacyJobs where
  rows := [wrapperRow ⟨"job_1", booleanId_valid⟩ "delivery:job_1" .received,
    wrapperRow ⟨"job_2", wrapperId_valid⟩ "delivery:job_2" .failed]
  jobIds := by
    rw [Table.UniqueBy]
    decide
  idempotencyKeys := by
    rw [Table.UniqueBy]
    decide

/-- A file of version 1 with these jobs. -/
def wrapperFile : StoreFile := ⟨[(1, 1000)], .initial wrapperJobs⟩

/-- The process dies between two migrations, and the file is opened again. -/
theorem migration_lossless_interrupted :
    let interrupted := afterAttempts wrapperCodec wrapperSqlite [⟨.default, fun _ => .ok 2000, 1⟩]
      wrapperFile
    (openStorage wrapperCodec wrapperSqlite .default (fun _ => .ok 3000) interrupted).1 = .ok () ∧
      ∃ db, (openStorage wrapperCodec wrapperSqlite .default (fun _ => .ok 3000)
        interrupted).2.tables = .current db ∧ Upgraded wrapperCodec valueView wrapperJobs db := by
  intro interrupted
  have hwrapped : wrapperJobs.Wrapped wrapperCodec valueView := by
    intro row hrow
    simp only [wrapperJobs, List.mem_cons, List.not_mem_nil, or_false] at hrow
    rcases hrow with rfl | rfl <;> exact ⟨"server_job_1", wrappedJob, rfl⟩
  have hfile : wrapperFile.IsLegacy wrapperJobs := .inl ⟨rfl, rfl⟩
  obtain ⟨hcompletes, hupgrades⟩ := migration_lossless jsonFaithful_wrapper hfile hwrapped
    [⟨.default, fun _ => .ok 2000, 1⟩] .default
  have hok := hcompletes (fun _ => .ok 3000) fun _ => ⟨3000, rfl⟩
  exact ⟨hok, (hupgrades _ hok).2.1⟩

end Sample

end Oppa
