import Oppa.Foundation.Result
import Oppa.Storage.Lineage
import Oppa.Storage.Migration

/-!
# Upgrading a database

What a file of version 1 or 2 is while it is opened, however often the process dies on the way.

* `updateEach_ok` — a statement that visits every row, row by row.
* `JsonView`, `JsonFaithful` — JSON values, and what the upgrade relies on of SQLite and
  `serde_json`.
* `wrapped`, `migratedRow` — the content of a wrapper, and the row that the third migration makes of
  it.
* `Moved`, `Upgrading` — what holds of a file at any time between its old and its current version.
* **`OpenTransaction.upgrading`**, `afterAttempts_upgrading` — each transaction keeps it, and so
  does every attempt to open the file.
-/

namespace Oppa

open Result

/-! ## Rows, one after another -/

lemma Database.eq_of_tables {db db' : Database} (hjobs : db.jobs = db'.jobs)
    (houtbox : db.outbox = db'.outbox) : db = db' := by
  cases db
  cases db'
  cases hjobs
  cases houtbox
  rfl

/-- An update by key changes the row with that key only. -/
lemma updateJobs_at {db : Database} {before after : List PrintJobRow} {row : PrintJobRow}
    (hjobs : db.jobs = before ++ row :: after) (update : RowUpdate) :
    (db.updateJobs (fun other => other.jobId = row.jobId) update).jobs =
      before ++ update.apply row :: after := by
  have hids := db.jobIds
  rw [hjobs, Table.UniqueBy, List.map_append, List.map_cons, List.nodup_append] at hids
  obtain ⟨-, hafter, hbefore⟩ := hids
  have hkeep (rows : List PrintJobRow) (hother : ∀ other ∈ rows, other.jobId ≠ row.jobId) :
      Table.updateWhere (fun other => other.jobId = row.jobId) update.apply rows = rows := by
    rw [Table.updateWhere]
    refine (List.map_congr_left fun other hmem => ?_).trans (List.map_id rows)
    simp only [hother other hmem, decide_false]
    rfl
  have hfirst := hkeep before fun other hmem heq =>
    hbefore _ (List.mem_map_of_mem hmem) _ List.mem_cons_self heq
  have hlast := hkeep after fun other hmem heq =>
    (List.nodup_cons.mp hafter).1 (heq ▸ List.mem_map_of_mem hmem)
  rw [Database.updateJobs_jobs, hjobs]
  rw [Table.updateWhere] at hfirst hlast ⊢
  rw [List.map_append, List.map_cons, hfirst, hlast]
  simp only [decide_true, if_true]

/-- **A statement that visits every row** makes of each row what it makes of that row alone. -/
lemma updateEach_ok {f : PrintJobRow → StorageResult RowUpdate} {db db' : Database}
    (h : db.updateEach f = .ok db') :
    List.Forall₂ (fun row row' => ∃ update, f row = .ok update ∧ row' = update.apply row)
      db.jobs db'.jobs := by
  -- the rows before the current one are done, the others are as they were
  have hrun : ∀ (todo done : List PrintJobRow) (current : Database),
      current.jobs = done ++ todo →
      todo.foldlM (fun current row => (f row).map fun update =>
        current.updateJobs (fun other => other.jobId = row.jobId) update) current = .ok db' →
      ∃ todo', db'.jobs = done ++ todo' ∧ List.Forall₂ (fun row row' =>
        ∃ update, f row = .ok update ∧ row' = update.apply row) todo todo' := by
    intro todo
    induction todo with
    | nil =>
        intro done current hcurrent hok
        cases hok
        exact ⟨[], hcurrent, .nil⟩
    | cons row todo ih =>
        intro done current hcurrent hok
        rw [List.foldlM_cons] at hok
        obtain ⟨next, hnext, hok⟩ := bind_eq_ok.mp hok
        obtain ⟨update, hupdate, rfl⟩ := map_eq_ok.mp hnext
        have hjobs := updateJobs_at hcurrent update
        rw [← List.singleton_append, ← List.append_assoc] at hjobs
        obtain ⟨todo', hdone, hall⟩ := ih _ _ hjobs hok
        refine ⟨update.apply row :: todo', ?_, .cons ⟨update, hupdate, rfl⟩ hall⟩
        rw [hdone, List.append_assoc, List.singleton_append]
  obtain ⟨todo', hjobs, hall⟩ := hrun db.jobs [] db rfl h
  rw [hjobs]
  exact hall

lemma mem_updateEach {f : PrintJobRow → StorageResult RowUpdate} {db db' : Database}
    (h : db.updateEach f = .ok db') {row' : PrintJobRow} :
    row' ∈ db'.jobs ↔ ∃ row ∈ db.jobs, ∃ update, f row = .ok update ∧ row' = update.apply row := by
  have hall := updateEach_ok h
  constructor
  · intro hrow'
    exact exists_of_forall₂ hall hrow'
  · rintro ⟨row, hrow, update, hupdate, rfl⟩
    obtain ⟨row', hrow', update', hupdate', rfl⟩ := exists_of_forall₂' hall hrow
    rw [hupdate] at hupdate'
    cases hupdate'
    exact hrow'

/-- Such a statement fails only at a row that it fails at. -/
lemma updateEach_total {f : PrintJobRow → StorageResult RowUpdate} {db : Database}
    (htotal : ∀ row ∈ db.jobs, ∃ update, f row = .ok update) :
    ∃ db', db.updateEach f = .ok db' := by
  have hrun : ∀ (todo : List PrintJobRow) (current : Database),
      (∀ row ∈ todo, ∃ update, f row = .ok update) → ∃ db', todo.foldlM (fun current row =>
        (f row).map fun update => current.updateJobs (fun other => other.jobId = row.jobId) update)
          current = .ok db' := by
    intro todo
    induction todo with
    | nil =>
        intro current _
        exact ⟨current, rfl⟩
    | cons row todo ih =>
        intro current htodo
        rw [List.forall_mem_cons] at htodo
        obtain ⟨⟨update, hupdate⟩, hrest⟩ := htodo
        obtain ⟨db', hdb'⟩ := ih (current.updateJobs (fun other => other.jobId = row.jobId) update)
          hrest
        refine ⟨db', ?_⟩
        rw [List.foldlM_cons, hupdate]
        exact hdb'
  exact hrun db.jobs db htotal

/-! ## Payloads -/

section Payloads

variable {Value : Type}

/-- JSON values as SQLite sees them. -/
structure JsonView (Value : Type) where
  /-- The member of an object. -/
  member : Value → String → Option Value
  /-- The text of a string. -/
  text : Value → Option String
  /-- The name of a value's type. -/
  typeName : Value → String

/-- What the upgrade relies on: the JSON functions of SQLite answer about the value that
`serde_json` reads, at the members `job` and `correlationId`; strings are the values of type `text`;
and the text of an object is not `null`. -/
structure JsonFaithful (codec : Codec Value) (view : JsonView Value) (sqlite : SqliteJson) :
    Prop where
  jsonType : ∀ text value, codec.fromStr text = some value → ∀ key ∈ ["job", "correlationId"],
    sqlite.jsonType text ("$." ++ key) = .ok ((view.member value key).map view.typeName)
  extractText : ∀ text value, codec.fromStr text = some value → ∀ item content,
    view.member value "correlationId" = some item → view.text item = some content →
      sqlite.jsonExtract text "$.correlationId" = .ok (some content)
  extractObject : ∀ text value, codec.fromStr text = some value → ∀ item,
    view.member value "job" = some item → view.typeName item = "object" →
      ∃ part, sqlite.jsonExtract text "$.job" = .ok (some part) ∧ codec.fromStr part = some item
  typeName_text : ∀ value content, view.text value = some content → view.typeName value = "text"
  typeName_null : ∀ value, codec.fromStr "null" = some value → view.typeName value ≠ "object"
  toString_object : ∀ value, view.typeName value = "object" → codec.toString value ≠ "null"

/-- The content of the wrapper `{correlationId, job}`, when a payload is one. -/
def wrapped (codec : Codec Value) (view : JsonView Value) (payloadJson : String) :
    Option (String × Value) := do
  let value ← codec.fromStr payloadJson
  let correlationId ← (view.member value "correlationId").bind view.text
  let job ← view.member value "job"
  if view.typeName job = "object" then some (correlationId, job) else none

variable {codec : Codec Value} {view : JsonView Value} {sqlite : SqliteJson}

lemma wrapped_eq_some {payloadJson correlationId : String} {job : Value}
    (h : wrapped codec view payloadJson = some (correlationId, job)) :
    ∃ value item, codec.fromStr payloadJson = some value ∧
      view.member value "correlationId" = some item ∧ view.text item = some correlationId ∧
      view.member value "job" = some job ∧ view.typeName job = "object" := by
  simp only [wrapped, bind, Option.bind_eq_some_iff] at h
  obtain ⟨value, hvalue, content, ⟨item, hitem, hcontent⟩, found, hfound, hobject⟩ := h
  split_ifs at hobject with htype
  cases hobject
  exact ⟨value, item, hvalue, hitem, hcontent, hfound, htype⟩

/-- A row as the current version has it: every column of the old one, and the content of the
wrapper. -/
def migratedRow (codec : Codec Value) (row : LegacyRow) (correlationId : String) (job : Value)
    (payloadJson : String) : PrintJobRow :=
  { row.widen with
    payloadJson := payloadJson
    sourceMessageId := correlationId
    payloadSha256 := payloadFingerprint codec job }

/-- The wrapper of a payload is taken off. -/
lemma unwrapRow_wrapped (hjson : JsonFaithful codec view sqlite) {row : PrintJobRow}
    {correlationId : String} {job : Value}
    (hrow : wrapped codec view row.payloadJson = some (correlationId, job)) :
    ∃ payloadJson, unwrapRow sqlite row = .ok (unwrapUpdate correlationId payloadJson) ∧
      codec.fromStr payloadJson = some job := by
  obtain ⟨value, item, hvalue, hitem, htext, hjob, htype⟩ := wrapped_eq_some hrow
  have hjobType := hjson.jsonType _ _ hvalue "job" (by simp)
  have hcorrelationType := hjson.jsonType _ _ hvalue "correlationId" (by simp)
  rw [hjob, Option.map_some, htype] at hjobType
  rw [hitem, Option.map_some, hjson.typeName_text _ _ htext] at hcorrelationType
  obtain ⟨payloadJson, hextract, hparse⟩ := hjson.extractObject _ _ hvalue _ hjob htype
  refine ⟨payloadJson, ?_, hparse⟩
  have hjobPath : "$." ++ "job" = "$.job" := rfl
  have hcorrelationPath : "$." ++ "correlationId" = "$.correlationId" := rfl
  rw [hjobPath] at hjobType
  rw [hcorrelationPath] at hcorrelationType
  simp only [unwrapRow, hjobType, hcorrelationType, hextract,
    hjson.extractText _ _ hvalue _ _ hitem htext]
  rfl

/-- A payload that has not been hashed is hashed. -/
lemma backfillRow_of_parsed {row : PrintJobRow} {job : Value} (hrow : row.payloadSha256 = "")
    (hjob : codec.fromStr row.payloadJson = some job) :
    backfillRow codec row = .ok (fingerprintUpdate (payloadFingerprint codec job)) := by
  rw [backfillRow, if_pos hrow, hjob]

/-- What the third migration reads in a row: its wrapper, and the text that remains of it. -/
structure Unwraps (codec : Codec Value) (view : JsonView Value) (sqlite : SqliteJson)
    (row : LegacyRow) (correlationId : String) (job : Value) (payloadJson : String) : Prop where
  content : wrapped codec view row.payloadJson = some (correlationId, job)
  update : unwrapRow sqlite row.widen = .ok (unwrapUpdate correlationId payloadJson)
  parsed : codec.fromStr payloadJson = some job

lemma exists_unwraps (hjson : JsonFaithful codec view sqlite) {row : LegacyRow}
    {correlationId : String} {job : Value}
    (hrow : wrapped codec view row.payloadJson = some (correlationId, job)) :
    ∃ payloadJson, Unwraps codec view sqlite row correlationId job payloadJson := by
  have hwidened : wrapped codec view row.widen.payloadJson = some (correlationId, job) := hrow
  obtain ⟨payloadJson, hupdate, hjob⟩ := unwrapRow_wrapped hjson hwidened
  exact ⟨payloadJson, hrow, hupdate, hjob⟩

/-- Every payload is a wrapper. -/
def LegacyJobs.Wrapped (codec : Codec Value) (view : JsonView Value) (legacy : LegacyJobs) : Prop :=
  ∀ row ∈ legacy.rows, ∃ correlationId job,
    wrapped codec view row.payloadJson = some (correlationId, job)

/-- The `UPDATE` of the third migration takes every wrapper off. -/
lemma unwrap_ok (hjson : JsonFaithful codec view sqlite) {legacy : LegacyJobs}
    (hwrapped : legacy.Wrapped codec view) :
    ∃ unwrapped, legacy.alter.updateEach (unwrapRow sqlite) = .ok unwrapped ∧
      ∀ current, current ∈ unwrapped.jobs ↔ ∃ row ∈ legacy.rows, ∃ correlationId job payloadJson,
        Unwraps codec view sqlite row correlationId job payloadJson ∧
        current = (unwrapUpdate correlationId payloadJson).apply row.widen := by
  have hread : ∀ row ∈ legacy.rows, ∃ correlationId job payloadJson,
      Unwraps codec view sqlite row correlationId job payloadJson := by
    intro row hrow
    obtain ⟨correlationId, job, hcontent⟩ := hwrapped row hrow
    exact ⟨correlationId, job, exists_unwraps hjson hcontent⟩
  obtain ⟨unwrapped, hunwrapped⟩ := @updateEach_total (unwrapRow sqlite) legacy.alter
    fun row hrow => by
      obtain ⟨old, hold, rfl⟩ := List.mem_map.mp hrow
      obtain ⟨correlationId, job, payloadJson, hread⟩ := hread old hold
      exact ⟨_, hread.update⟩
  refine ⟨unwrapped, hunwrapped, fun current => ?_⟩
  rw [mem_updateEach hunwrapped]
  constructor
  · rintro ⟨widened, hwidened, update, hupdate, rfl⟩
    obtain ⟨row, hrow, rfl⟩ := List.mem_map.mp hwidened
    obtain ⟨correlationId, job, payloadJson, hread⟩ := hread row hrow
    rw [hread.update] at hupdate
    cases hupdate
    exact ⟨row, hrow, correlationId, job, payloadJson, hread, rfl⟩
  · rintro ⟨row, hrow, correlationId, job, payloadJson, hread, rfl⟩
    exact ⟨row.widen, List.mem_map_of_mem hrow, _, hread.update, rfl⟩

/-- **The third migration** reads the wrapper of every row, and hashes what it finds there. -/
lemma jobRetentionOutbox_ok (hjson : JsonFaithful codec view sqlite) {legacy : LegacyJobs}
    (hwrapped : legacy.Wrapped codec view) :
    ∃ unwrapped db, legacy.alter.updateEach (unwrapRow sqlite) = .ok unwrapped ∧
      unwrapped.updateEach (backfillRow codec) = .ok db ∧
      ∀ current, current ∈ db.jobs ↔ ∃ row ∈ legacy.rows, ∃ correlationId job payloadJson,
        Unwraps codec view sqlite row correlationId job payloadJson ∧
        current = migratedRow codec row correlationId job payloadJson := by
  obtain ⟨unwrapped, hunwrapped, hmem⟩ := unwrap_ok hjson hwrapped
  obtain ⟨db, hdb⟩ := @updateEach_total (backfillRow codec) unwrapped
    fun current hcurrent => by
      obtain ⟨row, -, correlationId, job, payloadJson, hread, rfl⟩ := (hmem current).mp hcurrent
      exact ⟨_, backfillRow_of_parsed rfl hread.parsed⟩
  refine ⟨unwrapped, db, hunwrapped, hdb, fun current => ?_⟩
  rw [mem_updateEach hdb]
  constructor
  · rintro ⟨unhashed, hunhashed, update, hupdate, rfl⟩
    obtain ⟨row, hrow, correlationId, job, payloadJson, hread, rfl⟩ := (hmem unhashed).mp hunhashed
    rw [backfillRow_of_parsed rfl hread.parsed] at hupdate
    cases hupdate
    exact ⟨row, hrow, correlationId, job, payloadJson, hread, rfl⟩
  · rintro ⟨row, hrow, correlationId, job, payloadJson, hread, rfl⟩
    exact ⟨_, (hmem _).mpr ⟨row, hrow, correlationId, job, payloadJson, hread, rfl⟩, _,
      backfillRow_of_parsed rfl hread.parsed, rfl⟩

/-! ## Files on the way -/

/-- The rows of the current tables are those of the old ones: none that is not terminal is missing,
and a payload is what was wrapped, unless it has been pruned. -/
structure Moved (codec : Codec Value) (view : JsonView Value) (legacy : LegacyJobs)
    (db : Database) : Prop where
  kept : ∀ row ∈ legacy.rows, row.state.isTerminal = false → ∀ correlationId job,
    wrapped codec view row.payloadJson = some (correlationId, job) →
      ∃ payloadJson, codec.fromStr payloadJson = some job ∧
        migratedRow codec row correlationId job payloadJson ∈ db.jobs
  origin : ∀ current ∈ db.jobs, ∃ row ∈ legacy.rows, ∃ correlationId job payloadJson,
    wrapped codec view row.payloadJson = some (correlationId, job) ∧
      current = migratedRow codec row correlationId job payloadJson ∧
      (codec.fromStr payloadJson = some job ∨ row.state.isTerminal = true ∧ payloadJson = "null")

/-- A pruned row is a migrated row. -/
lemma prune_migratedRow (codec : Codec Value) (row : LegacyRow) (correlationId : String)
    (job : Value) (payloadJson : String) :
    (migratedRow codec row correlationId job payloadJson).prune =
      migratedRow codec row correlationId job
        (if row.state.isTerminal then "null" else payloadJson) := by
  rw [PrintJobRow.prune]
  show (if row.state.isTerminal then _ else _) = _
  split_ifs <;> rfl

variable {legacy : LegacyJobs}

/-- Retention moves no row that is not terminal. -/
lemma Moved.retention {db : Database} (h : Moved codec view legacy db) (maximum : ℕ) :
    Moved codec view legacy (enforceTerminalRetention maximum none db).2 := by
  constructor
  · intro row hrow hpending correlationId job hcontent
    obtain ⟨payloadJson, hjob, hmem⟩ := h.kept row hrow hpending correlationId job hcontent
    exact ⟨payloadJson, hjob, mem_retention_of_pending hmem hpending⟩
  · intro current hcurrent
    obtain ⟨⟨old, hold, rfl⟩, -⟩ := mem_retention_jobs.mp hcurrent
    obtain ⟨row, hrow, correlationId, job, payloadJson, hcontent, rfl, hpayload⟩ :=
      h.origin old hold
    refine ⟨row, hrow, correlationId, job, _, hcontent, prune_migratedRow _ _ _ _ _, ?_⟩
    split_ifs with hterminal
    · exact .inr ⟨hterminal, rfl⟩
    · exact .inl (hpayload.resolve_right fun hpruned => hterminal hpruned.1)

/-- Tables between their old and their current version. -/
def UpgradingTables (codec : Codec Value) (view : JsonView Value) (legacy : LegacyJobs)
    (version : ℕ) : Tables → Prop
  | .absent => False
  | .initial jobs => jobs = legacy ∧ version = 1
  | .indexed jobs => jobs = legacy ∧ version = 2
  | .current db => Moved codec view legacy db ∧ version = 3

/-- A file between its old and its current version. -/
def Upgrading (codec : Codec Value) (view : JsonView Value) (legacy : LegacyJobs)
    (file : StoreFile) : Prop := UpgradingTables codec view legacy file.version file.tables

lemma version_append (migrations : List (ℕ × ℤ)) (version : ℕ) (appliedAt : ℤ)
    (tables tables' : Tables) :
    (⟨migrations ++ [(version, appliedAt)], tables'⟩ : StoreFile).version =
      max (⟨migrations, tables⟩ : StoreFile).version version := by
  simp only [StoreFile.version, List.map_append, List.map_cons, List.map_nil, List.foldr_append,
    List.foldr_cons, List.foldr_nil, Nat.max_zero]
  induction migrations with
  | nil => simp
  | cons migration migrations ih =>
      rw [List.map_cons, List.foldr_cons, List.foldr_cons, ih, Nat.max_assoc]

/-- The third migration moves the rows of the old tables. -/
lemma moved_of_migrated (hjson : JsonFaithful codec view sqlite)
    (hwrapped : legacy.Wrapped codec view) :
    ∃ unwrapped db,
      jobRetentionOutboxMigration sqlite (.initial legacy) = .ok (.current unwrapped) ∧
      jobRetentionOutboxMigration sqlite (.indexed legacy) = .ok (.current unwrapped) ∧
      backfillPayloadFingerprints codec (.current unwrapped) = .ok (.current db) ∧
      Moved codec view legacy db := by
  obtain ⟨unwrapped, db, hunwrapped, hdb, hmem⟩ := jobRetentionOutbox_ok hjson hwrapped
  refine ⟨unwrapped, db, ?_, ?_, ?_, ?_, ?_⟩
  · rw [jobRetentionOutboxMigration, hunwrapped]
    rfl
  · rw [jobRetentionOutboxMigration, hunwrapped]
    rfl
  · rw [backfillPayloadFingerprints, hdb]
    rfl
  · intro row hrow _ correlationId job hcontent
    obtain ⟨payloadJson, hread⟩ := exists_unwraps hjson hcontent
    exact ⟨payloadJson, hread.parsed,
      (hmem _).mpr ⟨row, hrow, correlationId, job, payloadJson, hread, rfl⟩⟩
  · intro current hcurrent
    obtain ⟨row, hrow, correlationId, job, payloadJson, hread, rfl⟩ := (hmem current).mp hcurrent
    exact ⟨row, hrow, correlationId, job, payloadJson, hread.content, rfl, .inl hread.parsed⟩

/-- The statements of a migration, applied to tables on their way. -/
lemma migrationSql_upgrading (hjson : JsonFaithful codec view sqlite)
    (hwrapped : legacy.Wrapped codec view) {version : ℕ}
    {migration : ℕ × (Tables → StorageResult Tables)} (hmem : migration ∈ migrations sqlite)
    {before tables after : Tables}
    (hbefore : UpgradingTables codec view legacy version before)
    (hsql : migration.2 before = .ok tables)
    (hfill : backfill codec migration.1 tables = .ok after) :
    UpgradingTables codec view legacy (max version migration.1) after := by
  obtain ⟨unwrapped, db, hinitial, hindexed, hfilled, hmoved⟩ := moved_of_migrated hjson hwrapped
  simp only [migrations, List.mem_cons, List.not_mem_nil, or_false] at hmem
  cases before with
  | absent => exact hbefore.elim
  | initial jobs =>
      obtain ⟨rfl, rfl⟩ := hbefore
      rcases hmem with rfl | rfl | rfl
      · cases hsql
      · cases hsql
        cases hfill
        exact ⟨rfl, rfl⟩
      · cases hinitial.symm.trans hsql
        cases hfilled.symm.trans hfill
        exact ⟨hmoved, rfl⟩
  | indexed jobs =>
      obtain ⟨rfl, rfl⟩ := hbefore
      rcases hmem with rfl | rfl | rfl
      · cases hsql
      · cases hsql
      · cases hindexed.symm.trans hsql
        cases hfilled.symm.trans hfill
        exact ⟨hmoved, rfl⟩
  | current db =>
      rcases hmem with rfl | rfl | rfl
      · cases hsql
      · cases hsql
      · cases hsql

/-- The transactions of an open. -/
inductive OpenTransaction (codec : Codec Value) (sqlite : SqliteJson) :
    (StoreFile → StorageResult StoreFile) → Prop
  | migration {migration : ℕ × (Tables → StorageResult Tables)}
      (hmem : migration ∈ migrations sqlite) (now : StorageResult ℤ) :
      OpenTransaction codec sqlite (migrationTransaction codec migration.1 migration.2 now)
  | maintenance (limits : StorageLimits) :
      OpenTransaction codec sqlite (maintainTerminalJobs limits)

/-- **Every transaction** of an open takes a file further on its way. -/
lemma OpenTransaction.upgrading (hjson : JsonFaithful codec view sqlite)
    (hwrapped : legacy.Wrapped codec view) {transaction : StoreFile → StorageResult StoreFile}
    (htransaction : OpenTransaction codec sqlite transaction) {file file' : StoreFile}
    (hfile : Upgrading codec view legacy file) (hrun : transaction file = .ok file') :
    Upgrading codec view legacy file' := by
  cases htransaction with
  | migration hmem now =>
      rw [migrationTransaction] at hrun
      obtain ⟨tables, hsql, hrun⟩ := bind_eq_ok.mp hrun
      obtain ⟨after, hfill, hrun⟩ := bind_eq_ok.mp hrun
      obtain ⟨appliedAt, -, hrun⟩ := bind_eq_ok.mp hrun
      split_ifs at hrun
      cases hrun
      rw [Upgrading, version_append _ _ _ file.tables]
      exact migrationSql_upgrading hjson hwrapped hmem hfile hsql hfill
  | maintenance limits =>
      rw [maintainTerminalJobs] at hrun
      split at hrun
      · rename_i db htables
        cases hrun
        rw [Upgrading, htables] at hfile
        exact ⟨hfile.1.retention _, hfile.2⟩
      · cases hrun

lemma openTransactions_sound {limits : StorageLimits} {now : ℕ → StorageResult ℤ}
    {file : StoreFile} : ∀ transaction ∈ openTransactions codec sqlite limits now file,
      OpenTransaction codec sqlite transaction := by
  intro transaction hmem
  rw [openTransactions, List.mem_append, List.mem_map, List.mem_singleton] at hmem
  rcases hmem with ⟨migration, hmigration, rfl⟩ | rfl
  · exact .migration (List.mem_filter.mp hmigration).1 _
  · exact .maintenance limits

/-- **A run of transactions**, up to a crash or a failure, takes a file further on its way. -/
lemma runTransactions_upgrading (hjson : JsonFaithful codec view sqlite)
    (hwrapped : legacy.Wrapped codec view)
    {transactions : List (StoreFile → StorageResult StoreFile)}
    (hall : ∀ transaction ∈ transactions, OpenTransaction codec sqlite transaction)
    {file : StoreFile} (hfile : Upgrading codec view legacy file) :
    Upgrading codec view legacy (runTransactions transactions file).2 := by
  induction transactions generalizing file with
  | nil => exact hfile
  | cons transaction transactions ih =>
      rw [List.forall_mem_cons] at hall
      rw [runTransactions]
      cases hrun : transaction file with
      | error error => exact hfile
      | ok file' => exact ih hall.2 (hall.1.upgrading hjson hwrapped hfile hrun)

lemma interruptedOpen_upgrading (hjson : JsonFaithful codec view sqlite)
    (hwrapped : legacy.Wrapped codec view) (limits : StorageLimits) (now : ℕ → StorageResult ℤ)
    (commits : ℕ) {file : StoreFile} (hfile : Upgrading codec view legacy file) :
    Upgrading codec view legacy (interruptedOpen codec sqlite limits now commits file) := by
  rw [interruptedOpen]
  split_ifs
  · exact hfile
  · refine runTransactions_upgrading hjson hwrapped (fun transaction hmem => ?_) hfile
    exact openTransactions_sound transaction (List.mem_of_mem_take hmem)

lemma afterAttempts_upgrading (hjson : JsonFaithful codec view sqlite)
    (hwrapped : legacy.Wrapped codec view) (attempts : List OpenAttempt) {file : StoreFile}
    (hfile : Upgrading codec view legacy file) :
    Upgrading codec view legacy (afterAttempts codec sqlite attempts file) := by
  induction attempts generalizing file with
  | nil => exact hfile
  | cons attempt attempts ih =>
      exact ih (interruptedOpen_upgrading hjson hwrapped _ _ attempt.commits hfile)

end Payloads

end Oppa
