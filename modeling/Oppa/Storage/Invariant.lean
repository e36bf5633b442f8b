import Mathlib.Data.List.Induction
import Oppa.Foundation.History
import Oppa.Storage.Operation

/-!
# The invariant of the store

What holds of the tables after any sequence of operations on a fresh store.

* `PrintJobRow.Consistent` — the columns of one row fit each other.
* `RowStep` — the five ways in which an operation rewrites a row; `Commit.row_cases` says that a row
  is either inserted by the operation or rewritten in one of them.
* `StoreInvariant` — the invariant, over the tables and the history of events that led to them.
* **`storeInvariant_of_committed`** — it holds after every sequence of commits, and so
  (`storeInvariant_runOperations`) after every sequence of operations.
-/

namespace Oppa

variable {Value : Type} {storage : SqliteStorage Value}

/-! ## Terminal retention -/

/-- What the first statement of retention makes of a row. -/
def PrintJobRow.prune (row : PrintJobRow) : PrintJobRow :=
  if row.isTerminal then { row with payloadJson := "null" } else row

namespace PrintJobRow

variable (row : PrintJobRow)

@[simp] lemma prune_jobId : row.prune.jobId = row.jobId := by
  unfold prune
  split <;> rfl

@[simp] lemma prune_state : row.prune.state = row.state := by
  unfold prune
  split <;> rfl

@[simp] lemma prune_retryAttempts : row.prune.retryAttempts = row.retryAttempts := by
  unfold prune
  split <;> rfl

@[simp] lemma prune_isTerminal : row.prune.isTerminal = row.isTerminal := by
  simp [isTerminal]

@[simp] lemma prune_isPending : row.prune.isPending = row.isPending := by
  simp [isPending]

lemma isTerminal_iff_not_isPending : row.isTerminal = !row.isPending := by
  cases h : row.state <;> simp [isTerminal, isPending, JobState.isTerminal, h]

end PrintJobRow

section Retention

variable {maximum : ℕ} {protectedJobId : Option PrintJobId} {db : Database}

lemma prunePayloads_jobs : (prunePayloads db).jobs = db.jobs.map PrintJobRow.prune := by
  simp only [prunePayloads, Database.updateJobs_jobs, Table.updateWhere]
  refine List.map_congr_left fun row _ => ?_
  -- a payload that is already `null` is left alone, which is the same as pruning it
  by_cases hterm : row.isTerminal = true <;> by_cases hnull : row.payloadJson = "null" <;>
    simp [PrintJobRow.prune, pruneUpdate, hterm, hnull]
  rw [← hnull]

@[simp] lemma prunePayloads_outbox : (prunePayloads db).outbox = db.outbox := rfl

lemma countJobs_prunePayloads {p : PrintJobRow → Bool} (hp : ∀ row, p row.prune = p row) :
    (prunePayloads db).countJobs p = db.countJobs p := by
  simp only [Database.countJobs, prunePayloads_jobs, List.countP_map]
  refine List.countP_congr fun row _ => ?_
  simp [hp]

lemma mem_retentionVictims {row : PrintJobRow}
    (h : row ∈ retentionVictims maximum protectedJobId db) :
    row ∈ db.jobs ∧ row.isTerminal = true ∧ some row.jobId ≠ protectedJobId := by
  simpa [and_assoc] using Table.mem_of_mem_oldest h

lemma uniqueBy_retentionVictims :
    Table.UniqueBy PrintJobRow.jobId (retentionVictims maximum protectedJobId db) :=
  (db.jobIds.filter _).oldest

lemma retention_jobs :
    (enforceTerminalRetention maximum protectedJobId db).2.jobs
      = Table.dropKeys PrintJobRow.jobId
          ((retentionVictims maximum protectedJobId (prunePayloads db)).map PrintJobRow.jobId)
          (db.jobs.map PrintJobRow.prune) := by
  simp [enforceTerminalRetention, prunePayloads_jobs]

/-- Retention never adds to a selection that pruning does not change. -/
lemma countJobs_retention_le {p : PrintJobRow → Bool} (hp : ∀ row, p row.prune = p row) :
    (enforceTerminalRetention maximum protectedJobId db).2.countJobs p ≤ db.countJobs p := by
  rw [← @countJobs_prunePayloads db _ hp, Database.countJobs, Database.countJobs,
    retention_jobs, prunePayloads_jobs]
  exact List.filter_sublist.countP_le

/-- **Retention is complete and no more than that**: with room for at least one terminal row, the
excess over `maximum` goes, whether or not one row is protected. -/
lemma countTerminal_retention (hmax : 0 < maximum) :
    (enforceTerminalRetention maximum protectedJobId db).2.countJobs PrintJobRow.isTerminal
      = min (db.countJobs PrintJobRow.isTerminal) maximum := by
  set pruned := prunePayloads db with hpruned
  set victims := retentionVictims maximum protectedJobId pruned with hvictims
  have hunique : Table.UniqueBy PrintJobRow.jobId victims := uniqueBy_retentionVictims
  have hdrop := Table.countP_dropKeys pruned.jobIds hunique
    (fun row hrow => (mem_retentionVictims hrow).1) PrintJobRow.isTerminal
  have hall : victims.countP PrintJobRow.isTerminal = victims.length :=
    List.countP_eq_length.mpr fun row hrow => (mem_retentionVictims hrow).2.1
  have hlen : victims.length = min (pruned.countJobs PrintJobRow.isTerminal - maximum)
      (pruned.jobs.countP fun row => row.isTerminal && some row.jobId ≠ protectedJobId) := by
    rw [hvictims, retentionVictims, Table.length_oldest, ← List.countP_eq_length_filter]
  -- protecting a job sets aside at most one terminal row
  have hprotected : pruned.jobs.countP PrintJobRow.isTerminal ≤
      pruned.jobs.countP (fun row => row.isTerminal && some row.jobId ≠ protectedJobId) + 1 := by
    cases protectedJobId with
    | none => simp
    | some id =>
        have hle := Table.countP_le_countP_ne_succ pruned.jobIds (k := id) PrintJobRow.isTerminal
        simpa using hle
  have hcount : pruned.countJobs PrintJobRow.isTerminal = db.countJobs PrintJobRow.isTerminal :=
    countJobs_prunePayloads PrintJobRow.prune_isTerminal
  have hkept : (enforceTerminalRetention maximum protectedJobId db).2.jobs
      = Table.dropKeys PrintJobRow.jobId (victims.map PrintJobRow.jobId) pruned.jobs := by
    rw [retention_jobs, hpruned, prunePayloads_jobs]
  simp only [Database.countJobs] at *
  rw [hkept]
  omega

end Retention

/-! ## Rows over a commit -/

/-- The insertion of a job, as the history records it. -/
def insertionOf (id : PrintJobId) : RepositoryEvent → Option PrintJobRow
  | .inserted row => if row.jobId = id then some row else none
  | _ => none

/-- The row with which a job was last inserted. -/
def lastInserted (id : PrintJobId) (h : List RepositoryEvent) : Option PrintJobRow :=
  History.latest (insertionOf id) h

/-- The ways in which an operation rewrites a stored row. -/
inductive RowStep : PrintJobRow → PrintJobRow → Prop
  | keep (row : PrintJobRow) : RowStep row row
  | prune (row : PrintJobRow) : RowStep row row.prune
  | claim (row : PrintJobRow) (now : Timestamp) : row.state = .received →
      RowStep row ((transitionUpdate .submitting none none now).apply row)
  | finish (w : TerminalWrite) (row : PrintJobRow) (now : Timestamp) : row.jobId = w.id →
      transitionAllowed row.state w.requested = true →
      RowStep row ((transitionUpdate w.requested w.receipt w.error now).apply row).prune
  | recover (row : PrintJobRow) (now : Timestamp) : row.state = .submitting →
      RowStep row ((recoveryUpdate now).apply row)

lemma RowStep.jobId {old row : PrintJobRow} (hstep : RowStep old row) : row.jobId = old.jobId := by
  cases hstep with
  | keep => rfl
  | prune => exact PrintJobRow.prune_jobId _
  | claim => rfl
  | finish => exact PrintJobRow.prune_jobId _
  | recover => rfl

lemma insertionOf_evictions {id : PrintJobId} {db db' : Database} :
    ∀ e ∈ evictions db db', insertionOf id e = none := by
  intro e he
  obtain ⟨row, -, rfl⟩ := List.mem_map.mp he
  rfl

lemma insertionOf_transitionEvents {id id' : PrintJobId} {requested : JobState}
    {status : Option OutboxRow} {db db' : Database} :
    ∀ e ∈ transitionEvents id' requested status db db', insertionOf id e = none := by
  intro e he
  simp only [transitionEvents, List.mem_cons, List.mem_append, List.mem_map] at he
  rcases he with rfl | ⟨s, -, rfl⟩ | he
  · rfl
  · rfl
  · exact insertionOf_evictions e he

/-- **Where a row comes from.**  After a commit every row is either the one the commit inserted or
a stored row, rewritten in one of the five ways. -/
lemma Commit.row_cases {db db' : Database} {es : List RepositoryEvent}
    (hcommit : Commit storage db es db') {row : PrintJobRow} (hrow : row ∈ db'.jobs) :
    (∃ old ∈ db.jobs, RowStep old row ∧ ∀ e ∈ es, insertionOf row.jobId e = none) ∨
    (es = [.inserted row] ∧ db.job row.jobId = none ∧
      ∃ job, prepareReceived storage.codec job = .ok (storage.codec.toString job.payload) ∧
        row = receivedRow storage.codec job (storage.codec.toString job.payload)) := by
  cases hcommit with
  | nothing => exact Or.inl ⟨row, hrow, .keep row, by simp⟩
  | insert hprep hroom hdb' =>
      obtain ⟨hjobs, -, hfree⟩ := Database.insertJob_ok hdb'
      rw [hjobs, List.mem_append, List.mem_singleton] at hrow
      rcases hrow with hrow | rfl
      · refine Or.inl ⟨row, hrow, .keep row, fun e he => ?_⟩
        rw [List.mem_singleton] at he
        subst he
        exact if_neg fun h => Database.job_eq_none.mp hfree row hrow h.symm
      · obtain ⟨-, -, -, rfl⟩ := prepareReceived_ok_iff.mp hprep
        exact Or.inr ⟨rfl, hfree, _, hprep, rfl⟩
  | claim hjob hstate =>
      rename_i id stored now
      refine Or.inl ?_
      rcases Table.mem_updateWhere.mp hrow with ⟨hold, -⟩ | ⟨old, hold, hid, rfl⟩
      · exact ⟨row, hold, .keep row, by simp [insertionOf]⟩
      · have heq : old = stored := by
          have hfound := Database.job_of_mem hold
          rw [of_decide_eq_true hid, hjob] at hfound
          exact (Option.some.inj hfound).symm
        exact ⟨old, hold, .claim old now (heq ▸ hstate), by simp [insertionOf]⟩
  | finish w hjob hallowed hrec hkept =>
      rename_i recorded stored now
      refine Or.inl ?_
      subst hkept
      rw [retention_jobs, Table.mem_dropKeys, (recordStatus_ok hrec).1] at hrow
      obtain ⟨updated, hupdated, rfl⟩ := List.mem_map.mp hrow.1
      rcases Table.mem_updateWhere.mp hupdated with ⟨hold, -⟩ | ⟨old, hold, hid, rfl⟩
      · exact ⟨updated, hold, .prune updated, insertionOf_transitionEvents⟩
      · have hid' : old.jobId = w.id := of_decide_eq_true hid
        have heq : old = stored := by
          have hfound := Database.job_of_mem hold
          rw [hid', hjob] at hfound
          exact (Option.some.inj hfound).symm
        exact ⟨old, hold, .finish w old now hid' (heq ▸ hallowed), insertionOf_transitionEvents⟩
  | recover =>
      rename_i now
      refine Or.inl ?_
      have hnone : ∀ e ∈ (db.jobs.filter fun row => row.state = .submitting).map
          (fun row => RepositoryEvent.recovered row.jobId), insertionOf row.jobId e = none := by
        intro e he
        obtain ⟨r, -, rfl⟩ := List.mem_map.mp he
        rfl
      rcases Table.mem_updateWhere.mp hrow with ⟨hold, -⟩ | ⟨old, hold, hstate, rfl⟩
      · exact ⟨row, hold, .keep row, hnone⟩
      · exact ⟨old, hold, .recover old now (of_decide_eq_true hstate), hnone⟩
  | acknowledge => exact Or.inl ⟨row, hrow, .keep row, by simp [insertionOf]⟩
  | maintain hkept =>
      subst hkept
      rw [retention_jobs, Table.mem_dropKeys] at hrow
      obtain ⟨old, hold, rfl⟩ := List.mem_map.mp hrow.1
      exact Or.inl ⟨old, hold, .prune old, insertionOf_evictions⟩

/-! ## The invariant -/

/-- The columns of one row fit each other. -/
structure PrintJobRow.Consistent (row : PrintJobRow) : Prop where
  attempts :
    match row.state with
    | .received => row.retryAttempts = row.recoveryCount
    | .submitting | .submitted => row.retryAttempts = row.recoveryCount + 1
    | .failed | .cancelled =>
        row.retryAttempts = row.recoveryCount ∨ row.retryAttempts = row.recoveryCount + 1
  receipt : row.receipt.isSome = true ↔ row.state = .submitted
  error :
    match row.state with
    | .failed => row.error.isSome = true
    | .received => row.error.isSome = true ↔ 0 < row.recoveryCount
    | .submitting | .submitted | .cancelled => row.error = none

/-- The row is the one a delivered job was stored as; only a terminal row may have had its payload
pruned. -/
structure StoredFrom (codec : Codec Value) (row : PrintJobRow) (job : ReceivedPrintJob Value) :
    Prop where
  jobId : row.jobId = job.id
  idempotencyKey : row.idempotencyKey = job.idempotencyKey
  printerId : row.printerId = job.printerId
  sourceMessageId : row.sourceMessageId = job.sourceMessageId
  receivedAt : row.receivedAt = job.receivedAt
  fingerprint : row.payloadSha256 = payloadFingerprint codec job.payload
  payload : row.payloadJson = codec.toString job.payload ∨
    (row.isTerminal = true ∧ row.payloadJson = "null")

/-- The job a row was last inserted for: it passed the checks of the store, and the row still is
that job. -/
def HasOrigin (storage : SqliteStorage Value) (h : List RepositoryEvent) (row : PrintJobRow) :
    Prop :=
  ∃ job : ReceivedPrintJob Value,
    prepareReceived storage.codec job = .ok (storage.codec.toString job.payload) ∧
    lastInserted row.jobId h
      = some (receivedRow storage.codec job (storage.codec.toString job.payload)) ∧
    StoredFrom storage.codec row job

/-- What holds of the tables `db` after the events `h`. -/
structure StoreInvariant (storage : SqliteStorage Value) (h : List RepositoryEvent)
    (db : Database) : Prop where
  jobIds : Table.UniqueBy PrintJobRow.jobId db.jobs
  idempotencyKeys : Table.UniqueBy PrintJobRow.idempotencyKey db.jobs
  consistent : ∀ row ∈ db.jobs, row.Consistent
  origin : ∀ row ∈ db.jobs, HasOrigin storage h row
  pendingBound : db.countJobs PrintJobRow.isPending ≤ storage.limits.maxPendingJobs
  terminalBound : db.countJobs PrintJobRow.isTerminal ≤ storage.limits.maxTerminalJobs
  outboxTerminal : ∀ status ∈ db.outbox,
    ∃ row ∈ db.jobs, row.jobId = status.jobId ∧ row.isTerminal = true

/-! ## Rows keep their columns consistent -/

lemma receivedRow_consistent {codec : Codec Value} {job : ReceivedPrintJob Value}
    {payload : String} : (receivedRow codec job payload).Consistent where
  attempts := rfl
  receipt := by simp [receivedRow]
  error := by simp [receivedRow]

lemma PrintJobRow.Consistent.prune {row : PrintJobRow} (h : row.Consistent) :
    row.prune.Consistent := by
  unfold PrintJobRow.prune
  split
  · exact ⟨h.attempts, h.receipt, h.error⟩
  · exact h

lemma PrintJobRow.Consistent.finish {row : PrintJobRow} (h : row.Consistent) (w : TerminalWrite)
    (now : Timestamp) (hallowed : transitionAllowed row.state w.requested = true) :
    ((transitionUpdate w.requested w.receipt w.error now).apply row).Consistent := by
  have hattempts := h.attempts
  have hreceipt := h.receipt
  have hterminal := w.terminal
  have hw := w.receipt_iff
  have hw' := w.error_iff
  constructor
  · cases hr : w.requested <;> cases hs : row.state <;>
      simp_all [transitionUpdate, transitionAllowed, JobState.isTerminal]
  · cases hr : w.requested <;> cases hs : row.state <;> cases hrec : row.receipt <;>
      cases hwr : w.receipt <;>
      simp_all [transitionUpdate, transitionAllowed, JobState.isTerminal]
  · cases hr : w.requested <;> cases he : w.error <;>
      simp_all [transitionUpdate, JobState.isTerminal]

lemma RowStep.consistent {old row : PrintJobRow} (hstep : RowStep old row)
    (h : old.Consistent) : row.Consistent := by
  cases hstep with
  | keep => exact h
  | prune => exact h.prune
  | claim _ now hstate =>
      have hattempts := h.attempts
      have hreceipt := h.receipt
      simp only [hstate] at hattempts hreceipt
      refine ⟨?_, ?_, rfl⟩
      · simp [transitionUpdate, hattempts]
      · simpa [transitionUpdate] using hreceipt
  | finish w _ now hid hallowed => exact (h.finish w now hallowed).prune
  | recover _ now hstate =>
      have hattempts := h.attempts
      have hreceipt := h.receipt
      simp only [hstate] at hattempts hreceipt
      refine ⟨hattempts, ?_, ?_⟩
      · simpa [recoveryUpdate] using hreceipt
      · simp [recoveryUpdate]

/-! ## Rows keep what they were delivered with -/

lemma receivedRow_storedFrom {codec : Codec Value} {job : ReceivedPrintJob Value} :
    StoredFrom codec (receivedRow codec job (codec.toString job.payload)) job :=
  ⟨rfl, rfl, rfl, rfl, rfl, rfl, Or.inl rfl⟩

lemma StoredFrom.payload_of_pending {codec : Codec Value} {row : PrintJobRow}
    {job : ReceivedPrintJob Value} (h : StoredFrom codec row job) (hrow : row.isTerminal = false) :
    row.payloadJson = codec.toString job.payload :=
  h.payload.resolve_right fun hterm => by simp [hrow] at hterm

lemma StoredFrom.prune {codec : Codec Value} {row : PrintJobRow} {job : ReceivedPrintJob Value}
    (h : StoredFrom codec row job) : StoredFrom codec row.prune job := by
  unfold PrintJobRow.prune
  split
  · rename_i hterm
    exact ⟨h.jobId, h.idempotencyKey, h.printerId, h.sourceMessageId, h.receivedAt,
      h.fingerprint, Or.inr ⟨hterm, rfl⟩⟩
  · exact h

lemma RowStep.storedFrom {codec : Codec Value} {old row : PrintJobRow}
    {job : ReceivedPrintJob Value} (hstep : RowStep old row) (h : StoredFrom codec old job) :
    StoredFrom codec row job := by
  cases hstep with
  | keep => exact h
  | prune => exact h.prune
  | claim _ now hstate =>
      refine ⟨h.jobId, h.idempotencyKey, h.printerId, h.sourceMessageId, h.receivedAt,
        h.fingerprint, Or.inl (h.payload_of_pending ?_)⟩
      simp [PrintJobRow.isTerminal, JobState.isTerminal, hstate]
  | finish w _ now hid hallowed =>
      -- the update makes the row terminal, so its payload may be pruned or not
      refine StoredFrom.prune ⟨h.jobId, h.idempotencyKey, h.printerId, h.sourceMessageId,
        h.receivedAt, h.fingerprint, h.payload.imp id fun hnull => ⟨w.terminal, hnull.2⟩⟩
  | recover _ now hstate =>
      refine ⟨h.jobId, h.idempotencyKey, h.printerId, h.sourceMessageId, h.receivedAt,
        h.fingerprint, Or.inl (h.payload_of_pending ?_)⟩
      simp [PrintJobRow.isTerminal, JobState.isTerminal, hstate]

/-! ## The bounds and the outbox over a commit -/

lemma transitionAllowed_isPending {row : PrintJobRow} {requested : JobState}
    (h : transitionAllowed row.state requested = true) : row.isPending = true := by
  cases hr : requested <;> cases hs : row.state <;>
    simp_all [transitionAllowed, PrintJobRow.isPending]

lemma RowStep.isTerminal {old row : PrintJobRow} (hstep : RowStep old row)
    (h : old.isTerminal = true) : row.isTerminal = true := by
  have hnot : old.isPending = false := by simpa [PrintJobRow.isTerminal_iff_not_isPending] using h
  cases hstep with
  | keep => exact h
  | prune => simpa using h
  | claim _ now hstate => simp [PrintJobRow.isPending, hstate] at hnot
  | finish w _ now hid hallowed => simp [transitionAllowed_isPending hallowed] at hnot
  | recover _ now hstate => simp [PrintJobRow.isPending, hstate] at hnot

lemma TerminalWrite.update_isTerminal (w : TerminalWrite) {now : Timestamp} {db : Database}
    {row : PrintJobRow} (hrow : row ∈ (w.update now db).jobs) (hid : row.jobId = w.id) :
    row.isTerminal = true := by
  rcases Table.mem_updateWhere.mp hrow with ⟨-, hne⟩ | ⟨old, -, -, rfl⟩
  · exact absurd hid (of_decide_eq_false hne)
  · exact w.terminal

lemma Commit.pendingBound {db db' : Database} {es : List RepositoryEvent}
    (hcommit : Commit storage db es db')
    (h : db.countJobs PrintJobRow.isPending ≤ storage.limits.maxPendingJobs) :
    db'.countJobs PrintJobRow.isPending ≤ storage.limits.maxPendingJobs := by
  cases hcommit with
  | nothing => exact h
  | insert hprep hroom hdb' =>
      simp only [Database.countJobs, (Database.insertJob_ok hdb').1, List.countP_append] at hroom ⊢
      have hone := List.countP_le_length (p := PrintJobRow.isPending)
        (l := [receivedRow storage.codec ‹_› ‹_›])
      simp only [List.length_singleton] at hone
      omega
  | claim hjob hstate =>
      rename_i id stored now
      refine le_trans (Table.countP_updateWhere_le fun row hrow hid _ => ?_) h
      have hfound := Database.job_of_mem hrow
      rw [of_decide_eq_true hid, hjob, Option.some.injEq] at hfound
      simp [← hfound, PrintJobRow.isPending, hstate]
  | finish w hjob hallowed hrec hkept =>
      rename_i recorded stored now
      subst hkept
      refine le_trans (countJobs_retention_le PrintJobRow.prune_isPending) (le_trans ?_ h)
      rw [Database.countJobs, (recordStatus_ok hrec).1]
      refine Table.countP_updateWhere_le fun row hrow hid hpending => ?_
      have hterm : ((transitionUpdate w.requested w.receipt w.error now).apply row).isTerminal
          = true := w.terminal
      simp [PrintJobRow.isTerminal_iff_not_isPending, hpending] at hterm
  | recover =>
      refine le_trans (Table.countP_updateWhere_le fun row hrow hstate _ => ?_) h
      simp [PrintJobRow.isPending, of_decide_eq_true hstate]
  | acknowledge => exact h
  | maintain hkept =>
      subst hkept
      exact le_trans (countJobs_retention_le PrintJobRow.prune_isPending) h

lemma Commit.terminalBound {db db' : Database} {es : List RepositoryEvent}
    (hcommit : Commit storage db es db')
    (h : db.countJobs PrintJobRow.isTerminal ≤ storage.limits.maxTerminalJobs) :
    db'.countJobs PrintJobRow.isTerminal ≤ storage.limits.maxTerminalJobs := by
  cases hcommit with
  | nothing => exact h
  | insert hprep hroom hdb' =>
      simp only [Database.countJobs, (Database.insertJob_ok hdb').1, List.countP_append]
      simpa [Database.countJobs, receivedRow, PrintJobRow.isTerminal, JobState.isTerminal] using h
  | claim hjob hstate =>
      refine le_trans (Table.countP_updateWhere_le fun row hrow hid hterm => ?_) h
      simp [transitionUpdate, PrintJobRow.isTerminal, JobState.isTerminal] at hterm
  | finish w hjob hallowed hrec hkept =>
      subst hkept
      rw [countTerminal_retention storage.limits.maxTerminalJobs_pos]
      exact min_le_right _ _
  | recover =>
      refine le_trans (Table.countP_updateWhere_le fun row hrow hid hterm => ?_) h
      simp [recoveryUpdate, PrintJobRow.isTerminal, JobState.isTerminal] at hterm
  | acknowledge => exact h
  | maintain hkept =>
      subst hkept
      rw [countTerminal_retention storage.limits.maxTerminalJobs_pos]
      exact min_le_right _ _

/-- A status in the outbox was there before or has been committed with its job's transition. -/
lemma Commit.outbox_cases {db db' : Database} {es : List RepositoryEvent}
    (hcommit : Commit storage db es db') {status : OutboxRow} (hstatus : status ∈ db'.outbox) :
    status ∈ db.outbox ∨
      ∀ row ∈ db'.jobs, row.jobId = status.jobId → row.isTerminal = true := by
  cases hcommit with
  | nothing => exact Or.inl hstatus
  | insert hprep hroom hdb' =>
      rw [(Database.insertJob_ok hdb').2.1] at hstatus
      exact Or.inl hstatus
  | claim => exact Or.inl hstatus
  | finish w hjob hallowed hrec hkept =>
      rename_i recorded stored now
      subst hkept
      have hmem : status ∈ recorded.outbox := (Table.mem_dropKeys.mp hstatus).1
      rw [(recordStatus_ok hrec).2, List.mem_append] at hmem
      refine hmem.imp id fun hnew row hrow hid => ?_
      rw [retention_jobs, Table.mem_dropKeys, (recordStatus_ok hrec).1] at hrow
      obtain ⟨updated, hupdated, rfl⟩ := List.mem_map.mp hrow.1
      rw [PrintJobRow.prune_jobId, w.status_job status (Option.mem_toList.mp hnew)] at hid
      simpa using w.update_isTerminal hupdated hid
  | recover => exact Or.inl hstatus
  | acknowledge => exact Or.inl (Table.mem_dropKeys.mp hstatus).1
  | maintain hkept =>
      subst hkept
      exact Or.inl (Table.mem_dropKeys.mp hstatus).1

lemma Commit.outboxTerminal {db db' : Database} {es : List RepositoryEvent}
    (hcommit : Commit storage db es db')
    (h : ∀ status ∈ db.outbox, ∃ row ∈ db.jobs, row.jobId = status.jobId ∧ row.isTerminal = true) :
    ∀ status ∈ db'.outbox,
      ∃ row ∈ db'.jobs, row.jobId = status.jobId ∧ row.isTerminal = true := by
  intro status hstatus
  -- the foreign key gives the row; what is left is that it is terminal
  obtain ⟨row, hrow, hid⟩ := db'.references status hstatus
  refine ⟨row, hrow, hid, ?_⟩
  rcases hcommit.outbox_cases hstatus with hold | hnew
  · obtain ⟨terminal, hterminal, htid, hterm⟩ := h status hold
    rcases hcommit.row_cases hrow with ⟨old, hold', hstep, -⟩ | ⟨-, hfree, -⟩
    · have heq : old = terminal := db.jobIds.eq_of_key_eq hold' hterminal
        (by rw [← hstep.jobId, hid, htid])
      exact hstep.isTerminal (heq ▸ hterm)
    · exact absurd (htid.trans hid.symm) (Database.job_eq_none.mp hfree terminal hterminal)
  · exact hnew row hrow hid

/-! ## The invariant over runs -/

lemma Commit.origin {db db' : Database} {es h : List RepositoryEvent}
    (hcommit : Commit storage db es db') (horigin : ∀ row ∈ db.jobs, HasOrigin storage h row) :
    ∀ row ∈ db'.jobs, HasOrigin storage (h ++ es) row := by
  intro row hrow
  rcases hcommit.row_cases hrow with ⟨old, hold, hstep, hnone⟩ | ⟨rfl, -, job, hprep, rfl⟩
  · obtain ⟨job, hprep, hlast, hfrom⟩ := horigin old hold
    refine ⟨job, hprep, ?_, hstep.storedFrom hfrom⟩
    rw [lastInserted, History.latest_append_of_none hnone, hstep.jobId]
    exact hlast
  · refine ⟨job, hprep, ?_, receivedRow_storedFrom⟩
    simp [lastInserted, History.latest, insertionOf]

/-- The tables after a sequence of commits on a fresh store, and the events it showed. -/
inductive Committed (storage : SqliteStorage Value) : List RepositoryEvent → Database → Prop
  | fresh : Committed storage [] Database.empty
  | commit {h es : List RepositoryEvent} {db db' : Database} :
      Committed storage h db → Commit storage db es db' → Committed storage (h ++ es) db'

lemma storeInvariant_fresh : StoreInvariant storage [] Database.empty where
  jobIds := Database.empty.jobIds
  idempotencyKeys := Database.empty.idempotencyKeys
  consistent := by simp [Database.empty]
  origin := by simp [Database.empty]
  pendingBound := by simp [Database.countJobs, Database.empty]
  terminalBound := by simp [Database.countJobs, Database.empty]
  outboxTerminal := by simp [Database.empty]

/-- **One commit keeps the invariant.** -/
lemma StoreInvariant.commit {h es : List RepositoryEvent} {db db' : Database}
    (hinv : StoreInvariant storage h db) (hcommit : Commit storage db es db') :
    StoreInvariant storage (h ++ es) db' where
  jobIds := db'.jobIds
  idempotencyKeys := db'.idempotencyKeys
  consistent row hrow := by
    rcases hcommit.row_cases hrow with ⟨old, hold, hstep, -⟩ | ⟨-, -, job, -, rfl⟩
    · exact hstep.consistent (hinv.consistent old hold)
    · exact receivedRow_consistent
  origin := hcommit.origin hinv.origin
  pendingBound := hcommit.pendingBound hinv.pendingBound
  terminalBound := hcommit.terminalBound hinv.terminalBound
  outboxTerminal := hcommit.outboxTerminal hinv.outboxTerminal

theorem storeInvariant_of_committed {h : List RepositoryEvent} {db : Database}
    (hdb : Committed storage h db) : StoreInvariant storage h db := by
  induction hdb with
  | fresh => exact storeInvariant_fresh
  | commit _ hcommit ih => exact ih.commit hcommit

/-! ## Sequences of operations -/

variable [BEq Value]

/-- An operation and the clock reading it is performed at. -/
structure StoreAction (Value : Type) where
  {α : Type}
  op : Operation Value α
  now : Timestamp

/-- The history and the tables after a list of operations on a fresh store. -/
def runOperations (storage : SqliteStorage Value) (actions : List (StoreAction Value)) :
    List RepositoryEvent × Database :=
  actions.foldl
    (fun r a => (r.1 ++ a.op.events storage a.now r.2, (a.op.run storage a.now r.2).2))
    ([], Database.empty)

lemma committed_runOperations (storage : SqliteStorage Value)
    (actions : List (StoreAction Value)) :
    Committed storage (runOperations storage actions).1 (runOperations storage actions).2 := by
  induction actions using List.reverseRecOn with
  | nil => exact .fresh
  | append_singleton actions a ih =>
      simp only [runOperations, List.foldl_append, List.foldl_cons, List.foldl_nil] at ih ⊢
      exact ih.commit (run_commit a.op _)

/-- **The store invariant** holds after every sequence of repository operations on a freshly opened
store. -/
theorem storeInvariant_runOperations (storage : SqliteStorage Value)
    (actions : List (StoreAction Value)) :
    StoreInvariant storage (runOperations storage actions).1 (runOperations storage actions).2 :=
  storeInvariant_of_committed (committed_runOperations storage actions)

end Oppa
