import Oppa.Storage.Invariant

/-!
# The outbox and terminal retention

What the outbox contains, and how a transition, its status and the eviction of old jobs fit into
one transaction.

* `Outstanding` — a status that was committed, and neither acknowledged nor evicted since.
  **`mem_outbox_iff`** says that these are the rows of the outbox.
* `CommitsTogether` — a transition and its status take effect together or not at all.
* `EvictsOldest` — retention deletes the oldest terminal rows beyond the limit and no others.
-/

namespace Oppa

variable {Value : Type} {storage : SqliteStorage Value}

/-! ## What the outbox contains -/

/-- The outbox as the history tells it. -/
def replayOutbox (outbox : List OutboxRow) : RepositoryEvent → List OutboxRow
  | .committed status => outbox ++ [status]
  | .acknowledged messageId => Table.dropKeys OutboxRow.messageId [messageId] outbox
  | .evicted id => Table.dropKeys OutboxRow.jobId [id] outbox
  | _ => outbox

/-- What takes a status out of the outbox. -/
def Removes (status : OutboxRow) (e : RepositoryEvent) : Prop :=
  e = .acknowledged status.messageId ∨ e = .evicted status.jobId

/-- The status was committed and has been neither acknowledged nor evicted since. -/
def Outstanding (status : OutboxRow) (h : List RepositoryEvent) : Prop :=
  History.Standing (.committed status) (Removes status) h

lemma mem_replayOutbox {outbox : List OutboxRow} {e : RepositoryEvent} {status : OutboxRow} :
    status ∈ replayOutbox outbox e ↔
      e = .committed status ∨ (status ∈ outbox ∧ ¬ Removes status e) := by
  cases e <;> simp [replayOutbox, Removes, eq_comm, or_comm]

lemma mem_replay_iff {h : List RepositoryEvent} {status : OutboxRow} :
    status ∈ h.foldl replayOutbox [] ↔ Outstanding status h := by
  induction h using List.reverseRecOn with
  | nil => simp [Outstanding]
  | append_singleton h e ih =>
      simp only [List.foldl_append, List.foldl_cons, List.foldl_nil, mem_replayOutbox, ih]
      exact History.standing_concat.symm

lemma foldl_replayOutbox_evicted {ids : List PrintJobId} {outbox : List OutboxRow} :
    (ids.map RepositoryEvent.evicted).foldl replayOutbox outbox
      = Table.dropKeys OutboxRow.jobId ids outbox := by
  induction ids generalizing outbox with
  | nil => simp
  | cons id ids ih =>
      simp only [List.map_cons, List.foldl_cons, ih, replayOutbox, Table.dropKeys,
        List.filter_filter]
      refine List.filter_congr fun status _ => ?_
      simp [Bool.and_comm]

/-! ## Eviction -/

section Eviction

variable {maximum : ℕ} {protectedJobId : Option PrintJobId} {before db : Database}

/-- The ids of the rows retention deletes. -/
def victimIds (maximum : ℕ) (protectedJobId : Option PrintJobId) (before : Database) :
    List PrintJobId :=
  (retentionVictims maximum protectedJobId (prunePayloads before)).map PrintJobRow.jobId

lemma mem_retention_jobs {row : PrintJobRow} :
    row ∈ (enforceTerminalRetention maximum protectedJobId before).2.jobs ↔
      (∃ old ∈ before.jobs, old.prune = row) ∧
        row.jobId ∉ victimIds maximum protectedJobId before := by
  rw [retention_jobs, Table.mem_dropKeys, List.mem_map]
  rfl

@[simp] lemma retention_outbox :
    (enforceTerminalRetention maximum protectedJobId before).2.outbox
      = Table.dropKeys OutboxRow.jobId (victimIds maximum protectedJobId before) before.outbox :=
  rfl

lemma mem_ids_of_mem_victimIds {id : PrintJobId}
    (h : id ∈ victimIds maximum protectedJobId before) :
    id ∈ before.jobs.map PrintJobRow.jobId := by
  obtain ⟨row, hrow, rfl⟩ := List.mem_map.mp h
  have hmem := (mem_retentionVictims hrow).1
  rw [prunePayloads_jobs] at hmem
  obtain ⟨old, hold, rfl⟩ := List.mem_map.mp hmem
  simpa using List.mem_map_of_mem (f := PrintJobRow.jobId) hold

/-- The observer sees exactly the deleted rows leave. -/
lemma evicted_mem_iff (hids : before.jobs.map PrintJobRow.jobId = db.jobs.map PrintJobRow.jobId)
    {id : PrintJobId} :
    .evicted id ∈ evictions db (enforceTerminalRetention maximum protectedJobId before).2 ↔
      id ∈ victimIds maximum protectedJobId before := by
  have hkept : ∀ row ∈ before.jobs,
      ((∃ kept ∈ (enforceTerminalRetention maximum protectedJobId before).2.jobs,
        kept.jobId = row.jobId) ↔ row.jobId ∉ victimIds maximum protectedJobId before) := by
    intro row hrow
    constructor
    · rintro ⟨kept, hkept, hid⟩
      exact hid ▸ (mem_retention_jobs.mp hkept).2
    · intro hnot
      exact ⟨row.prune, mem_retention_jobs.mpr ⟨⟨row, hrow, rfl⟩, by simpa using hnot⟩, by simp⟩
  have hbefore : ∀ row ∈ db.jobs, ∃ old ∈ before.jobs, old.jobId = row.jobId := fun row hrow => by
    have hmem := List.mem_map_of_mem (f := PrintJobRow.jobId) hrow
    rw [← hids] at hmem
    exact List.mem_map.mp hmem
  simp only [evictions, List.mem_map, List.mem_filter, decide_eq_true_eq,
    RepositoryEvent.evicted.injEq]
  constructor
  · rintro ⟨row, ⟨hrow, hgone⟩, rfl⟩
    obtain ⟨old, hold, hid⟩ := hbefore row hrow
    by_contra hnot
    exact hgone (hid ▸ (hkept old hold).mpr (hid ▸ hnot))
  · intro hvictim
    have hmem := mem_ids_of_mem_victimIds hvictim
    rw [hids] at hmem
    obtain ⟨row, hrow, rfl⟩ := List.mem_map.mp hmem
    obtain ⟨old, hold, hid⟩ := hbefore row hrow
    refine ⟨row, ⟨hrow, fun hkept' => ?_⟩, rfl⟩
    exact (hkept old hold).mp (hid ▸ hkept') (hid ▸ hvictim)

lemma foldl_replayOutbox_evictions
    (hids : before.jobs.map PrintJobRow.jobId = db.jobs.map PrintJobRow.jobId)
    {outbox : List OutboxRow} :
    (evictions db (enforceTerminalRetention maximum protectedJobId before).2).foldl
        replayOutbox outbox
      = Table.dropKeys OutboxRow.jobId (victimIds maximum protectedJobId before) outbox := by
  have hmap : evictions db (enforceTerminalRetention maximum protectedJobId before).2
      = ((db.jobs.filter fun row => row.jobId ∉
          (enforceTerminalRetention maximum protectedJobId before).2.jobs.map
            PrintJobRow.jobId).map PrintJobRow.jobId).map .evicted := by
    simp [evictions, List.map_map, Function.comp_def]
  rw [hmap, foldl_replayOutbox_evicted]
  refine Table.dropKeys_congr fun id => ?_
  rw [← evicted_mem_iff hids, hmap]
  simp

/-- Retention deletes the oldest terminal rows of `before` beyond `maximum`, by
`(updated_at, job_id)`, and keeps every other row; the protected job is never deleted. -/
structure EvictsOldest (maximum : ℕ) (protectedJobId : Option PrintJobId)
    (before kept : Database) : Prop where
  nothingAdded : ∀ row ∈ kept.jobs, ∃ old ∈ before.jobs, row = old.prune
  spared : ∀ row ∈ before.jobs, row.isTerminal = false ∨ some row.jobId = protectedJobId →
    row.prune ∈ kept.jobs
  count : kept.countJobs PrintJobRow.isTerminal
    = min (before.countJobs PrintJobRow.isTerminal) maximum
  oldest : ∀ gone ∈ before.jobs, gone.prune ∉ kept.jobs →
    ∀ stay ∈ before.jobs, stay.isTerminal = true → some stay.jobId ≠ protectedJobId →
      stay.prune ∈ kept.jobs → gone.updateRank < stay.updateRank

lemma mem_prunePayloads_prune {row : PrintJobRow} (hrow : row ∈ before.jobs) :
    row.prune ∈ (prunePayloads before).jobs := by
  rw [prunePayloads_jobs]
  exact List.mem_map_of_mem hrow

lemma prune_mem_retention_iff {row : PrintJobRow} (hrow : row ∈ before.jobs) :
    row.prune ∈ (enforceTerminalRetention maximum protectedJobId before).2.jobs ↔
      row.prune ∉ retentionVictims maximum protectedJobId (prunePayloads before) := by
  rw [mem_retention_jobs, victimIds, List.mem_map]
  constructor
  · rintro ⟨-, hnot⟩ hvictim
    exact hnot ⟨_, hvictim, rfl⟩
  · refine fun hnot => ⟨⟨row, hrow, rfl⟩, ?_⟩
    rintro ⟨victim, hvictim, hid⟩
    have heq := (prunePayloads before).jobIds.eq_of_key_eq (mem_retentionVictims hvictim).1
      (mem_prunePayloads_prune hrow) hid
    exact hnot (heq ▸ hvictim)

@[simp] lemma updateRank_prune {row : PrintJobRow} : row.prune.updateRank = row.updateRank := by
  unfold PrintJobRow.prune
  split <;> rfl

theorem retention_evictsOldest (hmax : 0 < maximum) :
    EvictsOldest maximum protectedJobId before
      (enforceTerminalRetention maximum protectedJobId before).2 where
  nothingAdded row hrow := by
    obtain ⟨⟨old, hold, rfl⟩, -⟩ := mem_retention_jobs.mp hrow
    exact ⟨old, hold, rfl⟩
  spared row hrow hspared := by
    refine (prune_mem_retention_iff hrow).mpr fun hvictim => ?_
    obtain ⟨-, hterm, hne⟩ := mem_retentionVictims hvictim
    rw [PrintJobRow.prune_isTerminal] at hterm
    rw [PrintJobRow.prune_jobId] at hne
    rcases hspared with hfalse | hprotected
    · exact absurd (hterm.symm.trans hfalse) (by simp)
    · exact hne hprotected
  count := countTerminal_retention hmax
  oldest gone hgone hnot stay hstay hterm hne hkept := by
    have hvictim := not_not.mp ((prune_mem_retention_iff hgone).not.mp hnot)
    have hstay' := (prune_mem_retention_iff hstay).mp hkept
    have hcandidate : stay.prune ∈ (prunePayloads before).jobs.filter fun row =>
        row.isTerminal && some row.jobId ≠ protectedJobId := by
      simp [mem_prunePayloads_prune hstay, hterm, hne]
    have hle := Table.rank_le_of_mem_oldest hvictim hcandidate hstay'
    rw [updateRank_prune, updateRank_prune] at hle
    refine lt_of_le_of_ne hle fun hrank => ?_
    -- equal ranks are equal job ids
    have hid : gone.jobId = stay.jobId :=
      TypedIdentifier.ext (congrArg Prod.snd (toLex.injective hrank))
    rw [before.jobIds.eq_of_key_eq hgone hstay hid] at hnot
    exact hnot hkept

end Eviction

lemma TerminalWrite.update_ids (w : TerminalWrite) {now : Timestamp} {db : Database} :
    (w.update now db).jobs.map PrintJobRow.jobId = db.jobs.map PrintJobRow.jobId := by
  simp only [TerminalWrite.update, Database.updateJobs_jobs, Table.updateWhere, List.map_map]
  refine List.map_congr_left fun row _ => ?_
  simp only [Function.comp_apply]
  split <;> rfl

/-- **One commit changes the outbox as its events say.** -/
lemma Commit.outbox {db db' : Database} {es : List RepositoryEvent}
    (hcommit : Commit storage db es db') : db'.outbox = es.foldl replayOutbox db.outbox := by
  cases hcommit with
  | nothing => rfl
  | insert hprep hroom hdb' => exact (Database.insertJob_ok hdb').2.1
  | claim => rfl
  | finish w hjob hallowed hrec hkept =>
      rename_i recorded stored now
      subst hkept
      obtain ⟨hjobs, houtbox⟩ := recordStatus_ok hrec
      have hids : recorded.jobs.map PrintJobRow.jobId = db.jobs.map PrintJobRow.jobId := by
        rw [hjobs, w.update_ids]
      have hstatus : (w.status.toList.map RepositoryEvent.committed).foldl replayOutbox db.outbox
          = db.outbox ++ w.status.toList := by
        cases w.status <;> simp [replayOutbox]
      rw [retention_outbox, houtbox, transitionEvents, List.foldl_cons, List.foldl_append,
        foldl_replayOutbox_evictions hids]
      exact congrArg _ hstatus.symm
  | recover =>
      have hskip : ∀ (rows : List PrintJobRow) (outbox : List OutboxRow),
          (rows.map fun row => RepositoryEvent.recovered row.jobId).foldl replayOutbox outbox
            = outbox := by
        intro rows outbox
        induction rows with
        | nil => rfl
        | cons row rows ih => exact ih
      exact (hskip _ _).symm
  | acknowledge => rfl
  | maintain hkept =>
      subst hkept
      rw [foldl_replayOutbox_evictions rfl, retention_outbox]

/-- **The outbox is exact**: after any sequence of commits it holds the statuses that were committed
and have been neither acknowledged nor evicted since. -/
theorem mem_outbox_iff {h : List RepositoryEvent} {db : Database}
    (hdb : Committed storage h db) {status : OutboxRow} :
    status ∈ db.outbox ↔ Outstanding status h := by
  have hfold : db.outbox = h.foldl replayOutbox [] := by
    induction hdb with
    | fresh => rfl
    | commit _ hcommit ih => rw [hcommit.outbox, ih, List.foldl_append]
  rw [hfold, mem_replay_iff]

/-! ## A transition and its status -/

lemma EvictsOldest.congr {maximum : ℕ} {protectedJobId : Option PrintJobId}
    {before before' kept : Database} (h : EvictsOldest maximum protectedJobId before kept)
    (hjobs : before'.jobs = before.jobs) : EvictsOldest maximum protectedJobId before' kept := by
  obtain ⟨hadded, hspared, hcount, holdest⟩ := h
  rw [← hjobs] at hadded hspared holdest
  refine ⟨hadded, hspared, ?_, holdest⟩
  rw [hcount, Database.countJobs, Database.countJobs, hjobs]

/-- The result `r` of a terminal transition of `id` that commits the status `prepared`: both take
effect, and old jobs are evicted, or nothing changes. -/
structure CommitsTogether (storage : SqliteStorage Value) (db updated : Database)
    (id : PrintJobId) (requested : JobState) (prepared : StorageResult OutboxRow)
    (r : StorageResult Unit × Database) : Prop where
  succeeds_iff : r.1 = .ok () ↔
    (∃ row, db.job id = some row ∧ transitionAllowed row.state requested = true) ∧
      ∃ status, prepared = .ok status ∧ status.messageId ∉ db.outbox.map OutboxRow.messageId
  together : r.1 = .ok () →
    (∃ row ∈ r.2.jobs, row.jobId = id ∧ row.state = requested) ∧
      ∃ status, prepared = .ok status ∧ status ∈ r.2.outbox
  evicts : r.1 = .ok () →
    EvictsOldest storage.limits.maxTerminalJobs (some id) updated r.2
  rollback : ∀ e, r.1 = .error e → r.2 = db

section Transition

variable {now : Timestamp} {id : PrintJobId} {requested : JobState}
  {receipt : Option SubmissionReceipt} {error : Option StoredJobError} {db : Database}

/-- The job table with only the row of `id` updated. -/
abbrev updatedBy (now : Timestamp) (id : PrintJobId) (requested : JobState)
    (receipt : Option SubmissionReceipt) (error : Option StoredJobError) (db : Database) :
    Database :=
  db.updateJobs (fun row => row.jobId = id) (transitionUpdate requested receipt error now)

lemma updatedBy_row {row : PrintJobRow} (hrow : db.job id = some row) :
    (transitionUpdate requested receipt error now).apply row
      ∈ (updatedBy now id requested receipt error db).jobs :=
  Table.mem_updateWhere.mpr (Or.inr ⟨row, (Database.job_eq_some.mp hrow).1,
    decide_eq_true (Database.job_eq_some.mp hrow).2, rfl⟩)

/-- Recording a status needs nothing but an unused message id. -/
lemma recordStatus_of_free {status : OutboxRow} {row : PrintJobRow} (hrow : db.job id = some row)
    (hid : status.jobId = id) (hfree : status.messageId ∉ db.outbox.map OutboxRow.messageId) :
    ∃ recorded, recordStatus (some status) (updatedBy now id requested receipt error db)
      = .ok recorded :=
  Database.insertStatus_of_free hfree
    ⟨_, updatedBy_row hrow, (Database.job_eq_some.mp hrow).2.trans hid.symm⟩

lemma transition_evicts {status : Option OutboxRow} (hterm : requested.isTerminal = true)
    (hok : (transition storage.limits now id requested receipt error status db).1 = .ok ()) :
    EvictsOldest storage.limits.maxTerminalJobs (some id)
      (updatedBy now id requested receipt error db)
      (transition storage.limits now id requested receipt error status db).2 := by
  rcases @transition_cases now storage.limits id requested receipt error status db with ⟨e, he⟩ | ⟨row, recorded, hrow, hallowed, hrec, hrun⟩
  · rw [he] at hok
    cases hok
  · rw [hrun, hterm, if_pos rfl]
    exact (retention_evictsOldest storage.limits.maxTerminalJobs_pos).congr
      (recordStatus_ok hrec).1.symm

/-- A status whose message id is taken cannot be recorded. -/
lemma recordStatus_free {status : OutboxRow} {recorded : Database}
    (hrec : recordStatus (some status) (updatedBy now id requested receipt error db)
      = .ok recorded) : status.messageId ∉ db.outbox.map OutboxRow.messageId :=
  (Database.insertStatus_ok hrec).2.2

lemma transition_commitsTogether {status : OutboxRow} (hterm : requested.isTerminal = true)
    (hid : status.jobId = id) :
    CommitsTogether storage db (updatedBy now id requested receipt error db) id requested
      (.ok status)
      (transition storage.limits now id requested receipt error (some status) db) := by
  rcases @transition_cases now storage.limits id requested receipt error (some status) db with ⟨e, he⟩ | ⟨row, recorded, hrow, hallowed, hrec, hrun⟩
  · rw [he]
    constructor
    · refine ⟨fun h => by simp at h, ?_⟩
      rintro ⟨⟨row, hrow, hallowed⟩, s, hs, hfree⟩
      cases hs
      obtain ⟨recorded, hrec⟩ := recordStatus_of_free hrow hid hfree
      rw [transition_of_recorded hrow hallowed hrec] at he
      simp at he
    · intro h
      simp at h
    · intro h
      simp at h
    · exact fun _ _ => rfl
  · have hevicts := @transition_evicts _ storage now _ _ receipt error _ (some status) hterm (congrArg Prod.fst hrun)
    rw [hrun, hterm, if_pos rfl] at hevicts ⊢
    obtain ⟨hjobs, houtbox⟩ := recordStatus_ok hrec
    constructor
    · exact ⟨fun _ => ⟨⟨row, hrow, hallowed⟩, status, rfl, recordStatus_free hrec⟩, fun _ => rfl⟩
    · intro _
      have hspared := hevicts.spared _ (updatedBy_row hrow)
        (Or.inr (congrArg some (Database.job_eq_some.mp hrow).2))
      refine ⟨⟨_, hspared, ?_, ?_⟩, status, rfl, ?_⟩
      · rw [PrintJobRow.prune_jobId]
        exact (Database.job_eq_some.mp hrow).2
      · rw [PrintJobRow.prune_state]
        rfl
      · rw [retention_outbox, Table.mem_dropKeys, houtbox]
        refine ⟨by simp, fun hvictim => ?_⟩
        -- the committed job is protected, so its status is not cascaded away
        obtain ⟨victim, hvictim, hvid⟩ := List.mem_map.mp hvictim
        exact (mem_retentionVictims hvictim).2.2 (by rw [hvid, hid])
    · exact fun _ => hevicts
    · intro e h
      simp at h

/-- An input that is refused before the transaction changes nothing. -/
lemma commitsTogether_of_refused {e : StorageError} {updated : Database} :
    CommitsTogether storage db updated id requested (.error e) (.error e, db) := by
  constructor
  · exact ⟨fun h => by simp at h, fun ⟨_, _, h, _⟩ => by simp at h⟩
  · exact fun h => by simp at h
  · exact fun h => by simp at h
  · exact fun _ _ => rfl

lemma transitionWithStatus_commitsTogether {status : NewOutboundStatus Value}
    (hterm : requested.isTerminal = true) :
    CommitsTogether storage db (updatedBy now id requested receipt error db) id requested
      (prepareOutboundStatus storage.codec id status)
      (Operation.transitionWithStatus storage now id requested receipt error status db) := by
  unfold Operation.transitionWithStatus
  cases hprep : prepareOutboundStatus storage.codec id status with
  | error e => exact commitsTogether_of_refused
  | ok prepared => exact transition_commitsTogether hterm (prepareOutboundStatus_jobId hprep)

end Transition

/-! ## Exactness and atomicity -/

variable [BEq Value]

/-- The status `mark_failed_with_status` prepares, once the failure itself has been validated. -/
def prepareFailedStatus (storage : SqliteStorage Value) (id : PrintJobId) (error : StoredJobError)
    (status : NewOutboundStatus Value) : StorageResult OutboxRow := do
  error.validate
  prepareOutboundStatus storage.codec id status

omit [BEq Value] in
lemma transitionWithStatus_error {now : Timestamp} {id : PrintJobId} {requested : JobState}
    {receipt : Option SubmissionReceipt} {error : Option StoredJobError}
    {status : NewOutboundStatus Value} {db : Database} {e : StorageError}
    (h : (Operation.transitionWithStatus storage now id requested receipt error status db).1
      = .error e) :
    (Operation.transitionWithStatus storage now id requested receipt error status db).2 = db := by
  unfold Operation.transitionWithStatus at h ⊢
  cases hprep : prepareOutboundStatus storage.codec id status with
  | error e => rfl
  | ok prepared =>
      rw [hprep] at h
      exact transaction_error h

/-- **No operation that answers an error changes a table.** -/
theorem run_error_unchanged {α : Type} (op : Operation Value α) {now : Timestamp} {db : Database}
    {e : StorageError} (h : (op.run storage now db).1 = .error e) :
    (op.run storage now db).2 = db := by
  cases op with
  | insertReceived job =>
      simp only [Operation.run] at h ⊢
      rcases @insertReceived_cases _ storage.codec _ storage.limits job db with ⟨r, -, hrun⟩ | ⟨payload, db', -, -, -, hrun⟩
      · rw [hrun]
      · rw [hrun] at h
        simp at h
  | pending => rfl
  | markSubmitting id => exact transaction_error h
  | markSubmitted id receipt => exact transaction_error h
  | markSubmittedWithStatus id receipt status => exact transitionWithStatus_error h
  | markFailed id error =>
      simp only [Operation.run, Operation.whenValid] at h ⊢
      cases hvalid : error.validate with
      | error e => rfl
      | ok _ =>
          rw [hvalid] at h
          exact transaction_error h
  | markFailedWithStatus id error status =>
      simp only [Operation.run, Operation.whenValid] at h ⊢
      cases hvalid : error.validate with
      | error e => rfl
      | ok _ =>
          rw [hvalid] at h
          exact transitionWithStatus_error h
  | markCancelled id => exact transaction_error h
  | hasCompletedIdempotencyKey key => rfl
  | recoverInterrupted => cases h
  | pendingOutboundStatuses limit => rfl
  | acknowledgeOutboundStatus messageId =>
      simp only [Operation.run, acknowledgeOutboundStatus] at h ⊢
      cases hkey : validateKey "outbound message id" messageId 128 with
      | error e => rfl
      | ok _ =>
          rw [hkey] at h
          cases h
  | maintainTerminalJobs => cases h

lemma markFailedWithStatus_commitsTogether {now : Timestamp} {id : PrintJobId}
    {error : StoredJobError} {status : NewOutboundStatus Value} {db : Database} :
    CommitsTogether storage db (updatedBy now id .failed none (some error) db) id .failed
      (prepareFailedStatus storage id error status)
      ((Operation.markFailedWithStatus id error status).run storage now db) := by
  simp only [Operation.run, Operation.whenValid, prepareFailedStatus, bind, Except.bind]
  cases error.validate with
  | error e => exact commitsTogether_of_refused
  | ok _ => exact transitionWithStatus_commitsTogether rfl

/-- **Outbox exactness and atomicity.**  In the state that any sequence of operations leaves:
the outbox holds exactly the outstanding statuses; a terminal transition and its status commit
together or, on any error, nothing changes; and every terminal transition, like the maintenance of
an opening store, evicts exactly the oldest terminal jobs beyond the limit, never the job it
commits. -/
theorem outbox_exact_and_atomic (storage : SqliteStorage Value)
    (actions : List (StoreAction Value)) (now : Timestamp) :
    let h := (runOperations storage actions).1
    let db := (runOperations storage actions).2
    (∀ status, status ∈ db.outbox ↔ Outstanding status h) ∧
    (∀ id receipt status,
      CommitsTogether storage db (updatedBy now id .submitted (some receipt) none db) id .submitted
        (prepareOutboundStatus storage.codec id status)
        ((Operation.markSubmittedWithStatus id receipt status).run storage now db)) ∧
    (∀ id error status,
      CommitsTogether storage db (updatedBy now id .failed none (some error) db) id .failed
        (prepareFailedStatus storage id error status)
        ((Operation.markFailedWithStatus id error status).run storage now db)) ∧
    (∀ (α : Type) (op : Operation Value α) e, (op.run storage now db).1 = .error e →
      (op.run storage now db).2 = db) ∧
    (∀ id requested receipt error status, requested.isTerminal = true →
      (transition storage.limits now id requested receipt error status db).1 = .ok () →
      EvictsOldest storage.limits.maxTerminalJobs (some id)
        (updatedBy now id requested receipt error db)
        (transition storage.limits now id requested receipt error status db).2) ∧
    EvictsOldest storage.limits.maxTerminalJobs none db
      ((Operation.maintainTerminalJobs : Operation Value _).run storage now db).2 := by
  intro h db
  refine ⟨fun status => mem_outbox_iff (committed_runOperations storage actions),
    fun id receipt status => ?_, fun id error status => markFailedWithStatus_commitsTogether,
    fun α op e he => run_error_unchanged op he, ?_,
    retention_evictsOldest storage.limits.maxTerminalJobs_pos⟩
  · simp only [Operation.run]
    exact transitionWithStatus_commitsTogether rfl
  · intro id requested receipt error status hterm hok
    exact transition_evicts hterm hok

end Oppa
