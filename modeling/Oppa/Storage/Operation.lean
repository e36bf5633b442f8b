import Oppa.Storage.Repository

/-!
# Operations of the repository as steps

The trait `JobRepository` as a type of operations, so that a run of the store is a list of them.

* `Operation.run` — the answer of an operation and the database it leaves.
* `Operation.events` — what an observer of the two tables sees of it.
* `Commit` — everything an operation can do to the tables, one constructor for each kind of write.
  **`run_commit`** is the one place that unfolds the operations; the invariants of the store and of
  the agent over it are proved by cases on `Commit`.
-/

namespace Oppa

/-- The methods of `JobRepository`, and the maintenance an opening store performs. -/
inductive Operation (Value : Type) : Type → Type
  | insertReceived (job : ReceivedPrintJob Value) : Operation Value InsertResult
  | pending : Operation Value (List (StoredPrintJob Value))
  | markSubmitting (id : PrintJobId) : Operation Value Unit
  | markSubmitted (id : PrintJobId) (receipt : SubmissionReceipt) : Operation Value Unit
  | markSubmittedWithStatus (id : PrintJobId) (receipt : SubmissionReceipt)
      (status : NewOutboundStatus Value) : Operation Value Unit
  | markFailed (id : PrintJobId) (error : StoredJobError) : Operation Value Unit
  | markFailedWithStatus (id : PrintJobId) (error : StoredJobError)
      (status : NewOutboundStatus Value) : Operation Value Unit
  | markCancelled (id : PrintJobId) : Operation Value Unit
  | hasCompletedIdempotencyKey (key : String) : Operation Value Bool
  | recoverInterrupted : Operation Value RecoveryResult
  | pendingOutboundStatuses (limit : ℕ) : Operation Value (List (StoredOutboundStatus Value))
  | acknowledgeOutboundStatus (messageId : String) : Operation Value Bool
  | maintainTerminalJobs : Operation Value TerminalRetentionResult

/-- An opened store: its bounds and the libraries it links. -/
structure SqliteStorage (Value : Type) where
  codec : Codec Value
  limits : StorageLimits

/-- What an observer of the tables sees. -/
inductive RepositoryEvent
  | inserted (row : PrintJobRow)
  | transitioned (id : PrintJobId) (state : JobState)
  | committed (status : OutboxRow)
  | acknowledged (messageId : String)
  | recovered (id : PrintJobId)
  | evicted (id : PrintJobId)
  deriving DecidableEq, Repr

variable {Value : Type} [BEq Value] (storage : SqliteStorage Value) (now : Timestamp)

namespace Operation

/-- The terminal transitions that take a status prepare it before they open a transaction. -/
def transitionWithStatus (id : PrintJobId) (requested : JobState)
    (receipt : Option SubmissionReceipt) (error : Option StoredJobError)
    (status : NewOutboundStatus Value) (db : Database) : StorageResult Unit × Database :=
  match prepareOutboundStatus storage.codec id status with
  | .ok prepared =>
    transition storage.limits now id requested receipt error (some prepared) db
  | .error e => (.error e, db)

/-- The failures a transition records are validated before it runs. -/
def whenValid (error : StoredJobError) (body : Database → StorageResult Unit × Database)
    (db : Database) : StorageResult Unit × Database :=
  match error.validate with
  | .ok _ => body db
  | .error e => (.error e, db)

/-- The answer of an operation and the database it leaves. -/
def run : {α : Type} → Operation Value α → Database → StorageResult α × Database
  | _, insertReceived job, db => Oppa.insertReceived storage.codec storage.limits job db
  | _, pending, db => (Oppa.pending storage.codec db, db)
  | _, markSubmitting id, db => transition storage.limits now id .submitting none none none db
  | _, markSubmitted id receipt, db =>
      transition storage.limits now id .submitted (some receipt) none none db
  | _, markSubmittedWithStatus id receipt status, db =>
      transitionWithStatus storage now id .submitted (some receipt) none status db
  | _, markFailed id error, db =>
      whenValid error (transition storage.limits now id .failed none (some error) none) db
  | _, markFailedWithStatus id error status, db =>
      whenValid error (transitionWithStatus storage now id .failed none (some error) status) db
  | _, markCancelled id, db => transition storage.limits now id .cancelled none none none db
  | _, hasCompletedIdempotencyKey key, db => (Oppa.hasCompletedIdempotencyKey key db, db)
  | _, recoverInterrupted, db => Oppa.recoverInterrupted now db
  | _, pendingOutboundStatuses limit, db =>
      (Oppa.pendingOutboundStatuses storage.codec limit db, db)
  | _, acknowledgeOutboundStatus messageId, db => Oppa.acknowledgeOutboundStatus messageId db
  | _, maintainTerminalJobs, db =>
      let r := enforceTerminalRetention storage.limits.maxTerminalJobs none db
      (.ok r.1, r.2)

end Operation

/-! ## Events -/

/-- The jobs of `db` that `db'` no longer holds. -/
def evictions (db db' : Database) : List RepositoryEvent :=
  (db.jobs.filter fun row => row.jobId ∉ db'.jobs.map PrintJobRow.jobId).map
    fun row => .evicted row.jobId

/-- The events of a transition that committed. -/
def transitionEvents (id : PrintJobId) (requested : JobState) (status : Option OutboxRow)
    (db db' : Database) : List RepositoryEvent :=
  .transitioned id requested :: (status.toList.map .committed ++ evictions db db')

/-- What a successful operation, with answer `a`, did to the tables. -/
def Operation.effects : {α : Type} → Operation Value α → (a : α) → (db db' : Database) →
    List RepositoryEvent
  | _, insertReceived job, a, _, db' =>
      if a = .inserted then (db'.job job.id).toList.map .inserted else []
  | _, pending, _, _, _ => []
  | _, markSubmitting id, _, _, _ => [.transitioned id .submitting]
  | _, markSubmitted id _, _, db, db' => transitionEvents id .submitted none db db'
  | _, markSubmittedWithStatus id _ status, _, db, db' =>
      transitionEvents id .submitted (prepareOutboundStatus storage.codec id status).toOption db db'
  | _, markFailed id _, _, db, db' => transitionEvents id .failed none db db'
  | _, markFailedWithStatus id _ status, _, db, db' =>
      transitionEvents id .failed (prepareOutboundStatus storage.codec id status).toOption db db'
  | _, markCancelled id, _, db, db' => transitionEvents id .cancelled none db db'
  | _, hasCompletedIdempotencyKey _, _, _, _ => []
  | _, recoverInterrupted, _, db, _ =>
      (db.jobs.filter fun row => row.state = .submitting).map fun row => .recovered row.jobId
  | _, pendingOutboundStatuses _, _, _, _ => []
  | _, acknowledgeOutboundStatus messageId, _, _, _ => [.acknowledged messageId]
  | _, maintainTerminalJobs, _, db, db' => evictions db db'

/-- The effects of an answer: an error has none. -/
def effectsOf {α : Type} (op : Operation Value α) (db : Database)
    (r : StorageResult α × Database) : List RepositoryEvent :=
  match r.1 with
  | .ok a => op.effects storage a db r.2
  | .error _ => []

/-- What an observer of the tables sees of an operation. -/
def Operation.events {α : Type} (op : Operation Value α) (db : Database) : List RepositoryEvent :=
  effectsOf storage op db (op.run storage now db)

/-! ## Commits -/

/-- A terminal transition, with the columns its state calls for. -/
structure TerminalWrite where
  id : PrintJobId
  requested : JobState
  receipt : Option SubmissionReceipt
  error : Option StoredJobError
  status : Option OutboxRow
  terminal : requested.isTerminal = true
  receipt_iff : receipt.isSome = true ↔ requested = .submitted
  error_iff : error.isSome = true ↔ requested = .failed
  status_job : ∀ s ∈ status, s.jobId = id

namespace TerminalWrite

variable (w : TerminalWrite)

/-- The job table once the row of the write has been updated. -/
def update (db : Database) : Database :=
  db.updateJobs (fun row => row.jobId = w.id) (transitionUpdate w.requested w.receipt w.error now)

end TerminalWrite

variable {storage now}

/-- **What one operation can do to the tables.** -/
inductive Commit (storage : SqliteStorage Value) : Database → List RepositoryEvent → Database → Prop
  | nothing {db : Database} : Commit storage db [] db
  | insert {db db' : Database} {job : ReceivedPrintJob Value} {payload : String} :
      prepareReceived storage.codec job = .ok payload →
      db.countJobs PrintJobRow.isPending < storage.limits.maxPendingJobs →
      db.insertJob (receivedRow storage.codec job payload) = .ok db' →
      Commit storage db [.inserted (receivedRow storage.codec job payload)] db'
  | claim {db : Database} {id : PrintJobId} {row : PrintJobRow} {now : Timestamp} :
      db.job id = some row → row.state = .received →
      Commit storage db [.transitioned id .submitting]
        (db.updateJobs (fun row => row.jobId = id) (transitionUpdate .submitting none none now))
  | finish {db recorded kept : Database} {row : PrintJobRow} {now : Timestamp}
      (w : TerminalWrite) :
      db.job w.id = some row → transitionAllowed row.state w.requested = true →
      recordStatus w.status (w.update now db) = .ok recorded →
      kept = (enforceTerminalRetention storage.limits.maxTerminalJobs (some w.id) recorded).2 →
      Commit storage db (transitionEvents w.id w.requested w.status db kept) kept
  | recover {db : Database} {now : Timestamp} :
      Commit storage db
        ((db.jobs.filter fun row => row.state = .submitting).map fun row => .recovered row.jobId)
        (db.updateJobs (fun row => row.state = .submitting) (recoveryUpdate now))
  | acknowledge {db : Database} {messageId : String} :
      Commit storage db [.acknowledged messageId] (db.deleteStatus messageId)
  | maintain {db kept : Database} :
      kept = (enforceTerminalRetention storage.limits.maxTerminalJobs none db).2 →
      Commit storage db (evictions db kept) kept

/-! ## Every operation commits -/

section TransitionCases

variable {limits : StorageLimits} {id : PrintJobId} {requested : JobState}
  {receipt : Option SubmissionReceipt} {error : Option StoredJobError}
  {status : Option OutboxRow} {db : Database}

lemma transition_of_missing (hrow : db.job id = none) :
    transition limits now id requested receipt error status db = (.error (.jobNotFound id), db) := by
  simp only [transition, transaction, transitionTransaction, hrow]

lemma transition_of_disallowed {row : PrintJobRow} (hrow : db.job id = some row)
    (hallowed : transitionAllowed row.state requested = false) :
    transition limits now id requested receipt error status db
      = (.error (.invalidTransition id row.state requested), db) := by
  simp only [transition, transaction, transitionTransaction, hrow, hallowed, if_true]

lemma transition_of_recorded {row : PrintJobRow} {recorded : Database}
    (hrow : db.job id = some row) (hallowed : transitionAllowed row.state requested = true)
    (hrec : recordStatus status (db.updateJobs (fun row => row.jobId = id)
      (transitionUpdate requested receipt error now)) = .ok recorded) :
    transition limits now id requested receipt error status db =
      (.ok (), if requested.isTerminal then
        (enforceTerminalRetention limits.maxTerminalJobs (some id) recorded).2 else recorded) := by
  cases hterm : requested.isTerminal <;>
    simp [transition, transaction, transitionTransaction, hrow, hallowed, hrec, hterm, bind,
      Except.bind]

/-- A transition that fails changes nothing; one that succeeds ran to its last statement. -/
lemma transition_cases :
    (∃ e, transition limits now id requested receipt error status db = (.error e, db)) ∨
    ∃ row recorded, db.job id = some row ∧ transitionAllowed row.state requested = true ∧
      recordStatus status (db.updateJobs (fun row => row.jobId = id)
        (transitionUpdate requested receipt error now)) = .ok recorded ∧
      transition limits now id requested receipt error status db =
        (.ok (), if requested.isTerminal then
          (enforceTerminalRetention limits.maxTerminalJobs (some id) recorded).2 else recorded) := by
  cases hrow : db.job id with
  | none => exact Or.inl ⟨_, transition_of_missing hrow⟩
  | some row =>
      cases hallowed : transitionAllowed row.state requested with
      | false => exact Or.inl ⟨_, transition_of_disallowed hrow hallowed⟩
      | true =>
          cases hrec : recordStatus status (db.updateJobs (fun row => row.jobId = id)
              (transitionUpdate requested receipt error now)) with
          | error e =>
              refine Or.inl ⟨e, ?_⟩
              simp [transition, transaction, transitionTransaction, hrow, hallowed, hrec, bind,
                Except.bind]
          | ok recorded =>
              exact Or.inr ⟨row, recorded, rfl, hallowed, rfl,
                transition_of_recorded hrow hallowed hrec⟩

end TransitionCases

/-- An operation that fails on an unchanged database commits nothing. -/
lemma commit_of_error {α : Type} {op : Operation Value α} {db : Database} {e : StorageError}
    (h : op.run storage now db = (.error e, db)) :
    Commit storage db (op.events storage now db) (op.run storage now db).2 := by
  simp only [Operation.events, effectsOf, h]
  exact .nothing

/-- A terminal transition commits, if its operation reports the status it hands over. -/
lemma commit_of_transition {op : Operation Value Unit} {db : Database} (w : TerminalWrite)
    (h : op.run storage now db
      = transition storage.limits now w.id w.requested w.receipt w.error w.status db)
    (hop : ∀ db', op.effects storage () db db'
      = transitionEvents w.id w.requested w.status db db') :
    Commit storage db (op.events storage now db) (op.run storage now db).2 := by
  rcases @transition_cases now storage.limits w.id w.requested w.receipt w.error w.status db with ⟨e, he⟩ | ⟨row, recorded, hrow, hallowed, hrec, hok⟩
  · exact commit_of_error (h.trans he)
  · rw [w.terminal, if_pos rfl] at hok
    simp only [Operation.events, effectsOf, h, hok, hop]
    exact .finish w hrow hallowed hrec rfl

lemma markSubmitting_commit {id : PrintJobId} {db : Database} :
    let op : Operation Value Unit := .markSubmitting id
    Commit storage db (op.events storage now db) (op.run storage now db).2 := by
  intro op
  rcases @transition_cases now storage.limits id .submitting none none none db with ⟨e, he⟩ | ⟨row, recorded, hrow, hallowed, hrec, hok⟩
  · exact commit_of_error he
  · simp only [recordStatus, Except.ok.injEq] at hrec
    subst hrec
    have hrun : op.run storage now db = _ := hok
    simp only [Operation.events, effectsOf, hrun]
    exact .claim hrow (by simpa [transitionAllowed] using hallowed)

omit [BEq Value] in
lemma prepareOutboundStatus_jobId {id : PrintJobId} {status : NewOutboundStatus Value}
    {prepared : OutboxRow} (h : prepareOutboundStatus storage.codec id status = .ok prepared) :
    prepared.jobId = id := by
  unfold prepareOutboundStatus at h
  simp only [bind, Except.bind] at h
  split at h
  · cases h
  · split at h
    · cases h
    · rename_i hid
      split at h
      · cases h
      · cases h
        simpa using hid

lemma commit_of_transitionWithStatus {op : Operation Value Unit} {db : Database}
    {id : PrintJobId} {requested : JobState} {receipt : Option SubmissionReceipt}
    {error : Option StoredJobError} {status : NewOutboundStatus Value}
    (hterm : requested.isTerminal = true)
    (hreceipt : receipt.isSome = true ↔ requested = .submitted)
    (herror : error.isSome = true ↔ requested = .failed)
    (h : op.run storage now db
      = Operation.transitionWithStatus storage now id requested receipt error status db)
    (hop : ∀ db', op.effects storage () db db' = transitionEvents id requested
      (prepareOutboundStatus storage.codec id status).toOption db db') :
    Commit storage db (op.events storage now db) (op.run storage now db).2 := by
  unfold Operation.transitionWithStatus at h
  cases hprep : prepareOutboundStatus storage.codec id status with
  | error e =>
      rw [hprep] at h
      exact commit_of_error h
  | ok prepared =>
      rw [hprep] at h hop
      exact commit_of_transition
        { id := id
          requested := requested
          receipt := receipt
          error := error
          status := some prepared
          terminal := hterm
          receipt_iff := hreceipt
          error_iff := herror
          status_job := by
            rintro s ⟨⟩
            exact prepareOutboundStatus_jobId hprep } h hop

/-- A terminal transition without a status commits. -/
lemma commit_of_transitionWithoutStatus {op : Operation Value Unit} {db : Database}
    {id : PrintJobId} {requested : JobState} {receipt : Option SubmissionReceipt}
    {error : Option StoredJobError} (hterm : requested.isTerminal = true)
    (hreceipt : receipt.isSome = true ↔ requested = .submitted)
    (herror : error.isSome = true ↔ requested = .failed)
    (h : op.run storage now db = transition storage.limits now id requested receipt error none db)
    (hop : ∀ db', op.effects storage () db db' = transitionEvents id requested none db db') :
    Commit storage db (op.events storage now db) (op.run storage now db).2 :=
  commit_of_transition
    { id := id
      requested := requested
      receipt := receipt
      error := error
      status := none
      terminal := hterm
      receipt_iff := hreceipt
      error_iff := herror
      status_job := by simp } h hop

lemma insertReceived_commit {job : ReceivedPrintJob Value} {db : Database} :
    let op : Operation Value InsertResult := .insertReceived job
    Commit storage db (op.events storage now db) (op.run storage now db).2 := by
  simp only [Operation.events, Operation.run]
  rcases @insertReceived_cases _ storage.codec _ storage.limits job db with ⟨r, hr, hrun⟩ | ⟨payload, db', hprep, hroom, hdb', hrun⟩
  · have hnone : effectsOf storage (.insertReceived job) db (r, db) = [] := by
      cases r with
      | error e => rfl
      | ok a =>
          have ha : a ≠ .inserted := fun h => hr (by rw [h])
          simp only [effectsOf, Operation.effects, if_neg ha]
    rw [hrun, hnone]
    exact .nothing
  · have hrow : db'.job job.id = some (receivedRow storage.codec job payload) := by
      have hmem : receivedRow storage.codec job payload ∈ db'.jobs := by
        rw [(Database.insertJob_ok hdb').1]
        exact List.mem_append_right _ (List.mem_singleton_self _)
      exact Database.job_of_mem hmem
    rw [hrun]
    simp only [effectsOf, Operation.effects, hrow, if_true]
    exact .insert hprep hroom hdb'

/-- **Every operation is a commit.** -/
theorem run_commit {α : Type} (op : Operation Value α) (db : Database) :
    Commit storage db (op.events storage now db) (op.run storage now db).2 := by
  cases op with
  | insertReceived job => exact insertReceived_commit
  | pending =>
      simp only [Operation.events, Operation.run, effectsOf]
      split <;> exact .nothing
  | markSubmitting id => exact markSubmitting_commit
  | markSubmitted id receipt =>
      exact @commit_of_transitionWithoutStatus _ _ _ _ _ _ id .submitted (some receipt) none rfl (by simp) (by simp) rfl fun _ => rfl
  | markSubmittedWithStatus id receipt status =>
      exact @commit_of_transitionWithStatus _ _ _ _ _ _ id .submitted (some receipt) none status rfl (by simp) (by simp)
        (by simp only [Operation.run]) fun _ => by simp only [Operation.effects]
  | markFailed id error =>
      cases hvalid : error.validate with
      | error e =>
          exact commit_of_error (e := e) (by simp only [Operation.run, Operation.whenValid, hvalid])
      | ok _ =>
          exact @commit_of_transitionWithoutStatus _ _ _ _ _ _ id .failed none (some error) rfl (by simp) (by simp)
            (by simp only [Operation.run, Operation.whenValid, hvalid])
            fun _ => by simp only [Operation.effects]
  | markFailedWithStatus id error status =>
      cases hvalid : error.validate with
      | error e =>
          exact commit_of_error (e := e) (by simp only [Operation.run, Operation.whenValid, hvalid])
      | ok _ =>
          exact @commit_of_transitionWithStatus _ _ _ _ _ _ id .failed none (some error) status rfl (by simp) (by simp)
            (by simp only [Operation.run, Operation.whenValid, hvalid])
            fun _ => by simp only [Operation.effects]
  | markCancelled id =>
      exact @commit_of_transitionWithoutStatus _ _ _ _ _ _ id .cancelled none none rfl (by simp) (by simp) rfl fun _ => rfl
  | hasCompletedIdempotencyKey key =>
      simp only [Operation.events, Operation.run, effectsOf]
      split <;> exact .nothing
  | recoverInterrupted => exact .recover
  | pendingOutboundStatuses limit =>
      simp only [Operation.events, Operation.run, effectsOf]
      split <;> exact .nothing
  | acknowledgeOutboundStatus messageId =>
      simp only [Operation.events, Operation.run, acknowledgeOutboundStatus]
      cases validateKey "outbound message id" messageId 128 with
      | error e => exact .nothing
      | ok _ => exact .acknowledge
  | maintainTerminalJobs => exact .maintain rfl

end Oppa
