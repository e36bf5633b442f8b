import Oppa.Agent.Step

/-!
# The transitions the agent asks for

Every repository call that a job of a drain, a settlement or a cancellation makes is a transition
of one job.  `Transition` says what such a call can leave behind: nothing, or the job in the
requested state, whatever the caller is told.

* `Operation.transition?` — the job and the state a repository operation asks for.
* **`call_transition`** — a call of such an operation is a `Transition`.
* `persistFailure_transition`, `claim_transition`, `settle_transition`, `cancelQueued_transition` —
  the calls of the processor.
-/

namespace Oppa

open Protocol

/-- The job and the state a terminal or claiming operation asks for. -/
def Operation.transition? {Value : Type} : {α : Type} → Operation Value α →
    Option (PrintJobId × JobState)
  | _, .markSubmitting id => some (id, .submitting)
  | _, .markSubmitted id _ => some (id, .submitted)
  | _, .markSubmittedWithStatus id _ _ => some (id, .submitted)
  | _, .markFailed id _ => some (id, .failed)
  | _, .markFailedWithStatus id _ _ => some (id, .failed)
  | _, .markCancelled id => some (id, .cancelled)
  | _, _ => none

/-- The row of a job before a transition and after it. -/
structure MovesTo (db db' : Database) (id : PrintJobId) (state : JobState) (row row' : PrintJobRow) :
    Prop where
  before : db.job id = some row
  allowed : transitionAllowed row.state state = true
  after : db'.job id = some row'
  state_eq : row'.state = state
  attempts : row'.retryAttempts = row.retryAttempts + if state = .submitting then 1 else 0

/-- The job was pending before. -/
lemma MovesTo.pending {db db' : Database} {id : PrintJobId} {state : JobState}
    {row row' : PrintJobRow} (h : MovesTo db db' id state row row') :
    ∃ row ∈ db.jobs, row.jobId = id ∧ row.isTerminal = false := by
  obtain ⟨hrow, hid⟩ := Database.job_eq_some.mp h.before
  refine ⟨row, hrow, hid, ?_⟩
  simpa [PrintJobRow.isTerminal_iff_not_isPending] using transitionAllowed_isPending h.allowed

section Store

variable {Value : Type} {storage : SqliteStorage Value} {now : Timestamp} {id : PrintJobId}
  {state : JobState} {db : Database}

lemma transition_moves {receipt : Option SubmissionReceipt} {error : Option StoredJobError}
    {status : Option OutboxRow}
    (hok : (transition storage.limits now id state receipt error status db).1 = .ok ()) :
    ∃ row row', MovesTo db (transition storage.limits now id state receipt error status db).2 id
      state row row' := by
  have hevicts := fun hterm => @transition_evicts _ storage now id state receipt error db status hterm
    hok
  rcases @transition_cases now storage.limits id state receipt error status db with
    ⟨e, he⟩ | ⟨row, recorded, hrow, hallowed, hrec, hrun⟩
  · rw [he] at hok
    cases hok
  · have hupdated := @updatedBy_row now _ state receipt error _ _ hrow
    have hid : ((transitionUpdate state receipt error now).apply row).jobId = id :=
      (Database.job_eq_some.mp hrow).2
    cases hterm : state.isTerminal with
    | true =>
        have hspared := (hevicts hterm).spared _ hupdated (Or.inr (congrArg some hid))
        refine ⟨row, _, hrow, hallowed,
          Database.job_eq_some.mpr ⟨hspared, (PrintJobRow.prune_jobId _).trans hid⟩, ?_, ?_⟩
        · exact PrintJobRow.prune_state _
        · exact PrintJobRow.prune_retryAttempts _
    | false =>
        rw [hrun]
        simp only [hterm, Bool.false_eq_true, if_false]
        rw [← (recordStatus_ok hrec).1] at hupdated
        exact ⟨row, _, hrow, hallowed, Database.job_eq_some.mpr ⟨hupdated, hid⟩, rfl, rfl⟩

lemma transitionWithStatus_moves {receipt : Option SubmissionReceipt}
    {error : Option StoredJobError} {status : NewOutboundStatus Value}
    (hok : (Operation.transitionWithStatus storage now id state receipt error status db).1 = .ok ()) :
    ∃ row row', MovesTo db
      (Operation.transitionWithStatus storage now id state receipt error status db).2 id state
      row row' := by
  unfold Operation.transitionWithStatus at hok ⊢
  cases hprep : prepareOutboundStatus storage.codec id status with
  | error e =>
      rw [hprep] at hok
      cases hok
  | ok prepared =>
      rw [hprep] at hok
      exact transition_moves hok

variable [BEq Value]

/-- A claim evicts nothing. -/
lemma evictions_markSubmitting {op : Operation Value Unit} (hop : op = .markSubmitting id) :
    evictions db (op.run storage now db).2 = [] := by
  subst hop
  simp only [evictions, List.map_eq_nil_iff, List.filter_eq_nil_iff, decide_eq_true_eq, not_not]
  intro row hrow
  rcases @transition_cases now storage.limits id .submitting none none none db with ⟨e, he⟩ | ⟨old, recorded, hold, hallowed, hrec, hok⟩
  · simp only [Operation.run, he]
    exact List.mem_map_of_mem hrow
  · simp only [Operation.run, hok]
    simp only [recordStatus, Except.ok.injEq] at hrec
    subst hrec
    refine List.mem_map.mpr ⟨_, List.mem_map_of_mem hrow, ?_⟩
    split <;> rfl

omit [BEq Value] in
lemma jobId_of_prepared {status : NewOutboundStatus Value} {prepared : OutboxRow}
    (h : prepared ∈ (prepareOutboundStatus storage.codec id status).toOption) :
    prepared.jobId = id := by
  cases hprep : prepareOutboundStatus storage.codec id status with
  | error e => simp [hprep, Except.toOption] at h
  | ok row =>
      simp only [hprep, Except.toOption, Option.mem_some_iff] at h
      exact h ▸ prepareOutboundStatus_jobId hprep

/-- What an operation that asks for a transition does when it succeeds. -/
lemma run_transition {α : Type} {op : Operation Value α} {a : α}
    (hop : op.transition? = some (id, state)) (hok : (op.run storage now db).1 = .ok a) :
    (∃ row row', MovesTo db (op.run storage now db).2 id state row row') ∧
      ∃ status : Option OutboxRow, (∀ s ∈ status, s.jobId = id ∧ state ≠ .cancelled) ∧
        op.events storage now db
          = transitionEvents id state status db (op.run storage now db).2 := by
  have hevents : op.events storage now db
      = op.effects storage a db (op.run storage now db).2 := by
    simp only [Operation.events, effectsOf, hok]
  rw [hevents]
  cases op with
  | markSubmitting job =>
      cases hop
      have hnone := @evictions_markSubmitting _ storage now id db _ _
        rfl
      refine ⟨transition_moves hok, none, by simp, ?_⟩
      rw [transitionEvents, hnone]
      rfl
  | markSubmitted job receipt =>
      cases hop
      exact ⟨transition_moves hok, none, by simp, rfl⟩
  | markSubmittedWithStatus job receipt status =>
      cases hop
      exact ⟨transitionWithStatus_moves hok, _, fun _ hs => ⟨jobId_of_prepared hs, by simp⟩, rfl⟩
  | markFailed job error =>
      cases hop
      simp only [Operation.run, Operation.whenValid] at hok ⊢
      cases hvalid : error.validate with
      | error e =>
          rw [hvalid] at hok
          cases hok
      | ok _ =>
          rw [hvalid] at hok
          exact ⟨transition_moves hok, none, by simp, rfl⟩
  | markFailedWithStatus job error status =>
      cases hop
      simp only [Operation.run, Operation.whenValid] at hok ⊢
      cases hvalid : error.validate with
      | error e =>
          rw [hvalid] at hok
          cases hok
      | ok _ =>
          rw [hvalid] at hok
          exact ⟨transitionWithStatus_moves hok, _, fun _ hs => ⟨jobId_of_prepared hs, by simp⟩, rfl⟩
  | markCancelled job =>
      cases hop
      exact ⟨transition_moves hok, none, by simp, rfl⟩
  | _ => cases hop

end Store

/-! ## Calls -/

/-- What a call that asks for a transition leaves behind. -/
inductive Transition (config : AgentConfig) (id : PrintJobId) (state : JobState) (db : Database) :
    StorageResult Unit → Database → List RepositoryEvent → Prop
  | refused {e : StorageError} : Transition config id state db (.error e) db []
  | taken {result : StorageResult Unit} {db' : Database} {row row' : PrintJobRow}
      {status : Option OutboxRow} :
      MovesTo db db' id state row row' → (∀ s ∈ status, s.jobId = id ∧ state ≠ .cancelled) →
      Commit config.storage db (transitionEvents id state status db db') db' →
      Transition config id state db result db' (transitionEvents id state status db db')

section Call

variable {config : AgentConfig} {env : Env} {id : PrintJobId} {state : JobState} {now : Timestamp}
  {db db' : Database} {events : List RepositoryEvent}

/-- **A call that asks for a transition makes it or leaves the tables alone.** -/
theorem call_transition {op : Operation Json.Value Unit} (hop : op.transition? = some (id, state)) :
    Transition config id state db (env.call config op now db).result (env.call config op now db).db
      (env.call config op now db).events := by
  have hrefused : ∀ {e}, (op.run config.storage now db).1 = .error e →
      op.events config.storage now db = [] ∧ (op.run config.storage now db).2 = db := by
    intro e he
    exact ⟨by simp only [Operation.events, effectsOf, he], run_error_unchanged op he⟩
  have htaken : (op.run config.storage now db).1 = .ok () → ∀ result,
      Transition config id state db result (op.run config.storage now db).2
        (op.events config.storage now db) := by
    intro hok result
    obtain ⟨⟨row, row', hmoves⟩, status, hstatus, hevents⟩ := run_transition hop hok
    have hcommit := @run_commit _ _ config.storage now _ op db
    rw [hevents] at hcommit ⊢
    exact .taken hmoves hstatus hcommit
  unfold Env.call
  cases env.fault with
  | absent =>
      cases hrun : (op.run config.storage now db).1 with
      | error e =>
          obtain ⟨hevents, hdb⟩ := hrefused hrun
          simp only [hevents, hdb]
          exact .refused
      | ok _ => exact htaken hrun _
  | before => exact .refused
  | after =>
      cases hrun : (op.run config.storage now db).1 with
      | error e =>
          obtain ⟨hevents, hdb⟩ := hrefused hrun
          simp only [hevents, hdb]
          exact .refused
      | ok _ => exact htaken hrun _

namespace Transition

variable {result : StorageResult Unit}

lemma commit (h : Transition config id state db result db' events) :
    Commit config.storage db events db' := by
  cases h with
  | refused => exact .nothing
  | taken _ _ hcommit => exact hcommit

/-- A transition inserts nothing. -/
lemma noInsertion (h : Transition config id state db result db' events) (row : PrintJobRow) :
    .inserted row ∉ events := by
  cases h with
  | refused => simp
  | taken => simp [transitionEvents, evictions]

/-- The only transition it shows is its own. -/
lemma of_transitioned (h : Transition config id state db result db' events) {id' : PrintJobId}
    {state' : JobState} (hmem : .transitioned id' state' ∈ events) : id' = id ∧ state' = state := by
  cases h with
  | refused => simp at hmem
  | taken => simpa [transitionEvents, evictions] using hmem

/-- One that shows its transition has made it. -/
lemma moves_of_transitioned (h : Transition config id state db result db' events)
    {id' : PrintJobId} {state' : JobState} (hmem : .transitioned id' state' ∈ events) :
    ∃ row row', MovesTo db db' id state row row' := by
  cases h with
  | refused => simp at hmem
  | taken hmoves => exact ⟨_, _, hmoves⟩

/-- A transition recovers nothing. -/
lemma noRecovery (h : Transition config id state db result db' events) (id' : PrintJobId) :
    .recovered id' ∉ events := by
  cases h with
  | refused => simp
  | taken => simp [transitionEvents, evictions]

/-- A call that answers has made its transition. -/
lemma of_ok (h : Transition config id state db (.ok ()) db' events) :
    ∃ row row', MovesTo db db' id state row row' := by
  cases h with
  | taken hmoves => exact ⟨_, _, hmoves⟩

end Transition

/-! ## The calls of the processor -/

variable {stored : StoredPrintJob Json.Value}

lemma claim_transition {result : Except JobProcessingError Claim}
    (h : claim config env stored db = ⟨result, db', events⟩) :
    ∃ answer, Transition config stored.id .submitting db answer db' events ∧
      (result = .ok .claimed → answer = .ok ()) := by
  unfold claim at h
  cases h
  refine ⟨_, call_transition rfl, fun hclaimed => ?_⟩
  generalize (env.call config (.markSubmitting stored.id) (env.clock 0) db).result = answer
    at hclaimed ⊢
  split at hclaimed <;> simp_all

lemma persistFailure_transition {job : Option PrintJob} {failure : JobFailure}
    {result : Except JobProcessingError ProcessOutcome}
    (h : persistFailure config env stored job failure db = ⟨result, db', events⟩) :
    ∃ answer, Transition config stored.id .failed db answer db' events ∧
      ∀ outcome, result = .ok outcome → answer = .ok () ∧
        ∃ message, outcome = .failed stored.id message := by
  unfold persistFailure at h
  cases job with
  | none =>
      cases h
      refine ⟨_, call_transition rfl, fun outcome hok => ?_⟩
      rw [Except.map_mapError_eq_ok] at hok
      exact ⟨hok.1, none, hok.2⟩
  | some job =>
      simp only at h
      split at h
      · cases h
        exact ⟨_, .refused (e := workerStopped), fun outcome hok => by cases hok⟩
      · rename_i message _
        cases h
        refine ⟨_, call_transition rfl, fun outcome hok => ?_⟩
        rw [Except.map_mapError_eq_ok] at hok
        exact ⟨hok.1, some message, hok.2⟩

/-- The state a settlement asks for. -/
def settledState (submission : Except SpoolerError SubmissionReceipt) (cancelled : Bool) :
    JobState :=
  match submission with
  | .ok _ => .submitted
  | .error e => if cancelled || e = .cancelled then .cancelled else .failed

lemma settledState_isTerminal (submission : Except SpoolerError SubmissionReceipt)
    (cancelled : Bool) : (settledState submission cancelled).isTerminal = true := by
  unfold settledState
  split
  · rfl
  · split <;> rfl

lemma settle_transition {job : PrintJob} {submission : Except SpoolerError SubmissionReceipt}
    {cancelled : Bool} {result : Except JobProcessingError ProcessOutcome}
    (h : settle config env stored job submission cancelled db = ⟨result, db', events⟩) :
    ∃ answer, Transition config stored.id (settledState submission cancelled) db answer db' events ∧
      ∀ outcome, result = .ok outcome → answer = .ok () ∧ outcome.jobId = stored.id := by
  unfold settle at h
  cases submission with
  | ok receipt =>
      simp only at h
      split at h
      · cases h
        exact ⟨_, .refused (e := workerStopped), fun outcome hok => by cases hok⟩
      · cases h
        refine ⟨_, call_transition rfl, fun outcome hok => ?_⟩
        rw [Except.map_mapError_eq_ok] at hok
        exact ⟨hok.1, by rw [hok.2]; rfl⟩
  | error e =>
      simp only [settledState] at h ⊢
      split at h
      · rename_i hcancel
        cases h
        refine ⟨_, call_transition (by rw [if_pos hcancel]; rfl), fun outcome hok => ?_⟩
        rw [Except.map_mapError_eq_ok] at hok
        exact ⟨hok.1, by rw [hok.2]; rfl⟩
      · rename_i hcancel
        rw [if_neg hcancel]
        obtain ⟨answer, htransition, hok⟩ := persistFailure_transition h
        refine ⟨answer, htransition, fun outcome houtcome => ?_⟩
        obtain ⟨hanswer, message, rfl⟩ := hok outcome houtcome
        exact ⟨hanswer, rfl⟩

lemma cancelQueued_transition :
    ∃ answer, Transition config id .cancelled db answer (cancelQueued config env id db).db
      (cancelQueued config env id db).events :=
  ⟨_, call_transition rfl⟩

end Call

end Oppa
