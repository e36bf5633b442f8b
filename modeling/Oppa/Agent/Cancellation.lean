import Oppa.Agent.Submission

/-!
# Cancellation after the backend has accepted

The entry of a job leaves the active map when its result has been recorded, or when recording it
failed.  In the second case the row is still submitting although nobody works on the job, and a
cancellation takes it for queued.

* `BackendAccepted` — the spooler answered with a receipt, and the job was not recovered since.
* `RecordsAcceptance` — the law: such a job is never cancelled, and an entry leaves the active map
  with a terminal row.
* `SettlementsKept` — no call that records a result is lost before it takes effect.
* **`accepted_never_cancelled`** — under that condition every run keeps the law;
  `accepted_then_cancelled` is a run that breaks it.
-/

namespace Oppa

open Protocol History

variable {config : AgentConfig}

/-- What an effect says about the acceptance of a job by its backend. -/
def acceptanceOf (id : PrintJobId) : Effect → Option Bool
  | .submitReturned id' true => if id' = id then some true else none
  | .repository (.recovered id') => if id' = id then some false else none
  | .repository (.inserted row) => if row.jobId = id then some false else none
  | _ => none

/-- The backend accepted the job, and the job was neither recovered nor inserted since. -/
def BackendAccepted (id : PrintJobId) (h : List Effect) : Prop :=
  latest (acceptanceOf id) h = some true

instance (id : PrintJobId) (h : List Effect) : Decidable (BackendAccepted id h) :=
  inferInstanceAs (Decidable (latest (acceptanceOf id) h = some true))

/-- A job its backend has accepted is not recorded as cancelled, and whenever an entry leaves the
active map its row is terminal. -/
def RecordsAcceptance (past : List Effect) : Effect → Prop
  | .repository (.transitioned id state) => state = .cancelled → ¬ BackendAccepted id past
  | .released _ state => state.any JobState.isTerminal = true
  | _ => True

instance : (past : List Effect) → (e : Effect) → Decidable (RecordsAcceptance past e)
  | past, .repository (.transitioned id state) =>
      inferInstanceAs (Decidable (state = .cancelled → ¬ BackendAccepted id past))
  | _, .released _ state => inferInstanceAs (Decidable (state.any JobState.isTerminal = true))
  | _, .repository (.inserted _) | _, .repository (.committed _) | _, .repository (.acknowledged _)
  | _, .repository (.recovered _) | _, .repository (.evicted _) | _, .handed _ _
  | _, .documentRequested _ | _, .submitCalled _ _ | _, .submitReturned _ _ | _, .drainStarted _
  | _, .drained _ | _, .flowReturned _ | _, .replayReturned _ | _, .cancelReturned _ =>
      isTrue trivial

/-! ## The condition -/

/-- Whether the flow is about to record what the spooler answered. -/
def Flow.isSettling : Flow → Bool
  | .processing _ _ (.settling _ _) => true
  | _ => false

/-- No call that records the result of a submission is lost before it takes effect; clock and random
identifiers behave as documented. -/
def SettlementsKept (config : AgentConfig) (_ : List Effect) (agent : Agent) (action : Action) :
    Prop :=
  ∀ env, action = .advance env →
    env.Conforms config agent.db ∧ (agent.flow.isSettling = true → env.fault ≠ .before)

/-! ## The invariant -/

/-- What the law rests on. -/
structure CancellationInvariant (config : AgentConfig) (h : List Effect) (agent : Agent) : Prop where
  prints : agent.flow.ReceiptPrints config
  /-- An accepted job is terminal, or about to be recorded as submitted. -/
  accepted : ∀ row ∈ agent.db.jobs, row.isTerminal = false → BackendAccepted row.jobId h →
    ∃ receipt, agent.flow.receipt = some (row.jobId, receipt)
  law : EachAfter RecordsAcceptance h

lemma CancellationInvariant.initial : CancellationInvariant config [] .initial where
  prints := .initial
  accepted := by simp [Agent.initial, Database.empty]
  law := eachAfter_nil _

/-! ## Over a step -/

/-- No effect reports an answer of the spooler. -/
def ReturnsNothing (es : List Effect) : Prop := ∀ id accepted, .submitReturned id accepted ∉ es

/-- An acceptance is as old as the last answer of the spooler, and nothing has revoked it. -/
lemma BackendAccepted.of_append {id : PrintJobId} {h es : List Effect}
    (hacc : BackendAccepted id (h ++ es)) (hes : ReturnsNothing es) :
    BackendAccepted id h ∧ ∀ e ∈ es, acceptanceOf id e = none := by
  refine latest_of_append hacc fun e he hread => ?_
  cases e with
  | submitReturned id' accepted => exact hes id' accepted he
  | repository event => cases event <;> simp [acceptanceOf] at hread
  | _ => cases hread

section Step

variable {agent agent' : Agent} {action : Action} {h effects : List Effect}

/-- The spooler answers in a step of its own; a receipt is what is recorded next. -/
lemma AgentStep.returned (hstep : AgentStep config agent action effects agent') {id : PrintJobId}
    {accepted : Bool} (hmem : .submitReturned id accepted ∈ effects) :
    effects = [.submitReturned id accepted] ∧ agent'.db = agent.db ∧ agent.flow.receipt = none ∧
      (accepted = true → ∃ receipt, agent'.flow.receipt = some (id, receipt)) := by
  cases hstep with
  | submitReturned haccepted =>
      simp only [List.mem_singleton] at hmem
      cases hmem
      refine ⟨rfl, rfl, rfl, fun htrue => ?_⟩
      obtain ⟨receipt, hreceipt⟩ := haccepted.mp htrue
      exact ⟨receipt, by simp [Flow.receipt, hreceipt]⟩
  | restarted => simp [Agent.restart, Effect.ofEvents] at hmem
  | _ => simp [Effect.ofEvents] at hmem

/-- A job that is recorded as cancelled was pending, and no receipt for it was about to be
recorded. -/
lemma AgentStep.cancels (hsub : SubmissionInvariant agent)
    (hstep : AgentStep config agent action effects agent') {id : PrintJobId}
    (hmem : .repository (.transitioned id .cancelled) ∈ effects) :
    (∃ row ∈ agent.db.jobs, row.jobId = id ∧ row.isTerminal = false) ∧
      ∀ receipt, agent.flow.receipt ≠ some (id, receipt) := by
  generalize hstate : JobState.cancelled = state at hmem
  cases hstep.shows hmem with
  | processed _ hflow hyields hmoves =>
      refine ⟨hmoves.pending, fun receipt hreceipt => ?_⟩
      rw [hflow] at hreceipt
      unfold Flow.receipt at hreceipt
      split at hreceipt
      · rename_i heq
        cases heq
        -- what is recorded of a receipt is that the job was submitted
        cases hyields
        cases hstate
      · cases hreceipt
  | cancelled hinactive hmoves =>
      refine ⟨hmoves.pending, fun receipt hreceipt => ?_⟩
      have hflight := receipt_inFlight hreceipt
      rw [← hsub.active] at hflight
      obtain ⟨entry, hentry, heq⟩ := List.mem_map.mp hflight
      exact hinactive entry hentry heq

/-- The record of a receipt that is not lost leaves the job terminal. -/
lemma settled_terminal {env : Env} {stored : StoredPrintJob Json.Value} {job : PrintJob}
    {drain : Drain} {submission : Except SpoolerError SubmissionReceipt} {cancelled : Bool}
    {result : Except JobProcessingError ProcessOutcome} {db' : Database}
    {events : List RepositoryEvent} (hsub : SubmissionInvariant agent)
    (hinv : CancellationInvariant config h agent)
    (hok : SettlementsKept config h agent (.advance env))
    (hflow : agent.flow = .processing drain stored (.settling job submission))
    (hanswer : settle config env stored job submission cancelled agent.db = ⟨result, db', events⟩) :
    ∃ row, db'.job stored.id = some row ∧ row.isTerminal = true := by
  obtain ⟨hconforms, hfault⟩ := hok env rfl
  have htakes := @SubmissionInvariant.settles _ _ _ _ _ _ _ cancelled hsub hinv.prints hconforms
    (hfault (by simp [hflow, Flow.isSettling])) hflow
  rw [hanswer] at htakes
  obtain ⟨old, new, hmoves⟩ := htakes.moves
  refine ⟨new, hmoves.after, ?_⟩
  rw [PrintJobRow.isTerminal, hmoves.state_eq]
  exact settledState_isTerminal _ _

/-- After a restart nothing is submitting. -/
lemma restart_not_submitting {openedAt recoveredAt : Timestamp} {row : PrintJobRow}
    (hrow : row ∈ (agent.restart config openedAt recoveredAt).1.db.jobs) :
    row.state ≠ .submitting := by
  simp only [Agent.restart, Operation.run, recoverInterrupted, Database.updateJobs_jobs] at hrow
  rcases Table.mem_updateWhere.mp hrow with ⟨-, hnot⟩ | ⟨old, -, -, rfl⟩
  · exact of_decide_eq_false hnot
  · simp [recoveryUpdate]

lemma CancellationInvariant.accepted_step (hsub : SubmissionInvariant agent)
    (hinv : CancellationInvariant config h agent) (hok : SettlementsKept config h agent action)
    (hstep : AgentStep config agent action effects agent') {row : PrintJobRow}
    (hrow : row ∈ agent'.db.jobs) (hpending : row.isTerminal = false)
    (hacc : BackendAccepted row.jobId (h ++ effects)) :
    ∃ receipt, agent'.flow.receipt = some (row.jobId, receipt) := by
  by_cases hreturns : ReturnsNothing effects
  · -- the acceptance is older than the step, so its receipt was about to be recorded
    obtain ⟨hbefore, hquiet⟩ := hacc.of_append hreturns
    obtain ⟨receipt, hreceipt⟩ : ∃ receipt, agent.flow.receipt = some (row.jobId, receipt) := by
      rcases hstep.commits.row_cases hrow with ⟨old, hold, hpath, -⟩ | ⟨first, hfirst, hpath⟩
      · have hold' : old.isTerminal = false := by
          by_contra hterminal
          rw [Bool.not_eq_false] at hterminal
          rw [hpath.isTerminal hterminal] at hpending
          cases hpending
        rw [hpath.jobId] at hbefore ⊢
        exact hinv.accepted old hold hold' hbefore
      · have hread := hquiet _ (mem_repositoryEvents.mp hfirst)
        simp [acceptanceOf, hpath.jobId] at hread
    obtain ⟨drain, stored, job, hflow, hid⟩ : ∃ drain stored job,
        agent.flow = .processing drain stored (.settling job (.ok receipt)) ∧
          stored.id = row.jobId := by
      unfold Flow.receipt at hreceipt
      split at hreceipt
      · rename_i hflow
        simp only [Option.some.injEq, Prod.mk.injEq] at hreceipt
        obtain ⟨hid, rfl⟩ := hreceipt
        exact ⟨_, _, _, hflow, hid⟩
      · cases hreceipt
    have hsettled : ∀ {db' : Database}, (∃ final, db'.job stored.id = some final ∧
        final.isTerminal = true) → row ∈ db'.jobs → False := by
      rintro db' ⟨final, hfinal, hterminal⟩ hrow'
      rw [Database.job_eq_some.mpr ⟨hrow', hid.symm⟩, Option.some.injEq] at hfinal
      rw [hfinal, hterminal] at hpending
      cases hpending
    cases hstep with
    | settled hanswer =>
        cases hflow
        exact (hsettled (settled_terminal hsub hinv hok rfl hanswer) hrow).elim
    | settleFailed hanswer =>
        cases hflow
        exact (hsettled (settled_terminal hsub hinv hok rfl hanswer) hrow).elim
    | restarted =>
        -- the job was submitting, and is recovered
        obtain ⟨old, hold, hstate⟩ := hsub.submitting row.jobId (receipt_inFlight hreceipt)
        cases AgentStep.restarted.commits.pending_cases hrow hpending with
        | was hmem =>
            rw [Database.job_of_mem hmem, Option.some.injEq] at hold
            exact absurd (hold ▸ hstate) (restart_not_submitting hrow)
        | inserted hmem hfirst =>
            have hread := hquiet _ (mem_repositoryEvents.mp hmem)
            simp [acceptanceOf, hfirst] at hread
        | recovered hmem =>
            have hread := hquiet _ (mem_repositoryEvents.mp hmem)
            simp [acceptanceOf] at hread
        | claimed hmem =>
            generalize row.jobId = id at hmem
            cases AgentStep.restarted.shows (mem_repositoryEvents.mp hmem) with
            | processed haction => cases haction
    | _ => first | exact ⟨receipt, hreceipt⟩ | cases hflow
  · simp only [ReturnsNothing, not_forall, not_not] at hreturns
    obtain ⟨id, accepted, hmem⟩ := hreturns
    obtain ⟨rfl, hdb, hnone, hreceipt⟩ := hstep.returned hmem
    by_cases hthis : id = row.jobId ∧ accepted = true
    · exact hthis.1 ▸ hreceipt hthis.2
    · -- the answer is not about this job, or is a failure
      have hread : acceptanceOf row.jobId (.submitReturned id accepted) = none := by
        cases accepted with
        | false => rfl
        | true => exact if_neg fun hid => hthis ⟨hid, rfl⟩
      have hbefore : BackendAccepted row.jobId h := by
        rwa [BackendAccepted, latest_append_of_none (by simpa using hread)] at hacc
      rw [hdb] at hrow
      obtain ⟨receipt, hsome⟩ := hinv.accepted row hrow hpending hbefore
      rw [hnone] at hsome
      cases hsome

lemma CancellationInvariant.law_step (hsub : SubmissionInvariant agent)
    (hinv : CancellationInvariant config h agent) (hok : SettlementsKept config h agent action)
    (hstep : AgentStep config agent action effects agent') :
    EachAfter RecordsAcceptance (h ++ effects) := by
  refine eachAfter_append.mpr ⟨hinv.law, fun past e rest heffects => ?_⟩
  have hmem : e ∈ effects := by simp [heffects]
  cases e with
  | repository event =>
      cases event with
      | transitioned id state =>
          rintro rfl hacc
          have hreturns : ReturnsNothing past := by
            intro id' accepted hpast
            obtain ⟨hone, -⟩ :=
              hstep.returned (heffects ▸ List.mem_append_left _ hpast)
            rw [hone, List.mem_singleton] at hmem
            cases hmem
          obtain ⟨⟨row, hrow, rfl, hpending⟩, hnone⟩ := hstep.cancels hsub hmem
          obtain ⟨receipt, hreceipt⟩ :=
            hinv.accepted row hrow hpending (hacc.of_append hreturns).1
          exact hnone receipt hreceipt
      | _ => trivial
  | released id state =>
      have hreleased : ∀ {db' : Database} {stored : StoredPrintJob Json.Value},
          (∃ row, db'.job stored.id = some row ∧ row.isTerminal = true) →
          ((db'.job stored.id).map PrintJobRow.state).any JobState.isTerminal = true := by
        rintro db' stored ⟨row, hrow, hterminal⟩
        rw [hrow]
        exact hterminal
      cases hstep with
      | settled hanswer =>
          simp [Effect.ofEvents] at hmem
          obtain ⟨-, rfl⟩ := hmem
          exact hreleased (settled_terminal hsub hinv hok rfl hanswer)
      | settleFailed hanswer =>
          simp [Effect.ofEvents] at hmem
          obtain ⟨-, rfl⟩ := hmem
          exact hreleased (settled_terminal hsub hinv hok rfl hanswer)
      | restarted => simp [Agent.restart, Effect.ofEvents] at hmem
      | _ => simp [Effect.ofEvents] at hmem
  | _ => trivial

/-- **One step keeps the invariant.** -/
lemma CancellationInvariant.step (hsub : SubmissionInvariant agent)
    (hinv : CancellationInvariant config h agent) (hok : SettlementsKept config h agent action)
    (hstep : AgentStep config agent action effects agent') :
    CancellationInvariant config (h ++ effects) agent' where
  prints := hinv.prints.step (fun env haction => (hok env haction).1) hstep
  accepted _ hrow hpending hacc := hinv.accepted_step hsub hok hstep hrow hpending hacc
  law := hinv.law_step hsub hok hstep

end Step

/-- **A submission the backend accepted is never recorded as cancelled**, and every entry leaves the
active map with a terminal row, in every run in which no call that records a result is lost before
it takes effect. -/
theorem accepted_never_cancelled {h : List Effect} {agent : Agent}
    (hrun : (agentSystem config).Runs (SettlementsKept config) .initial h agent) :
    EachAfter RecordsAcceptance h :=
  (hrun.invariant (I := CancellationInvariant config) .initial
    fun _ _ _ _ _ hreached hinv hok hstep =>
      hinv.step (submissionInvariant_of_runs hreached) hok (step_cases hstep)).law

/-! ## With and without the condition -/

namespace Sample

/-- What the samples check of `SettlementsKept`. -/
def keepsSettlements (_ : List Effect) (agent : Agent) : Action → Bool
  | .advance env => decide (env.Draws agent.db) && (!agent.flow.isSettling || env.fault ≠ .before)
  | _ => true

lemma settlementsKept {messages : List AgentMessage} {h : List Effect} {agent : Agent}
    {action : Action} (hcheck : keepsSettlements h agent action = true) :
    SettlementsKept (Sample.config messages) h agent action := by
  rintro env rfl
  simp only [keepsSettlements, Bool.and_eq_true, decide_eq_true_eq, Bool.or_eq_true,
    Bool.not_eq_true'] at hcheck
  exact ⟨conforms hcheck.1, fun hsettling => hcheck.2.resolve_left (by simp [hsettling])⟩

/-- A cancellation arrives while the spooler is at work on the job. -/
def cancelledTooLate : List Action :=
  .handlePrintJob (delivery "job_1") (env 1) :: advances 2 5 ++
    .cancelJob "job_1" (env 7) :: advances 8 2

/-- The record of the receipt is lost, and a cancellation arrives after that. -/
def settlementLost : List Action :=
  .handlePrintJob (delivery "job_1") (env 1) :: advances 2 6 ++
    [.advance { env 8 with fault := .before }, .cancelJob "job_1" (env 9)]

end Sample

/-- A job that was cancelled while it was printed is recorded as submitted. -/
theorem accepted_never_cancelled_late :
    let r := (agentSystem (Sample.config [])).run Sample.keepsSettlements .initial
      Sample.cancelledTooLate
    (.cancelReturned (.ok (.cancellationRequested Sample.firstId)) ∈ r.1 ∧
      .released Sample.firstId (some .submitted) ∈ r.1) ∧ EachAfter RecordsAcceptance r.1 :=
  ⟨by decide +kernel,
    accepted_never_cancelled (System.runs_run (fun _ _ _ => Sample.settlementsKept) _)⟩

/-- **A job the backend accepted is recorded as cancelled**, after its entry left the active map with
the row still submitting. -/
theorem accepted_then_cancelled :
    ¬ ∀ (config : AgentConfig) (h : List Effect) (agent : Agent),
      (agentSystem config).Runs anyStep .initial h agent → EachAfter RecordsAcceptance h := by
  intro hall
  have hlaw := hall (Sample.config []) (Sample.run [] Sample.settlementLost).1 _
    (System.runs_run (fun _ _ _ _ => trivial) _)
  revert hlaw
  decide +kernel

end Oppa
