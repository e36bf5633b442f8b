import Oppa.Agent.Submission

/-!
# A drain and the cancellations beside it

`process_pending` takes a snapshot of the received jobs and works it off.  A cancellation may move a
job of the snapshot at any time, and the retention it triggers may evict one.  The claim takes a job
that has moved on for skipped; the record of a failure takes it for an error of the store, and so
does the claim of a job that is gone.

* `DrainsAll` — the law: a drain returns one outcome for each job of its snapshot, in its order.
* `Undisturbed` — where the drain depends on a job still being there, it is.
* `Flow.remaining` — what is left of a drain; **`drain_advances`**: each of its steps takes from it.
* **`drain_returns_all`** — under that condition every run keeps the law; `drain_aborted` is a run
  that breaks it.
-/

namespace Oppa

open Protocol History

variable {config : AgentConfig}

/-! ## The law -/

/-- The snapshot an effect shows. -/
def snapshotOf : Effect → Option (List PrintJobId)
  | .drainStarted ids => some ids
  | _ => none

/-- The jobs of the last snapshot. -/
def lastSnapshot (h : List Effect) : Option (List PrintJobId) := latest snapshotOf h

/-- A drain returns one outcome for each job of its snapshot, in the order of the snapshot. -/
def DrainsAll (past : List Effect) : Effect → Prop
  | .drained (.ok outcomes) => lastSnapshot past = some (outcomes.map ProcessOutcome.jobId)
  | .drained (.error _) => False
  | _ => True

instance : (past : List Effect) → (e : Effect) → Decidable (DrainsAll past e)
  | past, .drained (.ok outcomes) =>
      inferInstanceAs (Decidable (lastSnapshot past = some (outcomes.map ProcessOutcome.jobId)))
  | _, .drained (.error _) => isFalse id
  | _, .repository _ | _, .handed _ _ | _, .documentRequested _ | _, .submitCalled _ _
  | _, .submitReturned _ _ | _, .released _ _ | _, .drainStarted _ | _, .flowReturned _
  | _, .replayReturned _ | _, .cancelReturned _ => isTrue trivial

/-! ## The condition -/

/-- `serde_json` reads a delivered job back as it was stored. -/
structure ReadsBack (config : AgentConfig) (job : PrintJob) : Prop where
  text : config.fromStr job.toValue.toString = some job.toValue
  value : config.printJobFromValue job.toValue = .ok job

/-- The job whose failure is about to be recorded. -/
def Flow.persisting : Flow → Option (StoredPrintJob Json.Value)
  | .processing _ stored (.persisting _ _) => some stored
  | _ => none

/-- The job that is about to be claimed. -/
def Flow.claiming : Flow → Option (StoredPrintJob Json.Value)
  | .processing _ stored (.claiming _) => some stored
  | _ => none

/-- No call of the drain fails, and everything outside the agent answers as documented. -/
structure Answered (config : AgentConfig) (agent : Agent) (action : Action) : Prop where
  absent : ∀ env, action = .advance env → env.fault = .absent
  conforms : ∀ env, action = .advance env → env.Conforms config agent.db
  readsBack : ∀ message env job, action = .handlePrintJob message env →
    message.kind = .printJob job → ReadsBack config job

/-- Where the drain depends on a job still being there, it is. -/
structure Undisturbed (config : AgentConfig) (h : List Effect) (agent : Agent) (action : Action) :
    Prop extends Answered config agent action where
  /-- A job whose failure is recorded is still received. -/
  received : action.isAdvance = true → ∀ stored ∈ agent.flow.persisting,
    ∃ row ∈ agent.db.jobs, row.jobId = stored.id ∧ row.state = .received
  /-- A job that is claimed is still in the table. -/
  retained : action.isAdvance = true → ∀ stored ∈ agent.flow.claiming,
    ∃ row ∈ agent.db.jobs, row.jobId = stored.id

/-! ## The invariant -/

/-- The payload of a row is that of a valid job, and is read back. -/
def Readable (config : AgentConfig) (row : PrintJobRow) : Prop :=
  ∃ job : PrintJob, job.validate = .ok () ∧ ReadsBack config job ∧
    row.payloadJson = job.toValue.toString

/-- A stored job is read as a job that can be reported. -/
def Understood (config : AgentConfig) (stored : StoredPrintJob Json.Value) : Prop :=
  ∃ job, ReportableJob job ∧ config.printJobFromValue stored.payload = .ok job

/-- The job of which a stage would report a failure. -/
def Stage.reported : Stage → Option PrintJob
  | .persisting job _ => job
  | stage => stage.validated

/-- The job of which a flow would report a failure. -/
def Flow.reported : Flow → Option PrintJob
  | .processing _ _ stage => stage.reported
  | _ => none

/-- The snapshot a drain is working off. -/
def Flow.snapshot : Flow → Option (List PrintJobId)
  | .draining drain =>
      some (drain.outcomes.map ProcessOutcome.jobId ++ drain.queue.map StoredPrintJob.id)
  | .processing drain stored _ =>
      some (drain.outcomes.map ProcessOutcome.jobId ++
        stored.id :: drain.queue.map StoredPrintJob.id)
  | _ => none

/-- What the law rests on. -/
structure DrainInvariant (config : AgentConfig) (h : List Effect) (agent : Agent) : Prop where
  prints : agent.flow.ReceiptPrints config
  readable : ∀ row ∈ agent.db.jobs, row.isTerminal = false → Readable config row
  understood : ∀ stored ∈ agent.flow.held, Understood config stored
  reportable : ∀ job, agent.flow.reported = some job → ReportableJob job
  snapshot : ∀ ids, agent.flow.snapshot = some ids → lastSnapshot h = some ids
  law : EachAfter DrainsAll h

lemma DrainInvariant.initial : DrainInvariant config [] .initial where
  prints := .initial
  readable := by simp [Agent.initial, Database.empty]
  understood := by simp [Agent.initial, Flow.held]
  reportable _ h := by cases h
  snapshot _ h := by cases h
  law := eachAfter_nil _

lemma reported_of {job job' : PrintJob} {result : Except JobFailure Unit}
    (h : (Stage.of job result).reported = some job') : job' = job := by
  cases result with
  | error e => exact (Option.some.inj h).symm
  | ok _ => exact (Option.some.inj h).symm

/-- Preparation is about the job that was read. -/
lemma reported_of_prepare {env : Env} {stored : StoredPrintJob Json.Value} {job job' : PrintJob}
    (hread : config.printJobFromValue stored.payload = .ok job)
    (h : (prepare config env stored).reported = some job') : job' = job := by
  unfold prepare at h
  simp only [hread] at h
  split at h
  · exact (Option.some.inj h).symm
  · split at h
    · exact reported_of h
    · split at h
      · exact (Option.some.inj h).symm
      · exact (Option.some.inj h).symm

section Step

variable {agent agent' : Agent} {action : Action} {h effects : List Effect}

lemma DrainInvariant.readable_step (hinv : DrainInvariant config h agent)
    (hok : Undisturbed config h agent action)
    (hstep : AgentStep config agent action effects agent') {row : PrintJobRow}
    (hrow : row ∈ agent'.db.jobs) (hpending : row.isTerminal = false) : Readable config row := by
  rcases hstep.commits.row_cases hrow with ⟨old, hold, hpath, -⟩ | ⟨first, hfirst, hpath⟩
  · have hold' : old.isTerminal = false := by
      by_contra hterminal
      rw [Bool.not_eq_false] at hterminal
      rw [hpath.isTerminal hterminal] at hpending
      cases hpending
    obtain ⟨job, hvalid, hreads, htext⟩ := hinv.readable old hold hold'
    exact ⟨job, hvalid, hreads, (hpath.payloadJson hpending).trans htext⟩
  · cases hstep.shows (mem_repositoryEvents.mp hfirst) with
    | inserted haction _ _ _ hdelivery =>
        have hadmitted := delivery_ok hdelivery
        refine ⟨_, hadmitted.jobValid, hok.readsBack _ _ _ haction hadmitted.kind, ?_⟩
        rw [hpath.payloadJson hpending, ← hadmitted.payload]
        rfl

lemma DrainInvariant.understood_step (hinv : DrainInvariant config h agent)
    (hstep : AgentStep config agent action effects agent') {stored : StoredPrintJob Json.Value}
    (hheld : stored ∈ agent'.flow.held) : Understood config stored := by
  cases hstep.held hheld with
  | held hold => exact hinv.understood stored hold
  | @snapshot env call row _ _ _ hrow hstate hread =>
      have hpending : row.isTerminal = false := by
        simp [PrintJobRow.isTerminal, JobState.isTerminal, hstate]
      obtain ⟨job, hvalid, hreads, htext⟩ := hinv.readable row hrow hpending
      have hpayload := hread.payload
      rw [htext] at hpayload
      have hsame : job.toValue = stored.payload :=
        Option.some.inj (hreads.text.symm.trans hpayload)
      exact ⟨job, reportableJob_of_valid hvalid, hsame ▸ hreads.value⟩

lemma DrainInvariant.reportable_step (hinv : DrainInvariant config h agent)
    (hstep : AgentStep config agent action effects agent') {job : PrintJob}
    (hjob : agent'.flow.reported = some job) : ReportableJob job := by
  cases hstep with
  | jobTaken =>
      obtain ⟨read, hreportable, hread⟩ := hinv.understood _ List.mem_cons_self
      rw [reported_of_prepare hread hjob]
      exact hreportable
  | documentFetched =>
      rw [reported_of hjob]
      exact hinv.reportable _ rfl
  | restarted => simp [Agent.restart, Flow.reported] at hjob
  | _ => first | exact hinv.reportable _ hjob | cases hjob

lemma map_id_of_loaded {codec : Codec Json.Value} {rows : List PrintJobRow}
    {stored : List (StoredPrintJob Json.Value)}
    (h : List.Forall₂ (fun row job => loadJob codec row = .ok job) rows stored) :
    stored.map StoredPrintJob.id = rows.map PrintJobRow.jobId := by
  induction h with
  | nil => rfl
  | cons hload _ ih => simp [(loadJob_ok hload).id, ih]

/-- A snapshot lists the received jobs in the order of their receipt. -/
lemma AgentStep.started (hstep : AgentStep config agent action effects agent')
    {ids : List PrintJobId} (hmem : .drainStarted ids ∈ effects) :
    (∃ call, agent.flow = .reading call) ∧
      ids = (pendingRows agent.db).map PrintJobRow.jobId := by
  cases hstep with
  | snapshotTaken hread =>
      simp only [List.mem_singleton] at hmem
      cases hmem
      exact ⟨⟨_, rfl⟩, map_id_of_loaded (call_pending_ok hread)⟩
  | restarted => simp [Agent.restart, Effect.ofEvents] at hmem
  | _ => simp [Effect.ofEvents] at hmem

/-- Only the reading of received jobs starts over. -/
lemma lastSnapshot_append (hstep : AgentStep config agent action effects agent')
    (hflow : ∀ call, agent.flow ≠ .reading call) (h : List Effect) :
    lastSnapshot (h ++ effects) = lastSnapshot h := by
  refine latest_append_of_none fun e he => ?_
  cases e with
  | drainStarted ids =>
      obtain ⟨⟨call, hcall⟩, -⟩ := hstep.started he
      exact absurd hcall (hflow call)
  | _ => rfl

lemma DrainInvariant.snapshot_step (hinv : DrainInvariant config h agent)
    (hstep : AgentStep config agent action effects agent') {ids : List PrintJobId}
    (hids : agent'.flow.snapshot = some ids) : lastSnapshot (h ++ effects) = some ids := by
  -- a step that works on the snapshot keeps its list of jobs
  have hkeep : agent.flow.snapshot = some ids → lastSnapshot (h ++ effects) = some ids := by
    intro hsame
    rw [lastSnapshot_append hstep]
    · exact hinv.snapshot ids hsame
    · intro call hcall
      simp [hcall, Flow.snapshot] at hsame
  cases hstep with
  | snapshotTaken =>
      show latest snapshotOf (h ++ [.drainStarted _]) = some ids
      exact latest_concat_of_some (by simpa [Flow.snapshot, snapshotOf] using hids)
  | persisted hanswer =>
      obtain ⟨answer, -, houtcome⟩ := persistFailure_transition hanswer
      obtain ⟨-, message, rfl⟩ := houtcome _ rfl
      refine hkeep ?_
      simpa [Flow.snapshot, Drain.push, ProcessOutcome.jobId] using hids
  | skipped =>
      refine hkeep ?_
      simpa [Flow.snapshot, Drain.push, ProcessOutcome.jobId] using hids
  | settled hanswer =>
      obtain ⟨answer, -, houtcome⟩ := settle_transition hanswer
      refine hkeep ?_
      simpa [Flow.snapshot, Drain.push, (houtcome _ rfl).2] using hids
  | restarted => simp [Agent.restart, Flow.snapshot] at hids
  | _ => first | exact hkeep hids | cases hids

/-- A step that gives a drain up does not happen. -/
lemma DrainInvariant.never_abandons (hsub : SubmissionInvariant agent)
    (hinv : DrainInvariant config h agent) (hok : Undisturbed config h agent action)
    (hstep : AgentStep config agent action effects agent') {e : JobProcessingError}
    (hmem : .drained (.error e) ∈ effects) : False := by
  cases hstep with
  | @persistFailed _ _ _ _ env drain stored job failure _ _ hanswer =>
      obtain ⟨row, hrow, hid, hstate⟩ := hok.received rfl stored rfl
      have hconforms := hok.conforms env rfl
      have habsent := hok.absent env rfl
      have htakes := @persistFailure_takes _ _ _ _ _ job failure
        (Database.job_eq_some.mpr ⟨hrow, hid⟩) (by simp [hstate, transitionAllowed])
        (fun job hjob => ⟨hinv.reportable job hjob, hsub.heldSource stored List.mem_cons_self⟩)
        hconforms.prints hconforms.draws (by simp [habsent])
      obtain ⟨outcome, houtcome⟩ := htakes.answers habsent
      rw [hanswer] at houtcome
      cases houtcome
  | @claimFailed _ _ _ _ env drain stored job _ _ hanswer =>
      obtain ⟨row, hrow, hid⟩ := hok.retained rfl stored rfl
      obtain ⟨result, hresult⟩ := @claim_takes config _ _ _ _
        (Database.job_eq_some.mpr ⟨hrow, hid⟩) (hok.absent env rfl)
      rw [hanswer] at hresult
      cases hresult
  | @settleFailed _ _ _ _ env drain stored job submission cancelled _ _ hanswer =>
      have habsent := hok.absent env rfl
      have htakes := @SubmissionInvariant.settles _ _ _ _ _ _ _ cancelled hsub hinv.prints
        (hok.conforms env rfl) (by simp [habsent]) rfl
      obtain ⟨outcome, houtcome⟩ := htakes.answers habsent
      rw [hanswer] at houtcome
      cases houtcome
  | restarted => simp [Agent.restart, Effect.ofEvents] at hmem
  | _ => simp [Effect.ofEvents] at hmem

/-- A drain that ends has an outcome for each job of its snapshot. -/
lemma AgentStep.drained (hstep : AgentStep config agent action effects agent')
    {outcomes : List ProcessOutcome} (hmem : .drained (.ok outcomes) ∈ effects) :
    effects = [.drained (.ok outcomes)] ∧
      agent.flow.snapshot = some (outcomes.map ProcessOutcome.jobId) := by
  cases hstep with
  | drainEnded =>
      simp only [List.mem_singleton] at hmem
      cases hmem
      exact ⟨rfl, by simp [Flow.snapshot]⟩
  | restarted => simp [Agent.restart, Effect.ofEvents] at hmem
  | _ => simp [Effect.ofEvents] at hmem

lemma DrainInvariant.law_step (hsub : SubmissionInvariant agent)
    (hinv : DrainInvariant config h agent) (hok : Undisturbed config h agent action)
    (hstep : AgentStep config agent action effects agent') :
    EachAfter DrainsAll (h ++ effects) := by
  refine eachAfter_append.mpr ⟨hinv.law, fun past e rest heffects => ?_⟩
  have hmem : e ∈ effects := by simp [heffects]
  cases e with
  | drained result =>
      cases result with
      | error e => exact (hinv.never_abandons hsub hok hstep hmem).elim
      | ok outcomes =>
          obtain ⟨hone, hsnapshot⟩ := hstep.drained hmem
          rw [hone] at heffects
          have hpast : past = [] := by
            cases past with
            | nil => rfl
            | cons x past => simp at heffects
          subst hpast
          simpa [DrainsAll] using hinv.snapshot _ hsnapshot
  | _ => trivial

/-- **One step keeps the invariant.** -/
lemma DrainInvariant.step (hsub : SubmissionInvariant agent)
    (hinv : DrainInvariant config h agent) (hok : Undisturbed config h agent action)
    (hstep : AgentStep config agent action effects agent') :
    DrainInvariant config (h ++ effects) agent' where
  prints := hinv.prints.step hok.conforms hstep
  readable _ hrow hpending := hinv.readable_step hok hstep hrow hpending
  understood _ hheld := hinv.understood_step hstep hheld
  reportable _ hjob := hinv.reportable_step hstep hjob
  snapshot _ hids := hinv.snapshot_step hstep hids
  law := hinv.law_step hsub hok hstep

end Step

/-! ## Progress -/

/-- The steps a stage is from its outcome, at most. -/
def Stage.remaining : Stage → ℕ
  | .fetching _ => 5
  | .claiming _ => 4
  | .claimed _ => 3
  | .submitting _ => 2
  | .persisting _ _ | .settling _ _ => 1

/-- The steps a drain is from its end, at most; zero outside of a drain. -/
def Flow.remaining : Flow → ℕ
  | .draining drain => 6 * drain.queue.length + 1
  | .processing drain _ stage => 6 * drain.queue.length + 1 + stage.remaining
  | _ => 0

lemma remaining_le (stage : Stage) : stage.remaining ≤ 5 := by
  cases stage <;> simp [Stage.remaining]

lemma remaining_of_le (job : PrintJob) (result : Except JobFailure Unit) :
    (Stage.of job result).remaining ≤ 4 := by
  cases result <;> simp [Stage.of, Stage.remaining]

/-- **A drain advances.**  It never waits for anything but the parts it calls; each of its steps
takes from what remains, and nothing but a restart of the process interferes with it. -/
theorem drain_advances {agent : Agent} (hdrain : 0 < agent.flow.remaining) :
    (∀ env, ((agentSystem config).step agent (.advance env)).isSome = true) ∧
      ∀ action agent' effects, (agentSystem config).step agent action = some (agent', effects) →
        if action.isAdvance = true then agent'.flow.remaining < agent.flow.remaining
        else agent'.flow = agent.flow ∨ ∃ openedAt recoveredAt, action = .restart openedAt recoveredAt := by
  constructor
  · intro env
    simp only [agentSystem, Agent.step, Agent.flowStep]
    split <;> simp_all [Flow.remaining]
  · intro action agent' effects hstep
    cases step_cases hstep with
    | jobTaken =>
        have hle := remaining_le (prepare config ‹Env› ‹StoredPrintJob Json.Value›)
        simp only [Action.isAdvance, if_true, Flow.remaining, List.length_cons]
        omega
    | documentFetched =>
        have hle := remaining_of_le ‹PrintJob› (do
          (‹Env›).fetched.mapError fetchFailure
          renderPdfBytes ‹Env›)
        have hfetching : (Stage.fetching ‹PrintJob›).remaining = 5 := rfl
        simp only [Action.isAdvance, if_true, Flow.remaining, finishFetch, hfetching]
        omega
    | restarted => exact Or.inr ⟨_, _, rfl⟩
    | _ =>
        first
          | exact Or.inl rfl
          | (simp [Flow.remaining] at hdrain; done)
          | simp [Action.isAdvance, Flow.remaining, Stage.remaining, Drain.push]

/-- **Draining survives cancellation**, in every run in which the drain finds the jobs it depends
on: whatever else happens, each drain returns one outcome for each job of its snapshot, in the order
of their receipt, and it does return. -/
theorem drain_returns_all {h : List Effect} {agent : Agent}
    (hrun : (agentSystem config).Runs (Undisturbed config) .initial h agent) :
    EachAfter DrainsAll h ∧
      (∀ action agent' effects ids, (agentSystem config).step agent action = some (agent', effects) →
        .drainStarted ids ∈ effects → ids = (pendingRows agent.db).map PrintJobRow.jobId) ∧
      (0 < agent.flow.remaining →
        (∀ env, ((agentSystem config).step agent (.advance env)).isSome = true) ∧
        ∀ action agent' effects, (agentSystem config).step agent action = some (agent', effects) →
          if action.isAdvance = true then agent'.flow.remaining < agent.flow.remaining
          else agent'.flow = agent.flow ∨
            ∃ openedAt recoveredAt, action = .restart openedAt recoveredAt) := by
  have hinv : DrainInvariant config h agent :=
    hrun.invariant (I := DrainInvariant config) .initial
      fun _ _ _ _ _ hreached hinv hok hstep =>
        hinv.step (submissionInvariant_of_runs hreached) hok (step_cases hstep)
  exact ⟨hinv.law, fun _ _ _ _ hstep hmem => ((step_cases hstep).started hmem).2, drain_advances⟩

/-! ## With and without the condition -/

namespace Sample

lemma readsBack : ∀ job ∈ jobs, ReadsBack (Sample.config []) job := by
  intro job hjob
  simp only [jobs, List.mem_cons, List.not_mem_nil, or_false] at hjob
  rcases hjob with rfl | rfl
  · exact ⟨by decide +kernel, by decide +kernel⟩
  · exact ⟨by decide +kernel, by decide +kernel⟩

/-- What the samples check of `Answered`. -/
def answers (_ : List Effect) (agent : Agent) : Action → Bool
  | .advance env => env.fault = .absent && decide (env.Draws agent.db)
  | .handlePrintJob message _ => message = delivery "job_1" || message = delivery "job_2"
  | _ => true

lemma answered {h : List Effect} {agent : Agent} {action : Action}
    (hcheck : answers h agent action = true) : Answered (Sample.config []) agent action where
  absent := by
    rintro env rfl
    simp only [answers, Bool.and_eq_true, decide_eq_true_eq] at hcheck
    exact hcheck.1
  conforms := by
    rintro env rfl
    simp only [answers, Bool.and_eq_true, decide_eq_true_eq] at hcheck
    exact conforms hcheck.2
  readsBack := by
    rintro message env read rfl hkind
    simp only [answers, Bool.or_eq_true, decide_eq_true_eq] at hcheck
    rcases hcheck with rfl | rfl <;> cases hkind <;> exact readsBack _ (by simp [jobs])

/-- What the samples check of `Undisturbed`. -/
def undisturbed (h : List Effect) (agent : Agent) (action : Action) : Bool :=
  answers h agent action && (!action.isAdvance ||
    (decide (∀ stored ∈ agent.flow.persisting,
      ∃ row ∈ agent.db.jobs, row.jobId = stored.id ∧ row.state = .received) &&
    decide (∀ stored ∈ agent.flow.claiming, ∃ row ∈ agent.db.jobs, row.jobId = stored.id)))

lemma isUndisturbed {h : List Effect} {agent : Agent} {action : Action}
    (hcheck : undisturbed h agent action = true) :
    Undisturbed (Sample.config []) h agent action := by
  simp only [undisturbed, Bool.and_eq_true, Bool.or_eq_true, Bool.not_eq_true',
    decide_eq_true_eq] at hcheck
  obtain ⟨hanswers, hthere⟩ := hcheck
  exact ⟨answered hanswers, fun hadvance => (hthere.resolve_left (by simp [hadvance])).1,
    fun hadvance => (hthere.resolve_left (by simp [hadvance])).2⟩

/-- Two jobs are received, of which the first is taken up. -/
def twoReceived (second : Env) : List Action :=
  [.handlePrintJob (delivery "job_1") (env 1), .advance { env 2 with delivered := false },
    .handlePrintJob (delivery "job_2") (env 3)] ++ advances 4 2 ++ [.advance second]

/-- The first of them is cancelled before it is claimed. -/
def cancelledBeforeClaim : List Action :=
  twoReceived (env 6) ++ .cancelJob "job_1" (env 7) :: advances 8 7

/-- Its printer is gone, and it is cancelled before that is recorded. -/
def cancelledBeforeFailure : List Action :=
  twoReceived { env 6 with printer := .ok none } ++ .cancelJob "job_1" (env 7) :: advances 8 1

end Sample

/-- A job that was cancelled before its claim is skipped, and the job behind it is printed. -/
theorem drain_returns_all_skipped :
    let r := (agentSystem (Sample.config [])).run Sample.undisturbed .initial
      Sample.cancelledBeforeClaim
    (∃ outcomes, outcomes.map ProcessOutcome.jobId = [Sample.firstId, Sample.secondId] ∧
      .drained (.ok outcomes) ∈ r.1) ∧ EachAfter DrainsAll r.1 := by
  refine ⟨⟨[.skipped Sample.firstId .cancelled, .submitted Sample.secondId
    (Sample.submitted "job_2" 13)], by decide +kernel, by decide +kernel⟩, ?_⟩
  exact (drain_returns_all (System.runs_run (fun _ _ _ => Sample.isUndisturbed) _)).1

/-- **A cancellation stops the drain** before the job behind the cancelled one, although no call of
the store failed. -/
theorem drain_aborted :
    ¬ ∀ (config : AgentConfig) (h : List Effect) (agent : Agent),
      (agentSystem config).Runs (fun _ => Answered config) .initial h agent →
        EachAfter DrainsAll h := by
  intro hall
  have hlaw := hall (Sample.config [])
    ((agentSystem (Sample.config [])).run Sample.answers .initial Sample.cancelledBeforeFailure).1 _
    (System.runs_run (fun _ _ _ => Sample.answered) _)
  revert hlaw
  decide +kernel

end Oppa
