import Oppa.Agent.Custody

/-!
# A job is submitted at most once for each time it was recovered

Every call of `SpoolerRegistry::submit` is preceded by a claim of the job, and a claim counts one
attempt in the row of the job.  A claim that has not been spent on a call yet is a credit of the
flow.

* `submitCalls` — the calls for a job since it was last inserted.
* `Flow.unspent` — the claims the flow has not spent yet.
* `SubmitsOwner` — a call is made for the job that owns its idempotency key.
* **`at_most_once`** — calls never exceed one more than the recoveries of the job, and no other job
  with its key reaches the spooler while it is retained.
-/

namespace Oppa

open Protocol History

variable {config : AgentConfig}

/-! ## Calls of the spooler -/

/-- Counts a call of `submit` for a job; an insertion of the job starts over. -/
def countSubmit (id : PrintJobId) (n : ℕ) : Effect → ℕ
  | .repository (.inserted row) => if row.jobId = id then 0 else n
  | .submitCalled id' _ => if id' = id then n + 1 else n
  | _ => n

/-- The calls of `submit` for a job since it was last inserted. -/
def submitCalls (id : PrintJobId) (h : List Effect) : ℕ := h.foldl (countSubmit id) 0

/-- No effect calls the spooler. -/
def CallsNoSpooler (es : List Effect) : Prop := ∀ id key, .submitCalled id key ∉ es

section Count

variable {id : PrintJobId} {es : List Effect}

lemma foldl_countSubmit_le (hes : CallsNoSpooler es) (n : ℕ) :
    es.foldl (countSubmit id) n ≤ n := by
  induction es generalizing n with
  | nil => exact le_rfl
  | cons e es ih =>
      have hrest : CallsNoSpooler es := fun id key h => hes id key (List.mem_cons_of_mem _ h)
      refine (ih hrest _).trans ?_
      cases e with
      | repository event =>
          cases event with
          | inserted row =>
              simp only [countSubmit]
              split <;> omega
          | _ => exact le_rfl
      | submitCalled id' key => exact absurd List.mem_cons_self (hes id' key)
      | _ => exact le_rfl

/-- Without a call the count does not grow. -/
lemma submitCalls_append_le (hes : CallsNoSpooler es) (h : List Effect) :
    submitCalls id (h ++ es) ≤ submitCalls id h := by
  rw [submitCalls, List.foldl_append]
  exact foldl_countSubmit_le hes _

/-- An insertion starts the count over. -/
lemma submitCalls_append_of_inserted (hes : CallsNoSpooler es) {row : PrintJobRow}
    (hrow : .repository (.inserted row) ∈ es) (hid : row.jobId = id) (h : List Effect) :
    submitCalls id (h ++ es) = 0 := by
  obtain ⟨before, after, rfl⟩ := List.append_of_mem hrow
  have hafter : CallsNoSpooler after := fun id key hmem => hes id key (by simp [hmem])
  have hzero := @foldl_countSubmit_le id _ hafter 0
  simp only [submitCalls, List.foldl_append, List.foldl_cons, countSubmit, hid, if_true]
  omega

lemma submitCalls_concat (h : List Effect) (id' : PrintJobId) (key : String) :
    submitCalls id (h ++ [.submitCalled id' key])
      = submitCalls id h + if id' = id then 1 else 0 := by
  simp only [submitCalls, List.foldl_append, List.foldl_cons, List.foldl_nil, countSubmit]
  split <;> omega

end Count

/-- The claims of a job which the flow has not spent on a call yet. -/
def Flow.unspent (id : PrintJobId) : Flow → ℕ
  | .processing _ stored (.claimed _) => if stored.id = id then 1 else 0
  | _ => 0

lemma unspent_processing {id : PrintJobId} {drain : Drain} {stored : StoredPrintJob Json.Value}
    {stage : Stage} (h : stage.isUnclaimed = true) :
    (Flow.processing drain stored stage).unspent id = 0 := by
  cases stage <;> first | rfl | simp [Stage.isUnclaimed] at h

lemma unspent_of_held {id : PrintJobId} {flow : Flow} (h : flow.held = []) :
    flow.unspent id = 0 := by
  cases flow <;> first | rfl | simp [Flow.held] at h

/-! ## Claims and calls over a step -/

/-- How a step deals with claims and calls. -/
inductive SubmitStep (agent : Agent) (effects : List Effect) (agent' : Agent) : Prop
  | none : CallsNoSpooler effects → (∀ id, agent'.flow.unspent id ≤ agent.flow.unspent id) →
      SubmitStep agent effects agent'
  | claim {stored : StoredPrintJob Json.Value} {row row' : PrintJobRow} :
      CallsNoSpooler effects → agent.flow.unspent stored.id = 0 →
      (∀ id, agent'.flow.unspent id = if stored.id = id then 1 else 0) →
      MovesTo agent.db agent'.db stored.id .submitting row row' →
      SubmitStep agent effects agent'
  | call {stored : StoredPrintJob Json.Value} :
      stored ∈ agent.flow.held → agent'.db = agent.db →
      effects = [.submitCalled stored.id stored.idempotencyKey] →
      (∀ id, agent.flow.unspent id = if stored.id = id then 1 else 0) →
      (∀ id, agent'.flow.unspent id = 0) → SubmitStep agent effects agent'

lemma callsNoSpooler_ofEvents (events : List RepositoryEvent) :
    CallsNoSpooler (Effect.ofEvents events) := by
  intro id key h
  simp [Effect.ofEvents] at h

lemma CallsNoSpooler.append {es es' : List Effect} (h : CallsNoSpooler es)
    (h' : CallsNoSpooler es') : CallsNoSpooler (es ++ es') := by
  intro id key hmem
  exact (List.mem_append.mp hmem).elim (h id key) (h' id key)

lemma AgentStep.submit_cases {agent agent' : Agent} {action : Action} {effects : List Effect}
    (hstep : AgentStep config agent action effects agent') : SubmitStep agent effects agent' := by
  have hevents := callsNoSpooler_ofEvents
  cases hstep with
  | claimed hanswer =>
      obtain ⟨answer, htransition, hclaimed⟩ := claim_transition hanswer
      rw [hclaimed rfl] at htransition
      obtain ⟨row, row', hmoves⟩ := htransition.of_ok
      exact .claim (hevents _) rfl (fun _ => rfl) hmoves
  | submitCalled => exact .call List.mem_cons_self rfl rfl (fun _ => rfl) fun _ => rfl
  | jobTaken =>
      exact .none (by simp [CallsNoSpooler]) fun _ =>
        (unspent_processing (isUnclaimed_prepare _ _)).le
  | documentFetched =>
      exact .none (by simp [CallsNoSpooler]) fun _ =>
        (unspent_processing (isUnclaimed_finishFetch _ _)).le
  | restarted =>
      simp only [Agent.restart]
      exact .none (hevents _) fun _ => Nat.zero_le _
  | _ =>
      refine .none ?_ fun _ => ?_
      · first
          | exact hevents _
          | exact (hevents _).append (by simp [CallsNoSpooler])
          | simp [CallsNoSpooler]
      · exact le_rfl

/-! ## The invariant -/

/-- A call is made for the job that owns its key: any job that was inserted with the key and not
evicted since is the one submitted. -/
def SubmitsOwner (past : List Effect) (e : Effect) : Prop :=
  ∀ id key, e = .submitCalled id key →
    ∀ first, Standing (.inserted first) (· = .evicted first.jobId) (repositoryEvents past) →
      first.idempotencyKey = key → first.jobId = id

/-- What at-most-once submission rests on. -/
structure SubmitInvariant (h : List Effect) (agent : Agent) : Prop where
  /-- Every call and every unspent claim has been counted as an attempt. -/
  counted : ∀ row ∈ agent.db.jobs,
    submitCalls row.jobId h + agent.flow.unspent row.jobId ≤ row.retryAttempts
  /-- A job in hand owns its key. -/
  owner : ∀ stored ∈ agent.flow.held, ∀ row ∈ agent.db.jobs,
    row.idempotencyKey = stored.idempotencyKey → row.jobId = stored.id
  submits : EachAfter SubmitsOwner h

lemma SubmitInvariant.initial : SubmitInvariant [] .initial where
  counted := by simp [Agent.initial, Database.empty]
  owner := by simp [Agent.initial, Flow.held]
  submits := eachAfter_nil _

section Step

variable {agent agent' : Agent} {action : Action} {h effects : List Effect}

lemma SubmitInvariant.counted_step (hinv : SubmitInvariant h agent)
    (hstep : AgentStep config agent action effects agent') {row : PrintJobRow}
    (hrow : row ∈ agent'.db.jobs) :
    submitCalls row.jobId (h ++ effects) + agent'.flow.unspent row.jobId ≤ row.retryAttempts := by
  cases hstep.submit_cases with
  | none hquiet hunspent =>
      have hless := @submitCalls_append_le row.jobId _ hquiet h
      have hunspent := hunspent row.jobId
      rcases hstep.commits.row_cases hrow with ⟨old, hold, hpath, -⟩ | ⟨first, hfirst, hpath⟩
      · have hcounted := hinv.counted old hold
        rw [← hpath.jobId] at hcounted
        have hattempts := hpath.retryAttempts_le
        omega
      · have hfirst := mem_repositoryEvents.mp hfirst
        rw [submitCalls_append_of_inserted hquiet hfirst hpath.jobId.symm]
        cases hstep.shows hfirst with
        | inserted _ _ hheld =>
            rw [unspent_of_held hheld]
            omega
  | @claim stored first claimed hquiet hbefore hafter hmoves =>
      rw [hafter]
      have hless := @submitCalls_append_le row.jobId _ hquiet h
      rcases hstep.commits.row_cases hrow with ⟨old, hold, hpath, -⟩ | ⟨fresh, hfresh, -⟩
      · have hcounted := hinv.counted old hold
        rw [← hpath.jobId] at hcounted
        have hattempts := hpath.retryAttempts_le
        by_cases hid : stored.id = row.jobId
        · -- the claimed row has counted one more attempt
          have hrow' : agent'.db.job stored.id = some row :=
            Database.job_eq_some.mpr ⟨hrow, hid.symm⟩
          have hold' : agent.db.job stored.id = some old :=
            Database.job_eq_some.mpr ⟨hold, hpath.jobId.symm.trans hid.symm⟩
          rw [hmoves.after, Option.some.injEq] at hrow'
          rw [hmoves.before, Option.some.injEq] at hold'
          have hone := hmoves.attempts
          rw [hrow', hold', if_pos rfl] at hone
          rw [if_pos hid]
          omega
        · rw [if_neg hid]
          omega
      · -- a claim inserts nothing
        have hfresh := mem_repositoryEvents.mp hfresh
        cases hstep.shows hfresh with
        | inserted _ _ hheld =>
            have hone := hafter stored.id
            rw [unspent_of_held hheld, if_pos rfl] at hone
            cases hone
  | @call stored hheld hdb heffects hbefore hafter =>
      rw [hdb] at hrow
      have hcounted := hinv.counted row hrow
      rw [hbefore] at hcounted
      rw [heffects, submitCalls_concat, hafter]
      omega

lemma SubmitInvariant.owner_step (hinv : SubmitInvariant h agent)
    (hstep : AgentStep config agent action effects agent') {stored : StoredPrintJob Json.Value}
    (hheld : stored ∈ agent'.flow.held) {row : PrintJobRow} (hrow : row ∈ agent'.db.jobs)
    (hkey : row.idempotencyKey = stored.idempotencyKey) : row.jobId = stored.id := by
  cases hstep.held hheld with
  | held hold =>
      rcases hstep.commits.row_cases hrow with ⟨old, hold', hpath, -⟩ | ⟨first, hfirst, -⟩
      · rw [hpath.jobId]
        exact hinv.owner stored hold old hold' (hpath.idempotencyKey.symm.trans hkey)
      · -- jobs are inserted only while nothing is in hand
        cases hstep.shows (mem_repositoryEvents.mp hfirst) with
        | inserted _ hidle =>
            rw [hidle] at hold
            simp [Flow.held] at hold
  | @snapshot env call first _ hflow hdb hfirst hstate hread =>
      rw [hdb] at hrow
      have heq : row = first := agent.db.idempotencyKeys.eq_of_key_eq hrow hfirst
        (hkey.trans hread.idempotencyKey)
      rw [heq, hread.id]

lemma SubmitInvariant.submits_step (hinv : SubmitInvariant h agent)
    (hdb : Committed config.storage (repositoryEvents h) agent.db)
    (hstep : AgentStep config agent action effects agent') :
    EachAfter SubmitsOwner (h ++ effects) := by
  refine eachAfter_append.mpr ⟨hinv.submits, ?_⟩
  have hquiet : CallsNoSpooler effects →
      EachAfter (fun past e => SubmitsOwner (h ++ past) e) effects := fun hnone =>
    eachAfter_of_forall fun past e he id key heq => absurd (heq ▸ he) (hnone id key)
  cases hstep.submit_cases with
  | none hnone => exact hquiet hnone
  | claim hnone => exact hquiet hnone
  | @call stored hheld _ heffects =>
      subst heffects
      simp only [eachAfter_cons, List.append_nil, eachAfter_nil, and_true]
      intro id key heq first hstanding hkey
      cases heq
      obtain ⟨row, hrow, hpath⟩ := stored_of_standing hdb hstanding
      rw [← hpath.jobId]
      exact hinv.owner stored hheld row hrow (hpath.idempotencyKey.trans hkey)

/-- **One step keeps the invariant.** -/
lemma SubmitInvariant.step (hinv : SubmitInvariant h agent)
    (hdb : Committed config.storage (repositoryEvents h) agent.db)
    (hstep : AgentStep config agent action effects agent') :
    SubmitInvariant (h ++ effects) agent' where
  counted _ hrow := hinv.counted_step hstep hrow
  owner _ hheld _ hrow hkey := hinv.owner_step hstep hheld hrow hkey
  submits := hinv.submits_step hdb hstep

end Step

lemma submitInvariant_of_runs {ok : StepCondition Agent Action Effect} {h : List Effect}
    {agent : Agent} (hrun : (agentSystem config).Runs ok .initial h agent) :
    SubmitInvariant h agent :=
  hrun.invariant .initial fun _ _ _ _ _ hreached hinv _ hstep =>
    hinv.step (committed_of_runs hreached) (step_cases hstep)

lemma PrintJobRow.Consistent.retryAttempts_le {row : PrintJobRow} (h : row.Consistent) :
    row.retryAttempts ≤ 1 + row.recoveryCount := by
  have hattempts := h.attempts
  cases hstate : row.state <;> simp only [hstate] at hattempts <;> omega

/-- **At-most-once submission.**  In every run, whatever is interleaved and whatever fails: while
the row of a job is retained, `submit` has been called for it at most once more than it was
recovered; and every call is made for the one job that owns its idempotency key, so no other job
with the key reaches the spooler while that one is retained. -/
theorem at_most_once {h : List Effect} {agent : Agent}
    (hrun : (agentSystem config).Runs anyStep .initial h agent) :
    (∀ row ∈ agent.db.jobs, submitCalls row.jobId h ≤ 1 + row.recoveryCount) ∧
      EachAfter SubmitsOwner h := by
  have hinv := submitInvariant_of_runs hrun
  have hstore := storeInvariant_of_committed (committed_of_runs hrun)
  refine ⟨fun row hrow => ?_, hinv.submits⟩
  have hcounted := hinv.counted row hrow
  have hattempts := (hstore.consistent row hrow).retryAttempts_le
  omega

/-- The claim of a delivery is lost in a crash; the job is recovered and submitted twice. -/
def Sample.crashed : List Action :=
  [.handlePrintJob (Sample.delivery "job_1") (Sample.env 1)] ++ Sample.advances 2 5 ++
    [.restart Sample.morning Sample.morning, .processPending] ++ Sample.advances 7 9

/-- A recovered job may be submitted a second time, and no more. -/
theorem at_most_once_recovered :
    let r := Sample.run [] Sample.crashed
    (r.2.db.jobs.map fun row => (submitCalls row.jobId r.1, row.recoveryCount)) = [(2, 1)] ∧
      ((∀ row ∈ r.2.db.jobs, submitCalls row.jobId r.1 ≤ 1 + row.recoveryCount) ∧
        EachAfter SubmitsOwner r.1) :=
  ⟨by decide +kernel, at_most_once (System.runs_run (fun _ _ _ _ => trivial) _)⟩

end Oppa
