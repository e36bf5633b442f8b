import Oppa.Agent.Custody

/-!
# Receipt is acknowledged before a job is processed

`process_pending` and `recover` report the receipt of every received job before they drain them.
`handle_print_job` reports only the receipt of its own delivery, and then drains every received job:
one whose report failed in an earlier call is processed without ever being acknowledged.

* `Acknowledged` — the receipt of a job was reported since it was inserted.
* `AcknowledgedFirst` — the law: a job is claimed or ended by its processing only after that.
* `OthersAcknowledged` — what `handle_print_job` would have to find when it takes its snapshot.
* **`acknowledged_before_processing`** — under that condition every run keeps the law;
  `processed_unacknowledged` is a run that breaks it.
-/

namespace Oppa

open Protocol History

variable {config : AgentConfig}

/-- What an effect says about the acknowledgement of a job. -/
def acknowledgementOf (id : PrintJobId) : Effect → Option Bool
  | .repository (.inserted row) => if row.jobId = id then some false else none
  | .handed message true => if receivedJobId message = some id.value then some true else none
  | _ => none

/-- The receipt of the job was reported successfully since the job was last inserted. -/
def Acknowledged (id : PrintJobId) (h : List Effect) : Prop :=
  latest (acknowledgementOf id) h = some true

instance (id : PrintJobId) (h : List Effect) : Decidable (Acknowledged id h) :=
  inferInstanceAs (Decidable (latest (acknowledgementOf id) h = some true))

/-- Without an insertion of the job, an acknowledgement stays. -/
lemma Acknowledged.append {id : PrintJobId} {h es : List Effect} (hack : Acknowledged id h)
    (hes : ∀ row, .repository (.inserted row) ∉ es) : Acknowledged id (h ++ es) := by
  refine latest_append_of_agree hack fun e he => ?_
  cases e with
  | repository event =>
      cases event with
      | inserted row => exact absurd he (hes row)
      | _ => exact Or.inl rfl
  | handed message delivered =>
      cases delivered with
      | false => exact Or.inl rfl
      | true =>
          simp only [acknowledgementOf]
          split
          · exact Or.inr rfl
          · exact Or.inl rfl
  | _ => exact Or.inl rfl

lemma acknowledged_of_handed {id : PrintJobId} {h : List Effect} {message : AgentMessage}
    (hid : receivedJobId message = some id.value) :
    Acknowledged id (h ++ [.handed message true]) :=
  latest_concat_of_some (by simp only [acknowledgementOf, hid, if_true])

/-- A job is claimed, ended by its processing, or given a terminal status only once its receipt was
acknowledged. -/
def AcknowledgedFirst (past : List Effect) : Effect → Prop
  | .repository (.transitioned id state) => state = .cancelled ∨ Acknowledged id past
  | .repository (.committed status) => Acknowledged status.jobId past
  | _ => True

instance : (past : List Effect) → (e : Effect) → Decidable (AcknowledgedFirst past e)
  | past, .repository (.transitioned id state) =>
      inferInstanceAs (Decidable (state = .cancelled ∨ Acknowledged id past))
  | past, .repository (.committed status) =>
      inferInstanceAs (Decidable (Acknowledged status.jobId past))
  | _, .repository (.inserted _) | _, .repository (.acknowledged _)
  | _, .repository (.recovered _) | _, .repository (.evicted _) | _, .handed _ _
  | _, .documentRequested _ | _, .submitCalled _ _ | _, .submitReturned _ _ | _, .released _ _
  | _, .drainStarted _ | _, .drained _ | _, .flowReturned _ | _, .replayReturned _
  | _, .cancelReturned _ => isTrue trivial

/-! ## The condition -/

/-- The receipt that `handle_print_job` has reported when it comes to its snapshot. -/
def Flow.reportedReceipt : Flow → Option ReceiveJobOutcome
  | .reading (.handlePrintJob receipt) => some receipt
  | _ => none

/-- Whether a receipt is about this job. -/
def ReceiveJobOutcome.Acknowledges (receipt : ReceiveJobOutcome) (id : PrintJobId) : Prop :=
  receipt.acknowledgement.bind receivedJobId = some id.value

instance (receipt : ReceiveJobOutcome) (id : PrintJobId) : Decidable (receipt.Acknowledges id) :=
  inferInstanceAs (Decidable (_ = _))

/-- When `handle_print_job` takes its snapshot, the receipt of every received job other than its own
was reported before. -/
def OthersAcknowledged (h : List Effect) (agent : Agent) (action : Action) : Prop :=
  action.isAdvance = true → ∀ receipt ∈ agent.flow.reportedReceipt,
    ∀ row ∈ agent.db.jobs, row.state = .received →
      receipt.Acknowledges row.jobId ∨ Acknowledged row.jobId h

instance (h : List Effect) (agent : Agent) (action : Action) :
    Decidable (OthersAcknowledged h agent action) :=
  inferInstanceAs (Decidable (action.isAdvance = true → ∀ receipt ∈ agent.flow.reportedReceipt,
    ∀ row ∈ agent.db.jobs, row.state = .received →
      receipt.Acknowledges row.jobId ∨ Acknowledged row.jobId h))

/-! ## The invariant -/

/-- Every received job was acknowledged. -/
def AllAcknowledged (h : List Effect) (db : Database) : Prop :=
  ∀ row ∈ db.jobs, row.state = .received → Acknowledged row.jobId h

/-- What the law rests on, by the place where the flow stands. -/
structure AcknowledgeInvariant (h : List Effect) (agent : Agent) : Prop where
  acknowledging : ∀ receipt message, agent.flow = .acknowledging receipt message →
    receipt.acknowledgement = some message
  reporting : ∀ call messages, agent.flow = .reportingReceipts call messages →
    ∀ row ∈ agent.db.jobs, row.state = .received →
      Acknowledged row.jobId h ∨ ∃ message ∈ messages, receivedJobId message = some row.jobId.value
  reading : ∀ call, agent.flow = .reading call → AllAcknowledged h agent.db ∨
    ∃ receipt, call = .handlePrintJob receipt ∧
      ∀ id, receipt.Acknowledges id → Acknowledged id h
  held : ∀ stored ∈ agent.flow.held, Acknowledged stored.id h
  law : EachAfter AcknowledgedFirst h

lemma AcknowledgeInvariant.initial : AcknowledgeInvariant [] .initial where
  acknowledging _ _ h := by cases h
  reporting _ _ h := by cases h
  reading _ h := by cases h
  held := by simp [Agent.initial, Flow.held]
  law := eachAfter_nil _

section Step

variable {agent agent' : Agent} {action : Action} {h effects : List Effect}

/-- While a call is busy with receipts or about to take its snapshot, no job becomes received. -/
lemma AgentStep.received_of_reporting (hstep : AgentStep config agent action effects agent')
    (hbusy : agent.flow ≠ .idle) (hbusy' : agent'.flow ≠ .idle)
    (hnone : ∀ drain stored stage, agent.flow ≠ .processing drain stored stage) {row : PrintJobRow}
    (hrow : row ∈ agent'.db.jobs) (hstate : row.state = .received) : row ∈ agent.db.jobs := by
  have hpending : row.isTerminal = false := by
    simp [PrintJobRow.isTerminal, JobState.isTerminal, hstate]
  cases hstep.commits.pending_cases hrow hpending with
  | was h => exact h
  | inserted h => exact absurd (mem_repositoryEvents.mp h) (hstep.noInsertion hbusy)
  | recovered h =>
      cases hstep.shows (mem_repositoryEvents.mp h) with
      | recovered hidle => exact (hidle.elim hbusy' fun h => hbusy h.1).elim
  | claimed h =>
      generalize hid : row.jobId = id at h
      cases hstep.shows (mem_repositoryEvents.mp h) with
      | processed _ hflow => exact absurd hflow (hnone _ _ _)

/-- The receipts that are reported again cover every received job. -/
lemma pendingReceipts_cover {env : Env} {db db' : Database} {events : List RepositoryEvent}
    {stored : List (StoredPrintJob Json.Value)} {messages : List AgentMessage}
    (hread : env.call config .pending (env.clock 0) db = ⟨.ok stored, db', events⟩)
    (hmessages : pendingReceipts config env stored = .ok messages) {row : PrintJobRow}
    (hrow : row ∈ db.jobs) (hstate : row.state = .received) :
    ∃ message ∈ messages, receivedJobId message = some row.jobId.value := by
  obtain ⟨job, hjob, hload⟩ :=
    exists_right_of_forall₂ (call_pending_ok hread) (mem_pendingRows.mpr ⟨hrow, hstate⟩)
  unfold pendingReceipts at hmessages
  cases hall : stored.zipIdx.mapM fun (p : StoredPrintJob Json.Value × ℕ) =>
      receivedMessageForStored config.toLibraries p.1 (env.uuid p.2) (env.clock p.2) with
  | error e =>
      rw [hall] at hmessages
      cases hmessages
  | ok all =>
      rw [hall] at hmessages
      cases hmessages
      obtain ⟨i, hi⟩ := List.mem_iff_getElem?.mp hjob
      have hmem : (job, i) ∈ stored.zipIdx := List.mk_mem_zipIdx_iff_getElem?.mpr hi
      obtain ⟨message, hmessage, hok⟩ := exists_right_of_forall₂ (forall₂_of_mapM hall) hmem
      refine ⟨message, hmessage, ?_⟩
      rw [(agentMessage_ok hok).1, receivedJobId, statusEnvelope, (loadJob_ok hload).id]

lemma AcknowledgeInvariant.acknowledging_step (hinv : AcknowledgeInvariant h agent)
    (hstep : AgentStep config agent action effects agent') {receipt : ReceiveJobOutcome}
    {message : AgentMessage} (hflow : agent'.flow = .acknowledging receipt message) :
    receipt.acknowledgement = some message := by
  cases hstep with
  | received _ hack =>
      cases hflow
      exact hack
  | restarted => simp [Agent.restart] at hflow
  | _ => first | exact hinv.acknowledging _ _ hflow | cases hflow

lemma AcknowledgeInvariant.reporting_step (hinv : AcknowledgeInvariant h agent)
    (hstep : AgentStep config agent action effects agent') {call : Call}
    {messages : List AgentMessage} (hflow : agent'.flow = .reportingReceipts call messages)
    {row : PrintJobRow} (hrow : row ∈ agent'.db.jobs) (hstate : row.state = .received) :
    Acknowledged row.jobId (h ++ effects) ∨
      ∃ message ∈ messages, receivedJobId message = some row.jobId.value := by
  -- a step beside the flow leaves its messages and the received jobs alone
  have hbeside : agent.flow = .reportingReceipts call messages →
      Acknowledged row.jobId (h ++ effects) ∨
        ∃ message ∈ messages, receivedJobId message = some row.jobId.value := by
    intro hsame
    have hold := hstep.received_of_reporting (by simp [hsame]) (by simp [hflow]) (by simp [hsame])
      hrow hstate
    exact (hinv.reporting _ _ hsame row hold hstate).imp_left fun hack =>
      hack.append fun _ => hstep.noInsertion (by simp [hsame])
  cases hstep with
  | receiptsRead hread hmessages =>
      cases hflow
      exact Or.inr (pendingReceipts_cover hread hmessages hrow hstate)
  | @receiptReported _ _ _ _ _ reported _ =>
      cases hflow
      rcases hinv.reporting _ _ rfl row hrow hstate with hack | ⟨message, hmem, hid⟩
      · exact Or.inl (hack.append (by simp))
      · rcases List.mem_cons.mp hmem with rfl | hmem
        · exact Or.inl (acknowledged_of_handed hid)
        · exact Or.inr ⟨message, hmem, hid⟩
  | restarted => simp [Agent.restart] at hflow
  | _ => first | exact hbeside hflow | cases hflow

lemma AcknowledgeInvariant.reading_step (hinv : AcknowledgeInvariant h agent)
    (hstep : AgentStep config agent action effects agent') {call : Call}
    (hflow : agent'.flow = .reading call) :
    AllAcknowledged (h ++ effects) agent'.db ∨
      ∃ receipt, call = .handlePrintJob receipt ∧
        ∀ id, receipt.Acknowledges id → Acknowledged id (h ++ effects) := by
  have hbeside : agent.flow = .reading call →
      AllAcknowledged (h ++ effects) agent'.db ∨
        ∃ receipt, call = .handlePrintJob receipt ∧
          ∀ id, receipt.Acknowledges id → Acknowledged id (h ++ effects) := by
    intro hsame
    have hnone : ∀ row, .repository (.inserted row) ∉ effects := fun _ =>
      hstep.noInsertion (by simp [hsame])
    refine (hinv.reading _ hsame).imp (fun hall row hrow hstate => ?_) ?_
    · have hold := hstep.received_of_reporting (by simp [hsame]) (by simp [hflow]) (by simp [hsame])
        hrow hstate
      exact (hall row hold hstate).append hnone
    · rintro ⟨receipt, rfl, hown⟩
      exact ⟨receipt, rfl, fun id hid => (hown id hid).append hnone⟩
  cases hstep with
  | acknowledged =>
      cases hflow
      have hack := hinv.acknowledging _ _ rfl
      refine Or.inr ⟨_, rfl, fun id hid => acknowledged_of_handed ?_⟩
      rwa [ReceiveJobOutcome.Acknowledges, hack, Option.bind_some] at hid
  | receiptsDone =>
      cases hflow
      refine Or.inl fun row hrow hstate => ?_
      rcases hinv.reporting _ _ rfl row hrow hstate with hack | ⟨message, hmem, -⟩
      · exact hack.append (by simp)
      · simp at hmem
  | restarted => simp [Agent.restart] at hflow
  | _ => first | exact hbeside hflow | cases hflow

lemma AcknowledgeInvariant.held_step (hinv : AcknowledgeInvariant h agent)
    (hok : OthersAcknowledged h agent action)
    (hstep : AgentStep config agent action effects agent') {stored : StoredPrintJob Json.Value}
    (hheld : stored ∈ agent'.flow.held) : Acknowledged stored.id (h ++ effects) := by
  cases hstep.held hheld with
  | held hold =>
      have hbusy : agent.flow ≠ .idle := by
        intro hidle
        simp [hidle, Flow.held] at hold
      exact (hinv.held stored hold).append fun _ => hstep.noInsertion hbusy
  | @snapshot env call row haction hflow _ hrow hstate hread =>
      have hbusy : agent.flow ≠ .idle := by simp [hflow]
      refine Acknowledged.append ?_ fun _ => hstep.noInsertion hbusy
      rw [hread.id]
      rcases hinv.reading _ hflow with hall | ⟨receipt, rfl, hown⟩
      · exact hall row hrow hstate
      · have hothers := hok (by simp [haction, Action.isAdvance]) receipt
          (by simp [hflow, Flow.reportedReceipt]) row hrow hstate
        exact hothers.elim (hown row.jobId) id

lemma AcknowledgeInvariant.law_step (hinv : AcknowledgeInvariant h agent)
    (hstep : AgentStep config agent action effects agent') :
    EachAfter AcknowledgedFirst (h ++ effects) := by
  refine eachAfter_append.mpr ⟨hinv.law, fun past e rest heffects => ?_⟩
  have hmem : e ∈ effects := by simp [heffects]
  -- what is shown of a job in processing is shown of a job in hand
  have hprocessed : ∀ {drain stored stage}, agent.flow = .processing drain stored stage →
      Acknowledged stored.id (h ++ past) := by
    intro drain stored stage hflow
    have hbusy : agent.flow ≠ .idle := by simp [hflow]
    refine (hinv.held stored (by simp [hflow, Flow.held])).append fun row hrow => ?_
    exact hstep.noInsertion hbusy (heffects ▸ List.mem_append_left _ hrow)
  cases e with
  | repository event =>
      cases hstep.shows hmem with
      | processed _ hflow => exact Or.inr (hprocessed hflow)
      | cancelled => exact Or.inl rfl
      | committed _ hflow hid =>
          simp only [AcknowledgedFirst, hid]
          exact hprocessed hflow
      | _ => trivial
  | _ => trivial

/-- **One step keeps the invariant.** -/
lemma AcknowledgeInvariant.step (hinv : AcknowledgeInvariant h agent)
    (hok : OthersAcknowledged h agent action)
    (hstep : AgentStep config agent action effects agent') :
    AcknowledgeInvariant (h ++ effects) agent' where
  acknowledging _ _ hflow := hinv.acknowledging_step hstep hflow
  reporting _ _ hflow _ hrow hstate := hinv.reporting_step hstep hflow hrow hstate
  reading _ hflow := hinv.reading_step hstep hflow
  held _ hheld := hinv.held_step hok hstep hheld
  law := hinv.law_step hstep

end Step

/-- **Acknowledge before processing**, in every run in which `handle_print_job` finds no other
received job unacknowledged when it takes its snapshot. -/
theorem acknowledged_before_processing {h : List Effect} {agent : Agent}
    (hrun : (agentSystem config).Runs OthersAcknowledged .initial h agent) :
    EachAfter AcknowledgedFirst h :=
  (hrun.invariant (I := AcknowledgeInvariant) .initial fun _ _ _ _ _ _ hinv hok hstep =>
    hinv.step hok (step_cases hstep)).law

/-! ## With and without the condition -/

namespace Sample

/-- The report of the receipt of the first job fails; `process_pending` makes up for it. -/
def reportedAgain : List Action :=
  [.handlePrintJob (delivery "job_1") (env 1), .advance { env 2 with delivered := false },
    .processPending] ++ advances 3 12

/-- The same failure, followed by the delivery of a second job. -/
def neverReported : List Action :=
  [.handlePrintJob (delivery "job_1") (env 1), .advance { env 2 with delivered := false },
    .handlePrintJob (delivery "job_2") (env 3)] ++ advances 4 4

end Sample

/-- A job whose report failed at first is acknowledged before it is claimed. -/
theorem acknowledged_before_processing_again :
    let r := (agentSystem (Sample.config [])).run (fun h a x => decide (OthersAcknowledged h a x))
      .initial Sample.reportedAgain
    .submitReturned Sample.firstId true ∈ r.1 ∧
      EachAfter AcknowledgedFirst r.1 :=
  ⟨by decide +kernel,
    acknowledged_before_processing (System.runs_run (fun _ _ _ => of_decide_eq_true) _)⟩

/-- **A job is processed although its receipt was never acknowledged.** -/
theorem processed_unacknowledged :
    ¬ ∀ (config : AgentConfig) (h : List Effect) (agent : Agent),
      (agentSystem config).Runs anyStep .initial h agent → EachAfter AcknowledgedFirst h := by
  intro hall
  have hlaw := hall (Sample.config []) (Sample.run [] Sample.neverReported).1 _
    (System.runs_run (fun _ _ _ _ => trivial) _)
  revert hlaw
  decide +kernel

end Oppa
