import Oppa.Agent.Custody

/-!
# The outbox is replayed in order

What one call of `replay_outbound_reports` reports, removes and leaves, with the rest of the agent
moving between any two of its awaits.

* `Course` — one call among the steps of the others, as long as none of those commits a status.  It
  counts the steps of the call and knows whether one of them was failed by the surroundings.
* `Delivered` — what the call has reported and removed: rows of the outbox, oldest first.
* `Outcome` — where the call stands, or how it ended.
* `Upcoming` — the rows of a batch that are still to report.

**`replay_in_order`** says that every course has an outcome, within four steps a row, and that a call
that has not ended can always go on.
-/

namespace Oppa

open History Protocol

/-! ## The tables under other calls -/

section Tables

variable {Value : Type} {storage : SqliteStorage Value} {db db' : Database}
  {es : List RepositoryEvent}

lemma Commits.outbox (hcommits : Commits storage db es db') :
    db'.outbox = es.foldl replayOutbox db.outbox := by
  induction hcommits with
  | nil => rfl
  | commit _ hcommit ih => rw [hcommit.outbox, ih, List.foldl_append]

/-- Without a new status the outbox gains no row. -/
lemma Commits.outbox_subset (hcommits : Commits storage db es db')
    (hnone : ∀ status, .committed status ∉ es) : db'.outbox ⊆ db.outbox := by
  rw [hcommits.outbox]
  clear hcommits
  induction es using List.reverseRecOn with
  | nil => exact List.Subset.refl _
  | append_singleton es e ih =>
      intro status hmem
      rw [List.foldl_append, List.foldl_cons, List.foldl_nil, mem_replayOutbox] at hmem
      rcases hmem with rfl | ⟨hmem, -⟩
      · exact absurd (by simp) (hnone status)
      · exact ih (fun status hes => hnone status (List.mem_append_left _ hes)) hmem

lemma OutboxRow.uniqueBy_createdRank : Table.UniqueBy OutboxRow.createdRank db.outbox := by
  refine List.Nodup.of_map (fun rank => (ofLex rank).2) ?_
  rw [List.map_map]
  exact db.messageIds

end Tables

/-! ## One call among the others -/

variable {config : AgentConfig}

/-- The report of a row, once it has been read and checked. -/
def AgentConfig.reportOf (config : AgentConfig) (row : OutboxRow) :
    Except AgentRuntimeError AgentMessage := do
  let status ← (loadStatus config.storage.codec row).mapError fun e => .processing (.storage e)
  Agent.replayedMessage config status

/-- Whether the surroundings and the rows let the next step of the replay succeed. -/
def Agent.answers (config : AgentConfig) (env : Env) (agent : Agent) : Bool :=
  match agent.replay with
  | .idle | .delivering _ _ [] => true
  | .reading _ =>
      decide (env.fault = .absent) &&
        (pendingOutboundStatuses config.storage.codec Agent.defaultOutboundStatusBatchSize
          agent.db).isOk
  | .delivering _ _ (status :: _) =>
      env.delivered && (Agent.replayedMessage config status).isOk
  | .confirming _ _ _ _ => decide (env.fault = .absent)

/-- The steps of the other calls. -/
def Action.OfOthers : Action → Prop
  | .replayOutboundReports | .advanceReplay _ | .restart _ _ => False
  | _ => True

/-- One call of `replay_outbound_reports` from `start` on, among calls that commit no status: how
many steps it has taken, whether one of them failed, the rows other calls removed meanwhile, what the
call has shown, and the agent then. -/
inductive Course (config : AgentConfig) (start : Agent) :
    ℕ → Bool → List OutboxRow → List Effect → Agent → Prop
  | started {agent effects} :
      start.step config .replayOutboundReports = some (agent, effects) →
      Course config start 0 false [] effects agent
  | advanced {steps failed withdrawn effects agent env agent' es} :
      Course config start steps failed withdrawn effects agent →
      agent.step config (.advanceReplay env) = some (agent', es) →
      Course config start (steps + 1) (failed || !agent.answers config env) withdrawn
        (effects ++ es) agent'
  | moved {steps failed withdrawn effects agent action agent' es} :
      Course config start steps failed withdrawn effects agent →
      action.OfOthers → agent.step config action = some (agent', es) →
      (∀ status, .repository (.committed status) ∉ es) →
      Course config start steps failed
        (withdrawn ++ agent.db.outbox.filter fun row => row ∉ agent'.db.outbox) effects agent'

/-! ## What a call has done -/

/-- What a call shows of statuses it has reported and removed, one at a time. -/
def transcript (messages : List AgentMessage) : List Effect :=
  messages.flatMap fun message => [.handed message true, .repository (.acknowledged message.messageId)]

@[simp] lemma transcript_nil : transcript [] = [] := rfl

lemma transcript_concat (messages : List AgentMessage) (message : AgentMessage) :
    transcript (messages ++ [message]) = transcript messages ++
      [.handed message true, .repository (.acknowledged message.messageId)] := by
  simp [transcript]

/-- `messages` are the reports of `rows`, which are the oldest rows of the outbox, in order. -/
structure Delivered (config : AgentConfig) (outbox withdrawn rows : List OutboxRow)
    (messages : List AgentMessage) : Prop where
  reports : List.Forall₂ (fun row message => config.reportOf row = .ok message) rows messages
  present : rows ⊆ outbox
  inOrder : rows.Pairwise fun a b => a.createdRank < b.createdRank
  oldest : ∀ row ∈ outbox, row ∉ rows → row ∉ withdrawn →
    ∀ earlier ∈ rows, earlier.createdRank < row.createdRank

/-- Of the rows of `outbox`, `left` are all but those in `removed` and in `withdrawn`. -/
def Leaves (outbox withdrawn removed left : List OutboxRow) : Prop :=
  ∀ row, row ∈ left ↔ row ∈ outbox ∧ row ∉ removed ∧ row ∉ withdrawn

/-- Where a call stands that found `outbox`, or how it ended. -/
inductive Outcome (config : AgentConfig) (outbox withdrawn : List OutboxRow) :
    Bool → List Effect → Agent → Prop
  /-- Between two rows. -/
  | underway {rows messages agent} :
      Delivered config outbox withdrawn rows messages →
      Leaves outbox withdrawn rows agent.db.outbox → agent.replaying = true →
      Outcome config outbox withdrawn false (transcript messages) agent
  /-- The next row has been reported and is still in place. -/
  | reported {rows messages row message agent} :
      Delivered config outbox withdrawn (rows ++ [row]) (messages ++ [message]) →
      Leaves outbox withdrawn rows agent.db.outbox → agent.replaying = true →
      Outcome config outbox withdrawn false (transcript messages ++ [.handed message true]) agent
  /-- The call has returned how many rows it reported, and every row is gone. -/
  | finished {rows messages agent} :
      Delivered config outbox withdrawn rows messages →
      (∀ row ∈ outbox, row ∈ rows ∨ row ∈ withdrawn) → agent.db.outbox = [] →
      agent.replaying = false →
      Outcome config outbox withdrawn false
        (transcript messages ++ [.replayReturned (.ok rows.length)]) agent
  /-- The rows that follow could not be read, the next one is not a status, or the store did not
  answer after it had removed the last one. -/
  | halted {rows messages e agent} :
      Delivered config outbox withdrawn rows messages →
      Leaves outbox withdrawn rows agent.db.outbox → agent.replaying = false →
      Outcome config outbox withdrawn true
        (transcript messages ++ [.replayReturned (.error e)]) agent
  /-- The next row was not taken. -/
  | refused {rows messages row message agent} :
      Delivered config outbox withdrawn (rows ++ [row]) (messages ++ [message]) →
      Leaves outbox withdrawn rows agent.db.outbox → agent.replaying = false →
      Outcome config outbox withdrawn true
        (transcript messages ++
          [.handed message false, .replayReturned (.error (.reporting message))]) agent
  /-- The next row was taken and not removed. -/
  | unremoved {rows messages row message e agent} :
      Delivered config outbox withdrawn (rows ++ [row]) (messages ++ [message]) →
      Leaves outbox withdrawn rows agent.db.outbox → agent.replaying = false →
      Outcome config outbox withdrawn true
        (transcript messages ++ [.handed message true, .replayReturned (.error e)]) agent

/-! ## What has been done stays done -/

section Done

variable {outbox withdrawn withdrawn' rows queue left left' : List OutboxRow}
  {messages : List AgentMessage} {row : OutboxRow} {message : AgentMessage} {limit : ℕ}

lemma reportOf_ok (hreport : config.reportOf row = .ok message) :
    message.messageId = row.messageId ∧ message.validate = .ok () := by
  simp only [AgentConfig.reportOf, Agent.replayedMessage, Result.bind_eq_ok,
    Result.mapError_eq_ok] at hreport
  obtain ⟨status, hstatus, read, hread, ⟨⟩, hvalid, ⟨⟩, hmatches, hmessage⟩ := hreport
  cases hmessage
  have hid : status.messageId = row.messageId := by
    unfold loadStatus at hstatus
    split at hstatus
    · cases hstatus
      rfl
    · cases hstatus
  refine ⟨?_, hvalid⟩
  rw [← hid]
  by_contra hne
  rw [validateOutboundStatus, if_pos hne] at hmatches
  cases hmatches

lemma Delivered.withdraw (hdelivered : Delivered config outbox withdrawn rows messages)
    (hmore : withdrawn ⊆ withdrawn') : Delivered config outbox withdrawn' rows messages where
  reports := hdelivered.reports
  present := hdelivered.present
  inOrder := hdelivered.inOrder
  oldest row hrow hnot hkept := hdelivered.oldest row hrow hnot fun hmem => hkept (hmore hmem)

lemma Leaves.withdraw (hleaves : Leaves outbox withdrawn rows left) (hfewer : left' ⊆ left) :
    Leaves outbox (withdrawn ++ left.filter fun row => row ∉ left') rows left' := by
  intro row
  have hrow := hleaves row
  have hless : row ∈ left' → row ∈ left := fun hmem => hfewer hmem
  simp only [List.mem_append, List.mem_filter, decide_eq_true_eq]
  tauto

/-- The rows of a batch that are still to report: none of the rows that are left comes before one
of them, and a batch below the limit has them all. -/
structure Upcoming (outbox left : List OutboxRow) (batchLen : ℕ) (rows queue : List OutboxRow) :
    Prop where
  present : queue ⊆ outbox
  inOrder : (rows ++ queue).Pairwise fun a b => a.createdRank < b.createdRank
  later : ∀ row ∈ left, row ∉ queue → ∀ earlier ∈ queue, earlier.createdRank < row.createdRank
  last : batchLen < Agent.defaultOutboundStatusBatchSize → ∀ row ∈ left, row ∈ queue

lemma Upcoming.withdraw (hupcoming : Upcoming outbox left limit rows queue) (hfewer : left' ⊆ left) :
    Upcoming outbox left' limit rows queue where
  present := hupcoming.present
  inOrder := hupcoming.inOrder
  later row hrow := hupcoming.later row (hfewer hrow)
  last hshort row hrow := hupcoming.last hshort row (hfewer hrow)

/-- The next row of a batch is the oldest one that is left. -/
lemma Delivered.concat (hdelivered : Delivered config outbox withdrawn rows messages)
    (hleaves : Leaves outbox withdrawn rows left)
    (hupcoming : Upcoming outbox left limit rows (row :: queue))
    (hreport : config.reportOf row = .ok message) :
    Delivered config outbox withdrawn (rows ++ [row]) (messages ++ [message]) where
  reports := List.rel_append hdelivered.reports (.cons hreport .nil)
  present := by
    rw [List.append_subset]
    exact ⟨hdelivered.present, List.cons_subset.mpr
      ⟨hupcoming.present List.mem_cons_self, List.nil_subset _⟩⟩
  inOrder := by
    refine hupcoming.inOrder.sublist (List.Sublist.append_left ?_ _)
    exact List.singleton_sublist.mpr List.mem_cons_self
  oldest other hother hnot hkept earlier hearlier := by
    rw [List.mem_append, List.mem_singleton, not_or] at hnot
    have hleft : other ∈ left := (hleaves other).mpr ⟨hother, hnot.1, hkept⟩
    rcases List.mem_append.mp hearlier with hrows | hhead
    · exact hdelivered.oldest other hother hnot.1 hkept earlier hrows
    · obtain rfl := List.mem_singleton.mp hhead
      by_cases hqueue : other ∈ queue
      · have hsorted := (List.pairwise_append.mp hupcoming.inOrder).2.1
        exact (List.pairwise_cons.mp hsorted).1 other hqueue
      · refine hupcoming.later other hleft ?_ earlier List.mem_cons_self
        rw [List.mem_cons, not_or]
        exact ⟨hnot.2, hqueue⟩

/-- A row that is removed by its message id is the only one that goes. -/
lemma Leaves.remove (hleaves : Leaves outbox withdrawn rows left) (hrow : row ∈ outbox)
    (hunique : Table.UniqueBy OutboxRow.messageId outbox) :
    Leaves outbox withdrawn (rows ++ [row])
      (Table.dropKeys OutboxRow.messageId [row.messageId] left) := by
  intro other
  rw [Table.mem_dropKeys, hleaves other, List.mem_append, List.mem_singleton, List.mem_singleton]
  constructor
  · rintro ⟨⟨hother, hnot, hkept⟩, hid⟩
    refine ⟨hother, ?_, hkept⟩
    rintro (hmem | rfl)
    · exact hnot hmem
    · exact hid rfl
  · rintro ⟨hother, hnot, hkept⟩
    rw [not_or] at hnot
    exact ⟨⟨hother, hnot.1, hkept⟩, fun hid => hnot.2 (hunique.eq_of_key_eq hother hrow hid)⟩

lemma Upcoming.remove (hupcoming : Upcoming outbox left limit rows (row :: queue)) :
    Upcoming outbox (Table.dropKeys OutboxRow.messageId [row.messageId] left) limit
      (rows ++ [row]) queue where
  present := (List.cons_subset.mp hupcoming.present).2
  inOrder := by
    rw [List.append_assoc]
    exact hupcoming.inOrder
  later other hother hnot earlier hearlier := by
    obtain ⟨hleft, hid⟩ := Table.mem_dropKeys.mp hother
    refine hupcoming.later other hleft ?_ earlier (List.mem_cons_of_mem _ hearlier)
    rw [List.mem_cons, not_or]
    refine ⟨?_, hnot⟩
    rintro rfl
    exact hid (List.mem_singleton_self _)
  last hshort other hother := by
    obtain ⟨hleft, hid⟩ := Table.mem_dropKeys.mp hother
    rcases List.mem_cons.mp (hupcoming.last hshort other hleft) with rfl | hqueue
    · exact absurd (List.mem_singleton_self _) hid
    · exact hqueue

end Done

/-! ## The invariant -/

/-- The statuses a batch was read into. -/
def Loads (config : AgentConfig) (queue : List OutboxRow)
    (statuses : List (StoredOutboundStatus Json.Value)) : Prop :=
  List.Forall₂ (fun row status => loadStatus config.storage.codec row = .ok status) queue statuses

/-- What the rows already reported say of the state of a call that goes on. -/
structure Reported (config : AgentConfig) (outbox withdrawn left rows : List OutboxRow)
    (messages : List AgentMessage) (delivered : ℕ) : Prop where
  done : Delivered config outbox withdrawn rows messages
  leaves : Leaves outbox withdrawn rows left
  count : delivered = rows.length

/-- Where a call stands after so many steps, with what it has shown. -/
inductive Position (config : AgentConfig) (outbox withdrawn left : List OutboxRow) :
    ℕ → List Effect → Replay → Prop
  | reading {rows messages delivered steps} :
      Reported config outbox withdrawn left rows messages delivered → steps ≤ 4 * rows.length →
      Position config outbox withdrawn left steps (transcript messages) (.reading delivered)
  | delivering {rows messages delivered steps taken batchLen queue statuses} :
      Reported config outbox withdrawn left rows messages delivered →
      Upcoming outbox left batchLen rows queue → Loads config queue statuses →
      batchLen = taken + statuses.length → 0 < batchLen →
      steps + 2 * taken ≤ 4 * rows.length + 1 →
      Position config outbox withdrawn left steps (transcript messages)
        (.delivering delivered batchLen statuses)
  | confirming {rows messages delivered steps taken batchLen row message queue statuses} :
      Reported config outbox withdrawn left rows messages delivered →
      Upcoming outbox left batchLen rows (row :: queue) →
      config.reportOf row = .ok message → Loads config queue statuses →
      batchLen = taken + 1 + statuses.length → steps + 2 * taken ≤ 4 * rows.length + 2 →
      Position config outbox withdrawn left steps (transcript messages ++ [.handed message true])
        (.confirming delivered batchLen message statuses)

/-- Either the call goes on, or it has ended. -/
def ReplayInvariant (config : AgentConfig) (outbox withdrawn : List OutboxRow) (steps : ℕ)
    (failed : Bool) (effects : List Effect) (agent : Agent) : Prop :=
  (failed = false ∧
      Position config outbox withdrawn agent.db.outbox steps effects agent.replay) ∨
    (agent.replaying = false ∧ Outcome config outbox withdrawn failed effects agent ∧
      steps ≤ 4 * (outbox.length + 1))

section Invariant

variable {outbox withdrawn : List OutboxRow} {steps delivered : ℕ} {rows : List OutboxRow}
  {messages : List AgentMessage} {failed : Bool} {effects : List Effect} {agent agent' : Agent}
  {left left' : List OutboxRow}

lemma Reported.withdraw (hreported : Reported config outbox withdrawn left rows messages delivered)
    (hfewer : left' ⊆ left) :
    Reported config outbox (withdrawn ++ left.filter fun row => row ∉ left') left' rows messages
      delivered where
  done := hreported.done.withdraw (List.subset_append_left _ _)
  leaves := hreported.leaves.withdraw hfewer
  count := hreported.count

lemma Position.withdraw {replay : Replay}
    (hposition : Position config outbox withdrawn left steps effects replay)
    (hfewer : left' ⊆ left) :
    Position config outbox (withdrawn ++ left.filter fun row => row ∉ left') left' steps effects
      replay := by
  cases hposition with
  | reading hreported hsteps => exact .reading (hreported.withdraw hfewer) hsteps
  | delivering hreported hupcoming hloads hlen hsome hsteps =>
      exact .delivering (hreported.withdraw hfewer) (hupcoming.withdraw hfewer) hloads hlen hsome
        hsteps
  | confirming hreported hupcoming hreport hloads hlen hsteps =>
      exact .confirming (hreported.withdraw hfewer) (hupcoming.withdraw hfewer) hreport hloads hlen
        hsteps

lemma Outcome.withdraw (houtcome : Outcome config outbox withdrawn failed effects agent)
    (hfewer : agent'.db.outbox ⊆ agent.db.outbox) (hsame : agent'.replaying = agent.replaying) :
    Outcome config outbox
      (withdrawn ++ agent.db.outbox.filter fun row => row ∉ agent'.db.outbox) failed effects
      agent' := by
  have hmore := List.subset_append_left withdrawn
    (agent.db.outbox.filter fun row => row ∉ agent'.db.outbox)
  cases houtcome with
  | underway hdelivered hleaves hstate =>
      exact .underway (hdelivered.withdraw hmore) (hleaves.withdraw hfewer) (hsame.trans hstate)
  | reported hdelivered hleaves hstate =>
      exact .reported (hdelivered.withdraw hmore) (hleaves.withdraw hfewer) (hsame.trans hstate)
  | finished hdelivered hall hempty hstate =>
      refine .finished (hdelivered.withdraw hmore) ?_ ?_ (hsame.trans hstate)
      · intro row hrow
        exact (hall row hrow).imp id fun hmem => hmore hmem
      · rw [hempty] at hfewer
        exact List.subset_nil.mp hfewer
  | halted hdelivered hleaves hstate =>
      exact .halted (hdelivered.withdraw hmore) (hleaves.withdraw hfewer) (hsame.trans hstate)
  | refused hdelivered hleaves hstate =>
      exact .refused (hdelivered.withdraw hmore) (hleaves.withdraw hfewer) (hsame.trans hstate)
  | unremoved hdelivered hleaves hstate =>
      exact .unremoved (hdelivered.withdraw hmore) (hleaves.withdraw hfewer) (hsame.trans hstate)

/-- A call does not report more rows than there were. -/
lemma Delivered.length_le (hdelivered : Delivered config outbox withdrawn rows messages) :
    rows.length ≤ outbox.length := by
  have hnodup : rows.Nodup := hdelivered.inOrder.imp fun hlt heq => by
    subst heq
    exact lt_irrefl _ hlt
  exact (List.subperm_of_subset hnodup hdelivered.present).length_le

end Invariant

/-! ## The steps -/

/-- The steps of other calls leave the replay alone. -/
lemma AgentStep.replay_eq {agent agent' : Agent} {action : Action} {effects : List Effect}
    (hstep : AgentStep config agent action effects agent') (hothers : action.OfOthers) :
    agent'.replay = agent.replay := by
  cases hstep <;> first | rfl | exact hothers.elim

/-- What a status that no effect commits means for the outbox. -/
lemma AgentStep.outbox_subset {agent agent' : Agent} {action : Action} {effects : List Effect}
    (hstep : AgentStep config agent action effects agent')
    (hnone : ∀ status, .repository (.committed status) ∉ effects) :
    agent'.db.outbox ⊆ agent.db.outbox := by
  refine hstep.commits.outbox_subset fun status hmem => hnone status ?_
  exact mem_repositoryEvents.mp hmem

section Steps

variable {env : Env} {db : Database} {active : List (PrintJobId × Bool)} {flow : Flow}
  {outbox withdrawn rows : List OutboxRow} {messages : List AgentMessage} {steps delivered : ℕ}
  {agent' : Agent} {es : List Effect}

/-- A call answers exactly if nothing interferes and the operation succeeds. -/
lemma call_result_ok {α : Type} {op : Operation Json.Value α} {now : Timestamp} {a : α} :
    (env.call config op now db).result = .ok a ↔
      env.fault = .absent ∧ (op.run config.storage now db).1 = .ok a := by
  unfold Env.call
  cases env.fault <;> simp [workerStopped]

/-- A status that is valid can be removed from the outbox. -/
lemma run_acknowledge (config : AgentConfig) {message : AgentMessage}
    (hvalid : message.validate = .ok ()) (now : Timestamp) (db : Database) :
    (Operation.acknowledgeOutboundStatus message.messageId : Operation Json.Value Bool).run
        config.storage now db =
      (.ok (db.outbox.any fun status => status.messageId = message.messageId),
        db.deleteStatus message.messageId) := by
  have hid : Protocol.validateIdentifier message.messageId "messageId" 128 = .ok () := by
    simp only [AgentMessage.validate, validateEnvelope, andThen_eq_ok] at hvalid
    exact hvalid.1.1
  have hkey : validateKey "outbound message id" message.messageId 128 = .ok () :=
    validateKey_of_identifier hid
  simp only [Operation.run, acknowledgeOutboundStatus, hkey]

lemma events_acknowledge (config : AgentConfig) {message : AgentMessage}
    (hvalid : message.validate = .ok ()) (now : Timestamp) (db : Database) :
    (Operation.acknowledgeOutboundStatus message.messageId : Operation Json.Value Bool).events
        config.storage now db = [.acknowledged message.messageId] := by
  simp only [Operation.events, run_acknowledge config hvalid now db, effectsOf, Operation.effects]

lemma loads_of_read {limit : ℕ} {statuses : List (StoredOutboundStatus Json.Value)}
    (hread : pendingOutboundStatuses config.storage.codec limit db = .ok statuses) :
    Loads config (Table.oldest OutboxRow.createdRank limit db.outbox) statuses := by
  unfold pendingOutboundStatuses at hread
  split at hread
  · cases hread
  split at hread
  · cases hread
  exact Result.mapM_eq_ok.mp hread

/-- A batch that has just been read holds the oldest rows that are left. -/
lemma Reported.upcoming
    (hreported : Reported config outbox withdrawn db.outbox rows messages delivered) {limit : ℕ}
    (hlimit : limit = Agent.defaultOutboundStatusBatchSize) :
    Upcoming outbox db.outbox (Table.oldest OutboxRow.createdRank limit db.outbox).length rows
      (Table.oldest OutboxRow.createdRank limit db.outbox) where
  present row hrow := ((hreported.leaves row).mp (Table.mem_of_mem_oldest hrow)).1
  inOrder := by
    refine List.pairwise_append.mpr ⟨hreported.done.inOrder,
      Table.pairwise_lt_oldest OutboxRow.uniqueBy_createdRank, ?_⟩
    intro earlier hearlier row hrow
    obtain ⟨hpresent, hnot, hkept⟩ := (hreported.leaves row).mp (Table.mem_of_mem_oldest hrow)
    exact hreported.done.oldest row hpresent hnot hkept earlier hearlier
  later row hrow hnot earlier hearlier :=
    Table.rank_lt_of_mem_oldest OutboxRow.uniqueBy_createdRank hearlier hrow hnot
  last hshort row hrow := by
    subst hlimit
    exact Table.mem_oldest_of_length_lt hshort hrow

/-- A call that leaves no row has reported all that were not withdrawn. -/
lemma Reported.finished
    (hreported : Reported config outbox withdrawn db.outbox rows messages delivered)
    (hnone : db.outbox = []) :
    Outcome config outbox withdrawn false
      (transcript messages ++ [.replayReturned (.ok delivered)]) ⟨db, active, flow, .idle⟩ := by
  rw [hreported.count]
  refine .finished hreported.done ?_ hnone rfl
  intro row hrow
  by_contra hkept
  rw [not_or] at hkept
  have hmem := (hreported.leaves row).mpr ⟨hrow, hkept⟩
  rw [hnone] at hmem
  exact absurd hmem List.not_mem_nil

/-- A batch is read. -/
lemma Reported.read
    (hreported : Reported config outbox withdrawn db.outbox rows messages delivered)
    (hsteps : steps ≤ 4 * rows.length)
    (hstep : (⟨db, active, flow, .reading delivered⟩ : Agent).replayStep config env =
      some (agent', es)) :
    ReplayInvariant config outbox withdrawn (steps + 1)
      (!(⟨db, active, flow, .reading delivered⟩ : Agent).answers config env)
      (transcript messages ++ es) agent' := by
  have hbound := hreported.done.length_le
  simp only [Agent.replayStep, Agent.readBatch, Option.some.injEq] at hstep
  cases hresult : (env.call config (.pendingOutboundStatuses Agent.defaultOutboundStatusBatchSize)
    (env.clock 0) db).result with
  | error e =>
      have hfails : (⟨db, active, flow, .reading delivered⟩ : Agent).answers config env = false := by
        by_contra hanswers
        rw [Bool.not_eq_false] at hanswers
        simp only [Agent.answers, Bool.and_eq_true, decide_eq_true_eq] at hanswers
        cases hread : pendingOutboundStatuses config.storage.codec
          Agent.defaultOutboundStatusBatchSize db with
        | error e' =>
            rw [hread] at hanswers
            exact absurd hanswers.2 (by simp [Except.isOk, Except.toBool])
        | ok statuses =>
            have hok : (env.call config (.pendingOutboundStatuses
                Agent.defaultOutboundStatusBatchSize) (env.clock 0) db).result = .ok statuses :=
              call_result_ok.mpr ⟨hanswers.1, hread⟩
            rw [hresult] at hok
            cases hok
      simp only [hresult, Agent.returnReplay, List.nil_append, Prod.mk.injEq] at hstep
      obtain ⟨rfl, rfl⟩ := hstep
      rw [hfails]
      exact .inr ⟨rfl, .halted hreported.done hreported.leaves rfl, by omega⟩
  | ok statuses =>
      obtain ⟨hfault, hread⟩ := call_result_ok.mp hresult
      have hread : pendingOutboundStatuses config.storage.codec
        Agent.defaultOutboundStatusBatchSize db = .ok statuses := hread
      have hanswers : (⟨db, active, flow, .reading delivered⟩ : Agent).answers config env = true := by
        simp only [Agent.answers, hfault, hread, decide_true, Bool.true_and]
        rfl
      have hloads := loads_of_read hread
      rw [hanswers]
      cases statuses with
      | nil =>
          simp only [hresult, Agent.returnReplay, List.nil_append, Prod.mk.injEq] at hstep
          obtain ⟨rfl, rfl⟩ := hstep
          have hnone : db.outbox = [] := by
            have hlength := hloads.length_eq
            rw [Table.length_oldest, Agent.defaultOutboundStatusBatchSize, List.length_nil]
              at hlength
            exact List.length_eq_zero_iff.mp (by omega)
          exact .inr ⟨rfl, hreported.finished hnone, by omega⟩
      | cons status statuses =>
          simp only [hresult, Prod.mk.injEq] at hstep
          obtain ⟨rfl, rfl⟩ := hstep
          have hupcoming := hreported.upcoming rfl
          rw [hloads.length_eq] at hupcoming
          rw [List.append_nil]
          exact .inl ⟨rfl, .delivering hreported hupcoming hloads (Nat.zero_add _).symm
            (by simp) (by omega)⟩

/-- A batch has been reported: the call returns, or reads the next one. -/
lemma Reported.exhausted {batchLen : ℕ}
    (hreported : Reported config outbox withdrawn db.outbox rows messages delivered)
    (hupcoming : Upcoming outbox db.outbox batchLen rows []) (hsome : 0 < batchLen)
    (hsteps : steps + 2 * batchLen ≤ 4 * rows.length + 1)
    (hstep : (⟨db, active, flow, .delivering delivered batchLen []⟩ : Agent).replayStep config env =
      some (agent', es)) :
    ReplayInvariant config outbox withdrawn (steps + 1) false (transcript messages ++ es)
      agent' := by
  have hbound := hreported.done.length_le
  simp only [Agent.replayStep] at hstep
  split at hstep
  · rename_i hshort
    simp only [Agent.returnReplay, List.nil_append, Option.some.injEq, Prod.mk.injEq] at hstep
    obtain ⟨rfl, rfl⟩ := hstep
    have hnone : db.outbox = [] := by
      refine List.eq_nil_iff_forall_not_mem.mpr fun row hrow => ?_
      exact absurd (hupcoming.last hshort row hrow) List.not_mem_nil
    exact .inr ⟨rfl, hreported.finished hnone, by omega⟩
  · simp only [Option.some.injEq, Prod.mk.injEq] at hstep
    obtain ⟨rfl, rfl⟩ := hstep
    rw [List.append_nil]
    exact .inl ⟨rfl, .reading hreported (by omega)⟩

/-- The next status of a batch is checked and reported. -/
lemma Reported.report {batchLen taken : ℕ} {row : OutboxRow} {queue : List OutboxRow}
    {status : StoredOutboundStatus Json.Value} {statuses : List (StoredOutboundStatus Json.Value)}
    (hreported : Reported config outbox withdrawn db.outbox rows messages delivered)
    (hupcoming : Upcoming outbox db.outbox batchLen rows (row :: queue))
    (hload : loadStatus config.storage.codec row = .ok status) (hloads : Loads config queue statuses)
    (hlen : batchLen = taken + (status :: statuses).length)
    (hsteps : steps + 2 * taken ≤ 4 * rows.length + 1)
    (hstep : (⟨db, active, flow, .delivering delivered batchLen (status :: statuses)⟩ :
      Agent).replayStep config env = some (agent', es)) :
    ReplayInvariant config outbox withdrawn (steps + 1)
      (!(⟨db, active, flow, .delivering delivered batchLen (status :: statuses)⟩ : Agent).answers
        config env) (transcript messages ++ es) agent' := by
  have hbound := hreported.done.length_le
  simp only [Agent.replayStep, Agent.replayNext, Option.some.injEq] at hstep
  simp only [Agent.answers]
  cases hmessage : Agent.replayedMessage config status with
  | error e =>
      simp only [hmessage, Agent.returnReplay, List.nil_append, Prod.mk.injEq] at hstep
      obtain ⟨rfl, rfl⟩ := hstep
      simp only [Except.isOk, Except.toBool, Bool.and_false, Bool.not_false]
      exact .inr ⟨rfl, .halted hreported.done hreported.leaves rfl, by omega⟩
  | ok message =>
      have hreport : config.reportOf row = .ok message := by
        rw [AgentConfig.reportOf, hload]
        exact hmessage
      have hnext := hreported.done.concat hreported.leaves hupcoming hreport
      cases hdelivered : env.delivered with
      | false =>
          simp only [hmessage, hdelivered, Bool.false_eq_true, if_false, Agent.returnReplay,
            List.singleton_append, Prod.mk.injEq] at hstep
          obtain ⟨rfl, rfl⟩ := hstep
          exact .inr ⟨rfl, .refused hnext hreported.leaves rfl, by omega⟩
      | true =>
          simp only [hmessage, hdelivered, if_true, Prod.mk.injEq] at hstep
          obtain ⟨rfl, rfl⟩ := hstep
          have hrest : batchLen = taken + 1 + statuses.length := by
            rw [hlen, List.length_cons]
            omega
          exact .inl ⟨rfl, .confirming hreported hupcoming hreport hloads hrest (by omega)⟩

/-- A reported status is removed. -/
lemma Reported.removed {row : OutboxRow} {message : AgentMessage}
    (hreported : Reported config outbox withdrawn db.outbox rows messages delivered)
    (hrow : row ∈ outbox) (hunique : Table.UniqueBy OutboxRow.messageId outbox)
    (hnext : Delivered config outbox withdrawn (rows ++ [row]) (messages ++ [message])) :
    Reported config outbox withdrawn (db.deleteStatus row.messageId).outbox (rows ++ [row])
      (messages ++ [message]) (delivered + 1) where
  done := hnext
  leaves := hreported.leaves.remove hrow hunique
  count := by
    rw [hreported.count, List.length_append, List.length_singleton]

/-- The store is asked to remove the status that was reported. -/
lemma Reported.confirm {batchLen taken : ℕ} {row : OutboxRow} {queue : List OutboxRow}
    {message : AgentMessage} {statuses : List (StoredOutboundStatus Json.Value)}
    (hreported : Reported config outbox withdrawn db.outbox rows messages delivered)
    (hunique : Table.UniqueBy OutboxRow.messageId outbox)
    (hupcoming : Upcoming outbox db.outbox batchLen rows (row :: queue))
    (hreport : config.reportOf row = .ok message) (hloads : Loads config queue statuses)
    (hlen : batchLen = taken + 1 + statuses.length)
    (hsteps : steps + 2 * taken ≤ 4 * rows.length + 2)
    (hstep : (⟨db, active, flow, .confirming delivered batchLen message statuses⟩ :
      Agent).replayStep config env = some (agent', es)) :
    ReplayInvariant config outbox withdrawn (steps + 1)
      (!(⟨db, active, flow, .confirming delivered batchLen message statuses⟩ : Agent).answers
        config env) (transcript messages ++ [.handed message true] ++ es) agent' := by
  have hbound := hreported.done.length_le
  have hnext := hreported.done.concat hreported.leaves hupcoming hreport
  have hrow := hupcoming.present List.mem_cons_self
  obtain ⟨hid, hvalid⟩ := reportOf_ok hreport
  have hrun := run_acknowledge config hvalid (env.clock 0) db
  have hevents := events_acknowledge config hvalid (env.clock 0) db
  have hremoved := hreported.removed hrow hunique hnext
  have hrest := hupcoming.remove
  rw [← hid] at hremoved hrest
  simp only [Agent.replayStep, Agent.confirmReplayed, Option.some.injEq] at hstep
  simp only [Agent.answers]
  unfold Env.call at hstep
  cases hfault : env.fault with
  | absent =>
      simp only [hfault, hrun, hevents, Prod.mk.injEq] at hstep
      obtain ⟨rfl, rfl⟩ := hstep
      have hshown : transcript messages ++ [.handed message true] ++
          Effect.ofEvents [.acknowledged message.messageId] = transcript (messages ++ [message]) := by
        rw [transcript_concat, List.append_assoc]
        rfl
      rw [hshown]
      refine .inl ⟨rfl, .delivering hremoved hrest hloads hlen (by omega) ?_⟩
      rw [List.length_append, List.length_singleton]
      omega
  | before =>
      simp only [hfault, Agent.returnReplay, Prod.mk.injEq] at hstep
      obtain ⟨rfl, rfl⟩ := hstep
      rw [List.append_assoc]
      exact .inr ⟨rfl, .unremoved hnext hreported.leaves rfl, by omega⟩
  | after =>
      simp only [hfault, hrun, hevents, Agent.returnReplay, Prod.mk.injEq] at hstep
      obtain ⟨rfl, rfl⟩ := hstep
      have hshown : transcript messages ++ [.handed message true] ++
          (Effect.ofEvents [.acknowledged message.messageId] ++
            [.replayReturned (.error (.processing (.storage workerStopped)))]) =
          transcript (messages ++ [message]) ++
            [.replayReturned (.error (.processing (.storage workerStopped)))] := by
        rw [transcript_concat, List.append_assoc, List.append_assoc]
        rfl
      rw [hshown]
      exact .inr ⟨rfl, .halted hnext hremoved.leaves rfl, by omega⟩

end Steps

/-! ## Every course -/

section Courses

variable {start agent agent' : Agent} {env : Env} {outbox withdrawn : List OutboxRow} {steps : ℕ}
  {failed : Bool} {effects es : List Effect}

lemma ReplayInvariant.started (hstep : start.step config .replayOutboundReports =
    some (agent, effects)) :
    ReplayInvariant config start.db.outbox [] 0 false effects agent := by
  simp only [Agent.step] at hstep
  split at hstep
  · cases hstep
  · simp only [Option.some.injEq, Prod.mk.injEq] at hstep
    obtain ⟨rfl, rfl⟩ := hstep
    have hnothing : Delivered config start.db.outbox [] [] [] :=
      ⟨.nil, List.nil_subset _, .nil, fun _ _ _ _ _ hmem => absurd hmem List.not_mem_nil⟩
    exact .inl ⟨rfl, .reading ⟨hnothing, fun row => by simp, rfl⟩ (Nat.zero_le _)⟩

/-- **A step of the call** keeps the invariant. -/
lemma ReplayInvariant.advanced
    (hinv : ReplayInvariant config outbox withdrawn steps failed effects agent)
    (hunique : Table.UniqueBy OutboxRow.messageId outbox)
    (hstep : agent.step config (.advanceReplay env) = some (agent', es)) :
    ReplayInvariant config outbox withdrawn (steps + 1) (failed || !agent.answers config env)
      (effects ++ es) agent' := by
  obtain ⟨db, active, flow, replay⟩ := agent
  rcases hinv with ⟨rfl, hposition⟩ | ⟨hidle, -, -⟩
  · rw [Bool.false_or]
    replace hstep : Agent.replayStep config env ⟨db, active, flow, replay⟩ = some (agent', es) :=
      hstep
    cases hposition with
    | reading hreported hsteps => exact hreported.read hsteps hstep
    | delivering hreported hupcoming hloads hlen hsome hsteps =>
        cases hloads with
        | nil =>
            rw [List.length_nil, Nat.add_zero] at hlen
            subst hlen
            exact hreported.exhausted hupcoming hsome hsteps hstep
        | cons hload hloads =>
            exact hreported.report hupcoming hload hloads hlen hsteps hstep
    | confirming hreported hupcoming hreport hloads hlen hsteps =>
        exact hreported.confirm hunique hupcoming hreport hloads hlen hsteps hstep
  · cases replay with
    | idle => simp [Agent.step, Agent.replayStep] at hstep
    | _ => cases hidle

/-- **A step of another call** keeps it. -/
lemma ReplayInvariant.moved {action : Action}
    (hinv : ReplayInvariant config outbox withdrawn steps failed effects agent)
    (hothers : action.OfOthers) (hstep : agent.step config action = some (agent', es))
    (hnone : ∀ status, .repository (.committed status) ∉ es) :
    ReplayInvariant config outbox
      (withdrawn ++ agent.db.outbox.filter fun row => row ∉ agent'.db.outbox) steps failed effects
      agent' := by
  have hfewer := (step_cases hstep).outbox_subset hnone
  have hreplay := (step_cases hstep).replay_eq hothers
  have hsame : agent'.replaying = agent.replaying := by
    simp only [Agent.replaying, hreplay]
  rcases hinv with ⟨rfl, hposition⟩ | ⟨hidle, houtcome, hsteps⟩
  · rw [← hreplay] at hposition
    exact .inl ⟨rfl, hposition.withdraw hfewer⟩
  · exact .inr ⟨hsame.trans hidle, houtcome.withdraw hfewer hsame, hsteps⟩

lemma ReplayInvariant.of_course {withdrawn : List OutboxRow}
    (hcourse : Course config start steps failed withdrawn effects agent) :
    ReplayInvariant config start.db.outbox withdrawn steps failed effects agent := by
  induction hcourse with
  | started hstep => exact .started hstep
  | advanced _ hstep ih => exact ih.advanced start.db.messageIds hstep
  | moved _ hothers hstep hnone ih => exact ih.moved hothers hstep hnone

lemma Position.outcome {replay : Replay}
    (hposition : Position config outbox withdrawn agent.db.outbox steps effects replay)
    (hreplay : agent.replay = replay) :
    Outcome config outbox withdrawn false effects agent ∧ steps ≤ 4 * (outbox.length + 1) := by
  cases hposition with
  | reading hreported hsteps =>
      have hbound := hreported.done.length_le
      refine ⟨.underway hreported.done hreported.leaves ?_, by omega⟩
      rw [Agent.replaying, hreplay]
  | delivering hreported _ _ _ _ hsteps =>
      have hbound := hreported.done.length_le
      refine ⟨.underway hreported.done hreported.leaves ?_, by omega⟩
      rw [Agent.replaying, hreplay]
  | confirming hreported hupcoming hreport _ _ hsteps =>
      have hbound := hreported.done.length_le
      have hnext := hreported.done.concat hreported.leaves hupcoming hreport
      refine ⟨.reported hnext hreported.leaves ?_, by omega⟩
      rw [Agent.replaying, hreplay]

/-- **The outbox is replayed in order**, row by row, until it is empty or a step fails. -/
theorem replay_in_order {withdrawn : List OutboxRow}
    (hcourse : Course config start steps failed withdrawn effects agent) :
    Outcome config start.db.outbox withdrawn failed effects agent ∧
      steps ≤ 4 * (start.db.outbox.length + 1) ∧
      (agent.replaying = true →
        ∀ env, ∃ result, agent.step config (.advanceReplay env) = some result) := by
  have hready : agent.replaying = true →
      ∀ env, ∃ result, agent.step config (.advanceReplay env) = some result := by
    intro hreplaying env
    obtain ⟨db, active, flow, replay⟩ := agent
    cases replay with
    | idle => cases hreplaying
    | reading => exact ⟨_, rfl⟩
    | delivering delivered batchLen statuses =>
        cases statuses with
        | nil =>
            simp only [Agent.step, Agent.replayStep]
            split <;> exact ⟨_, rfl⟩
        | cons => exact ⟨_, rfl⟩
    | confirming => exact ⟨_, rfl⟩
  rcases ReplayInvariant.of_course hcourse with ⟨rfl, hposition⟩ | ⟨-, houtcome, hsteps⟩
  · obtain ⟨houtcome, hsteps⟩ := hposition.outcome rfl
    exact ⟨houtcome, hsteps, hready⟩
  · exact ⟨houtcome, hsteps, hready⟩

end Courses

/-! ## A status from an earlier session -/

/-- Steps of the call alone, with these answers. -/
def Agent.advanceWith (config : AgentConfig) :
    List Env → Bool × List Effect × Agent → Option (Bool × List Effect × Agent)
  | [], position => some position
  | env :: envs, (failed, effects, agent) =>
      match agent.step config (.advanceReplay env) with
      | some (agent', es) =>
          advanceWith config envs (failed || !agent.answers config env, effects ++ es, agent')
      | none => none

lemma Course.advanceWith {start : Agent} {withdrawn : List OutboxRow}
    {result : Bool × List Effect × Agent} {envs : List Env} {steps : ℕ} {failed : Bool} {effects : List Effect} {agent : Agent}
    (hcourse : Course config start steps failed withdrawn effects agent)
    (hresult : Agent.advanceWith config envs (failed, effects, agent) = some result) :
    Course config start (steps + envs.length) result.1 withdrawn result.2.1 result.2.2 := by
  induction envs generalizing steps failed effects agent with
  | nil =>
      cases hresult
      exact hcourse
  | cons env envs ih =>
      simp only [Agent.advanceWith] at hresult
      cases hstep : agent.step config (.advanceReplay env) with
      | none => simp [hstep] at hresult
      | some next =>
          rw [hstep] at hresult
          have hrest := ih (hcourse.advanced hstep) hresult
          rwa [List.length_cons, Nat.add_comm envs.length, ← Nat.add_assoc]

namespace Sample

/-- The status of a job that was submitted in an earlier session. -/
def lateStatus : AgentMessage := submitted "job_1" 5

/-- Its job, whose payload has been removed since. -/
def lateJob : PrintJobRow where
  jobId := firstId
  idempotencyKey := "delivery:job_1"
  printerId := printer.id
  payloadJson := "null"
  state := .submitted
  receivedAt := morning
  updatedAt := morning
  retryAttempts := 0
  recoveryCount := 0
  receipt := none
  error := none
  sourceMessageId := "server_job_1"
  payloadSha256 := "f95ca355a6b5566a2796ea0416120d748030495c1c6a0996d022aa9b82de06fe"

/-- An agent that has the status still to report. -/
def unreported : Agent :=
  { Agent.initial with
    db :=
      { jobs := [lateJob]
        outbox := [⟨lateStatus.messageId, firstId, lateStatus.toValue.toString, morning⟩]
        jobIds := List.nodup_singleton _
        idempotencyKeys := List.nodup_singleton _
        messageIds := List.nodup_singleton _
        references := fun status hstatus => by
          obtain rfl := List.mem_singleton.mp hstatus
          exact ⟨lateJob, List.mem_singleton_self _, rfl⟩ } }

end Sample

theorem replay_in_order_lateStatus :
    ∃ agent, Course (Sample.config [Sample.lateStatus]) Sample.unreported 4 false []
        [.handed Sample.lateStatus true, .repository (.acknowledged Sample.lateStatus.messageId),
          .replayReturned (.ok 1)] agent ∧
      Outcome (Sample.config [Sample.lateStatus]) Sample.unreported.db.outbox [] false
        [.handed Sample.lateStatus true, .repository (.acknowledged Sample.lateStatus.messageId),
          .replayReturned (.ok 1)] agent := by
  have hrun : (Agent.advanceWith (Sample.config [Sample.lateStatus])
      (List.replicate 4 (Sample.env 1))
      (false, [], { Sample.unreported with replay := .reading 0 })).map (fun r => (r.1, r.2.1)) =
        some (false, [.handed Sample.lateStatus true,
          .repository (.acknowledged Sample.lateStatus.messageId), .replayReturned (.ok 1)]) := by
    decide +kernel
  obtain ⟨⟨failed, effects, agent⟩, hsome, heq⟩ := Option.map_eq_some_iff.mp hrun
  cases heq
  have hstarted : Course (Sample.config [Sample.lateStatus]) Sample.unreported 0 false [] []
      { Sample.unreported with replay := .reading 0 } := .started rfl
  have hcourse := hstarted.advanceWith hsome
  exact ⟨agent, hcourse, (replay_in_order hcourse).1⟩

end Oppa
