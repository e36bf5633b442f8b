import Oppa.Desktop.Ledger

/-!
# The job history over restarts

What stays of a summary while it is in the history, whatever is delivered, reported or restored, and
when the host is started again.

* `readJobs`, `loadJobs` — how the setting is read back; `loadJobs_jobsValue`.
* `JobSummary.Continues` — a later summary of the same job: the same printer and key, and nothing
  changed once the job was over.
* `respects_mutate` — every operation leaves a well-formed list that continues the one before.
* `ledgerSessions` — the operations in any interleaving, with restarts at any time.
* `JobLedger.Faithful` — the steps after which the history cannot fall back: a restart finds no
  other summary of a job than the one in memory.
* **`history_continues`** — in every run of such steps the history is well formed, and summaries
  continue as long as they are in it.
* `restart_reopens_job` — a job that was submitted is queued again.
-/

namespace Oppa.Desktop

open Json Result

/-! ## Reading the setting -/

/-- The names of the states. -/
def stateNames : List (String × DesktopJobState) :=
  [("queued", .queued), ("received", .received), ("submitted", .submitted), ("failed", .failed),
    ("cancelled", .cancelled)]

/-- Reads a summary. -/
def readJob : Serde.Decoder JobSummary :=
  Serde.record ["id", "printerId", "printerName", "idempotencyKey", "state", "receivedAt",
      "updatedAt", "attempts", "error"] 9 fun members => do
    let id ← Serde.required members "id" Serde.string
    let printerId ← Serde.required members "printerId" Serde.string
    let printerName ← Serde.required members "printerName" Serde.string
    let idempotencyKey ← Serde.required members "idempotencyKey" Serde.string
    let state ← Serde.required members "state" (Serde.variant stateNames)
    let receivedAt ← Serde.required members "receivedAt" Serde.string
    let updatedAt ← Serde.required members "updatedAt" Serde.string
    let attempts ← Serde.required members "attempts" Serde.uint32
    let error ← Serde.optional members "error" Serde.string
    some
      { id := id
        printerId := printerId
        printerName := printerName
        idempotencyKey := idempotencyKey
        state := state
        receivedAt := receivedAt
        updatedAt := updatedAt
        attempts := attempts
        error := error }

/-- Reads a list of summaries. -/
def readJobs : Serde.Decoder (List JobSummary) := Serde.array readJob

/-- What `load` makes of the setting. -/
def loadJobs : Option Value → Except CommandError (List JobSummary)
  | none => .ok []
  | some value =>
      match readJobs (Serde.content value) with
      | some jobs => .ok (jobs.take maxRecentJobs)
      | none => .error (.internal "job history is invalid")

section RoundTrip

attribute [local simp] Serde.record Serde.required Serde.optional Serde.variant List.lookup_nil
  List.lookup_cons

lemma nullable_error (error : Option String) :
    Serde.nullable Serde.string (Serde.content ((error.map Value.string).getD .null)) =
      some error := by
  cases error <;> rfl

lemma readJob_content (job : JobSummary) : readJob (Serde.content job.toValue) = some job := by
  have hstate : stateNames.lookup job.state.name = some job.state := by
    cases job.state <;> rfl
  simp [readJob, JobSummary.toValue, hstate, nullable_error]

/-- **What is stored is read back.** -/
lemma loadJobs_jobsValue (jobs : List JobSummary) :
    loadJobs (some (jobsValue jobs)) = .ok (jobs.take maxRecentJobs) := by
  have hread : readJobs (Serde.content (jobsValue jobs)) = some jobs := by
    rw [readJobs, jobsValue, Serde.content, Value.tree_array, List.map_map]
    exact Serde.array_content JobSummary.toValue fun job _ => readJob_content job
  simp only [loadJobs, hread]

end RoundTrip

lemma length_of_loadJobs {setting : Option Value} {jobs : List JobSummary}
    (hload : loadJobs setting = .ok jobs) : jobs.length ≤ maxRecentJobs := by
  cases setting with
  | none =>
      cases hload
      exact Nat.zero_le _
  | some value =>
      rw [loadJobs] at hload
      cases hread : readJobs (Serde.content value) with
      | none =>
          rw [hread] at hload
          cases hload
      | some found =>
          rw [hread] at hload
          cases hload
          exact List.length_take_le _ _

/-! ## Summaries of one job -/

/-- A later summary of a job: its identity is the same, and nothing changed once it was over. -/
structure JobSummary.Continues (job later : JobSummary) : Prop where
  id : later.id = job.id
  printerId : later.printerId = job.printerId
  printerName : later.printerName = job.printerName
  idempotencyKey : later.idempotencyKey = job.idempotencyKey
  settled : job.state.isTerminal = true → later.state = job.state ∧ later.error = job.error ∧
    later.attempts = job.attempts ∧ later.updatedAt = job.updatedAt

namespace JobSummary

variable {job mid later : JobSummary}

lemma Continues.refl (job : JobSummary) : job.Continues job :=
  ⟨rfl, rfl, rfl, rfl, fun _ => ⟨rfl, rfl, rfl, rfl⟩⟩

lemma Continues.trans (hfirst : job.Continues mid) (hsecond : mid.Continues later) :
    job.Continues later where
  id := hsecond.id.trans hfirst.id
  printerId := hsecond.printerId.trans hfirst.printerId
  printerName := hsecond.printerName.trans hfirst.printerName
  idempotencyKey := hsecond.idempotencyKey.trans hfirst.idempotencyKey
  settled hterminal := by
    rcases hfirst.settled hterminal with ⟨hstate, herror, hattempts, hupdated⟩
    rcases hsecond.settled (hstate ▸ hterminal) with ⟨hstate', herror', hattempts', hupdated'⟩
    exact ⟨hstate'.trans hstate, herror'.trans herror, hattempts'.trans hattempts,
      hupdated'.trans hupdated⟩

/-- A delivery of a job continues its summary. -/
lemma continues_mergeDelivery (existing incoming : JobSummary) :
    existing.Continues (mergeDelivery existing incoming) := by
  rw [mergeDelivery]
  split_ifs with hterminal
  · exact .refl existing
  · exact ⟨rfl, rfl, rfl, rfl, fun hover => absurd hover hterminal⟩

end JobSummary

/-- A history: a bounded list with one summary for each job. -/
structure WellFormed (jobs : List JobSummary) : Prop where
  bounded : jobs.length ≤ maxRecentJobs
  distinct : (jobs.map (·.id)).Nodup

/-- Whether the summaries of a list continue those of another that are about the same jobs. -/
def Continued (jobs next : List JobSummary) : Prop :=
  ∀ job ∈ jobs, ∀ later ∈ next, later.id = job.id → job.Continues later

/-- A list that continues another one and has a summary of each of its jobs. -/
structure Extends (jobs next : List JobSummary) : Prop where
  distinct : (next.map (·.id)).Nodup
  present : ∀ job ∈ jobs, job.id ∈ next.map (·.id)
  continued : Continued jobs next

section Lists

variable {jobs mid next : List JobSummary} {job existing later : JobSummary} {id : String}

/-- A list without two summaries of a job has one summary under an id. -/
lemma summary_eq_of_id_eq (hdistinct : (jobs.map (·.id)).Nodup) (hjob : job ∈ jobs)
    (hlater : later ∈ jobs) (hid : later.id = job.id) : later = job :=
  List.inj_on_of_nodup_map hdistinct hlater hjob hid

lemma Extends.refl (hdistinct : (jobs.map (·.id)).Nodup) : Extends jobs jobs where
  distinct := hdistinct
  present _ hjob := List.mem_map_of_mem hjob
  continued job hjob later hlater hid := by
    rw [summary_eq_of_id_eq hdistinct hjob hlater hid]
    exact .refl job

lemma Extends.trans (hfirst : Extends jobs mid) (hsecond : Extends mid next) :
    Extends jobs next where
  distinct := hsecond.distinct
  present job hjob := by
    rcases List.mem_map.mp (hfirst.present job hjob) with ⟨found, hfound, hid⟩
    rw [← hid]
    exact hsecond.present found hfound
  continued job hjob later hlater hid := by
    rcases List.mem_map.mp (hfirst.present job hjob) with ⟨found, hfound, hsame⟩
    exact (hfirst.continued job hjob found hfound hsame).trans
      (hsecond.continued found hfound later hlater (hid.trans hsame.symm))

/-- Reordering and dropping summaries changes none of them. -/
lemma Extends.take (hextends : Extends jobs mid) (hperm : next.Perm mid) :
    WellFormed (next.take maxRecentJobs) ∧ Continued jobs (next.take maxRecentJobs) := by
  refine ⟨⟨List.length_take_le _ _, ?_⟩, ?_⟩
  · have hnodup : (next.map (·.id)).Nodup := (hperm.map _).nodup_iff.mpr hextends.distinct
    exact hnodup.sublist ((List.take_sublist _ _).map _)
  · intro job hjob later hlater
    exact hextends.continued job hjob later (hperm.subset (List.mem_of_mem_take hlater))

/-- A summary of another job is added. -/
lemma extends_cons (hdistinct : (jobs.map (·.id)).Nodup) (hnew : job.id ∉ jobs.map (·.id)) :
    Extends jobs (job :: jobs) where
  distinct := List.nodup_cons.mpr ⟨hnew, hdistinct⟩
  present _ hother := List.mem_map_of_mem (List.mem_cons_of_mem _ hother)
  continued other hother later hlater hid := by
    rcases List.mem_cons.mp hlater with rfl | hlater
    · exact absurd (hid ▸ List.mem_map_of_mem hother) hnew
    · rw [summary_eq_of_id_eq hdistinct hother hlater hid]
      exact .refl other

section Changes

variable {change : JobSummary → JobSummary}

lemma mem_updateFirst (hlater : later ∈ updateFirst id change jobs) :
    later ∈ jobs ∨ ∃ job ∈ jobs, job.id = id ∧ later = change job := by
  induction jobs with
  | nil => cases hlater
  | cons job jobs ih =>
      rw [updateFirst] at hlater
      split_ifs at hlater with hid
      · rcases List.mem_cons.mp hlater with rfl | hlater
        · exact .inr ⟨job, List.mem_cons_self, hid, rfl⟩
        · exact .inl (List.mem_cons_of_mem _ hlater)
      · rcases List.mem_cons.mp hlater with rfl | hlater
        · exact .inl List.mem_cons_self
        · rcases ih hlater with hmem | ⟨found, hfound, hfoundId, rfl⟩
          · exact .inl (List.mem_cons_of_mem _ hmem)
          · exact .inr ⟨found, List.mem_cons_of_mem _ hfound, hfoundId, rfl⟩

lemma map_id_updateFirst (hchange : ∀ job ∈ jobs, job.id = id → (change job).id = job.id) :
    (updateFirst id change jobs).map (·.id) = jobs.map (·.id) := by
  induction jobs with
  | nil => rfl
  | cons job jobs ih =>
      rw [updateFirst]
      split_ifs with hid
      · rw [List.map_cons, List.map_cons, hchange job List.mem_cons_self hid]
      · rw [List.map_cons, List.map_cons,
          ih fun other hother => hchange other (List.mem_cons_of_mem _ hother)]

lemma length_updateFirst : (updateFirst id change jobs).length = jobs.length := by
  induction jobs with
  | nil => rfl
  | cons job jobs ih =>
      rw [updateFirst]
      split_ifs with hid
      · rfl
      · rw [List.length_cons, List.length_cons, ih]

/-- The summary of one job is changed into one that continues it. -/
lemma extends_updateFirst (change : JobSummary → JobSummary)
    (hdistinct : (jobs.map (·.id)).Nodup)
    (hchange : ∀ job ∈ jobs, job.id = id → job.Continues (change job)) :
    Extends jobs (updateFirst id change jobs) := by
  have hids : (updateFirst id change jobs).map (·.id) = jobs.map (·.id) :=
    map_id_updateFirst fun job hjob hid => (hchange job hjob hid).id
  refine ⟨hids.symm ▸ hdistinct, fun job hjob => hids.symm ▸ List.mem_map_of_mem hjob, ?_⟩
  intro job hjob later hlater hid
  rcases mem_updateFirst hlater with hmem | ⟨found, hfound, hfoundId, rfl⟩
  · rw [summary_eq_of_id_eq hdistinct hjob hmem hid]
    exact .refl job
  · have hcontinues := hchange found hfound hfoundId
    have hsame : found = job :=
      summary_eq_of_id_eq hdistinct hjob hfound (hcontinues.id.symm.trans hid)
    rw [← hsame]
    exact hcontinues

/-- Moving the changed summary to the front. -/
lemma cons_eraseP_perm (change : JobSummary → JobSummary)
    (hfind : jobs.find? (fun job => job.id = id) = some existing) :
    (change existing :: jobs.eraseP fun job => job.id = id).Perm
      (updateFirst id change jobs) := by
  induction jobs with
  | nil => cases hfind
  | cons job jobs ih =>
      rw [updateFirst]
      by_cases hid : job.id = id
      · rw [List.find?_cons_of_pos (by simpa using hid), Option.some.injEq] at hfind
        rw [if_pos hid, List.eraseP_cons_of_pos (by simpa using hid), hfind]
      · rw [List.find?_cons_of_neg (by simpa using hid)] at hfind
        rw [if_neg hid, List.eraseP_cons_of_neg (by simpa using hid)]
        exact (List.Perm.swap _ _ _).trans ((ih hfind).cons job)

lemma not_mem_of_find?_eq_none (hnone : jobs.find? (fun job => job.id = id) = none) :
    id ∉ jobs.map (·.id) := by
  intro hmem
  rcases List.mem_map.mp hmem with ⟨job, hjob, hid⟩
  exact absurd hid (by simpa using List.find?_eq_none.mp hnone job hjob)

end Changes

end Lists

/-! ## Operations -/

section Operations

variable {jobs next pending : List JobSummary} {job : JobSummary} {jobId : String}
  {operation : LedgerOperation}

/-- What an operation leaves of a history. -/
def Respects (jobs : List JobSummary) (mutation : Mutation) : Prop :=
  ∀ next, mutation = .changed next → WellFormed next ∧ Continued jobs next

lemma respects_insertJob (hjobs : WellFormed jobs) : Respects jobs (insertJob jobs job) := by
  intro next hnext
  rw [insertJob] at hnext
  split at hnext
  · rename_i existing hfind
    split_ifs at hnext
    cases hnext
    have hextends : Extends jobs (updateFirst job.id (mergeDelivery · job) jobs) :=
      extends_updateFirst _ hjobs.distinct fun found _ _ =>
        JobSummary.continues_mergeDelivery found job
    exact hextends.take (cons_eraseP_perm (mergeDelivery · job) hfind)
  · rename_i hnone
    cases hnext
    exact (extends_cons hjobs.distinct (not_mem_of_find?_eq_none hnone)).take (.refl _)

/-- What is restored extends the history before it is put in order. -/
lemma extends_restore (hdistinct : (jobs.map (·.id)).Nodup) :
    Extends jobs (pending.foldl (fun jobs job =>
      if jobs.any fun existing => existing.id = job.id then
        updateFirst job.id (mergeDelivery · job) jobs
      else job :: jobs) jobs) := by
  induction pending generalizing jobs with
  | nil => exact .refl hdistinct
  | cons job pending ih =>
      rw [List.foldl_cons]
      split_ifs with hany
      · have hextends : Extends jobs (updateFirst job.id (mergeDelivery · job) jobs) :=
          extends_updateFirst _ hdistinct fun found _ _ =>
            JobSummary.continues_mergeDelivery found job
        exact hextends.trans (ih hextends.distinct)
      · have hnew : job.id ∉ jobs.map (·.id) := by
          intro hmem
          rcases List.mem_map.mp hmem with ⟨existing, hexisting, hid⟩
          exact hany (List.any_eq_true.mpr ⟨existing, hexisting, by simpa using hid⟩)
        have hextends := extends_cons hdistinct hnew
        exact hextends.trans (ih hextends.distinct)

lemma respects_restorePending (hjobs : WellFormed jobs) :
    Respects jobs (.changed (restorePendingJobs jobs pending)) := by
  rintro next ⟨⟩
  exact (extends_restore hjobs.distinct).take (List.mergeSort_perm _ _)

/-- A change of a job that is not over, which leaves its identity alone. -/
lemma respects_changeOpen {change : JobSummary → JobSummary} (hjobs : WellFormed jobs)
    (hchange : ∀ job : JobSummary, job.state.isTerminal = false → job.Continues (change job)) :
    Respects jobs (changeOpen jobs jobId change) := by
  intro next hnext
  rw [changeOpen] at hnext
  split at hnext
  · cases hnext
  · rename_i existing hfind
    split_ifs at hnext with hterminal
    cases hnext
    have hexisting := List.mem_of_find?_eq_some hfind
    have hid : existing.id = jobId := by simpa using List.find?_some hfind
    have hextends : Extends jobs (updateFirst jobId change jobs) := by
      refine extends_updateFirst change hjobs.distinct fun job hjob hjobId => ?_
      rw [summary_eq_of_id_eq hjobs.distinct hexisting hjob (hjobId.trans hid.symm)]
      exact hchange existing (Bool.not_eq_true _ ▸ hterminal)
    refine ⟨⟨?_, hextends.distinct⟩, hextends.continued⟩
    rw [length_updateFirst]
    exact hjobs.bounded

lemma respects_updateJob {state : DesktopJobState} {error : Option String}
    {attempts : Option UInt32} {updatedAt : String} (hjobs : WellFormed jobs) :
    Respects jobs (updateJob jobs jobId state error attempts updatedAt) := by
  refine respects_changeOpen hjobs fun job hopen => ⟨rfl, rfl, rfl, rfl, ?_⟩
  intro hterminal
  rw [hopen] at hterminal
  cases hterminal

/-- **Every operation** leaves a well-formed history that continues the one before. -/
theorem respects_mutate (hjobs : WellFormed jobs) : Respects jobs (operation.mutate jobs) := by
  cases operation with
  | insert job => exact respects_insertJob hjobs
  | failIfNonTerminal jobId error now =>
      refine respects_changeOpen hjobs fun job hopen => ⟨rfl, rfl, rfl, rfl, ?_⟩
      intro hterminal
      rw [hopen] at hterminal
      cases hterminal
  | clear =>
      rintro next ⟨⟩
      exact ⟨⟨Nat.zero_le _, List.nodup_nil⟩, fun _ _ _ hlater => absurd hlater List.not_mem_nil⟩
  | restorePending pending => exact respects_restorePending hjobs
  | update => exact respects_updateJob hjobs
  | applyEvent event now =>
      cases event with
      | jobReceived | jobSubmitting | jobSubmitted | jobFailed | jobCancelled =>
          exact respects_updateJob hjobs
      | pendingJobsChanged | duplicateJob | duplicateIdempotency | cancellationRequested
      | recoveryCompleted => rintro next ⟨⟩

end Operations

/-! ## Restarts -/

/-- What happens next: a step of the ledger, or the host stops and `load` makes a new ledger of what
is stored. -/
inductive RestartAction
  | operate (action : LedgerAction)
  | load
  deriving DecidableEq, Repr

/-- `load`.  Operations that were under way are lost. -/
def loadLedger (setting : Option Value) : Except CommandError JobLedger :=
  (loadJobs setting).map fun jobs => { setting := setting, jobs := jobs, flights := [] }

/-- The ledgers of one installation.  When `load` fails there is no ledger. -/
def ledgerSessions : History.System JobLedger RestartAction LedgerEvent where
  step ledger
    | .operate action => ledger.step action
    | .load => (loadLedger ledger.setting).toOption.map fun next => (next, [])

/-- The steps after which the history cannot fall back: a restart finds no other summary of a job
than the one in memory. -/
def JobLedger.Faithful (ledger : JobLedger) : RestartAction → Prop
  | .operate _ => True
  | .load => ∀ stored, loadJobs ledger.setting = .ok stored →
      ∀ job ∈ ledger.jobs, ∀ later ∈ stored, later.id = job.id → later = job

/-- Whether a job is in the history. -/
def Present (id : String) (ledger : JobLedger) : Prop := id ∈ ledger.jobs.map (·.id)

instance (id : String) (ledger : JobLedger) : Decidable (Present id ledger) :=
  inferInstanceAs (Decidable (id ∈ _))

/-- A ledger whose list is a history, as is every list that may be loaded. -/
structure JobLedger.Sound (ledger : JobLedger) : Prop where
  jobs : WellFormed ledger.jobs
  flights : ∀ snapshot, some snapshot ∈ ledger.flights → WellFormed snapshot
  stored : ∀ jobs, loadJobs ledger.setting = .ok jobs → WellFormed jobs

section Sessions

variable {ledger next initial : JobLedger} {events history : List LedgerEvent}

/-- What is stored is the setting from before, or what was to be stored. -/
lemma setSetting_snd (value : Value) (fault : Fault) (setting : Option Value) :
    (setSetting value fault setting).2 = setting ∨
      (setSetting value fault setting).2 = some value := by
  rw [setSetting.eq_def]
  split_ifs with hlarge
  · exact .inl rfl
  · cases fault with
    | absent => exact .inr rfl
    | before => exact .inl rfl
    | after => exact .inr rfl

/-- **A step of the ledger** keeps it sound, and continues its history. -/
lemma JobLedger.Sound.step (hsound : ledger.Sound) {action : LedgerAction}
    (hstep : ledger.step action = some (next, events)) :
    next.Sound ∧ Continued ledger.jobs next.jobs := by
  have hsame : Continued ledger.jobs ledger.jobs :=
    (Extends.refl hsound.jobs.distinct).continued
  cases action with
  | start operation =>
      simp only [JobLedger.step, JobLedger.start, Option.some.injEq] at hstep
      cases hmutation : operation.mutate ledger.jobs with
      | refused e =>
          rw [hmutation] at hstep
          cases hstep
          exact ⟨hsound, hsame⟩
      | unchanged =>
          rw [hmutation] at hstep
          cases hstep
          exact ⟨hsound, hsame⟩
      | changed jobs =>
          rw [hmutation] at hstep
          cases hstep
          rcases respects_mutate hsound.jobs jobs hmutation with ⟨hwell, hcontinued⟩
          refine ⟨⟨hwell, ?_, hsound.stored⟩, hcontinued⟩
          intro snapshot hsnapshot
          rcases List.mem_append.mp hsnapshot with hold | hnew
          · exact hsound.flights snapshot hold
          · cases List.mem_singleton.mp hnew
  | read n =>
      simp only [JobLedger.step] at hstep
      split at hstep
      · cases hstep
        refine ⟨⟨hsound.jobs, ?_, hsound.stored⟩, hsame⟩
        intro snapshot hsnapshot
        rcases List.mem_or_eq_of_mem_set hsnapshot with hold | hread
        · exact hsound.flights snapshot hold
        · cases hread
          exact hsound.jobs
      · cases hstep
  | write n fault =>
      simp only [JobLedger.step] at hstep
      split at hstep
      · rename_i snapshot hflight
        rw [Option.some.injEq, JobLedger.write, Prod.mk.injEq] at hstep
        rw [← hstep.1]
        refine ⟨⟨hsound.jobs, ?_, ?_⟩, hsame⟩
        · intro found hfound
          exact hsound.flights found (List.mem_of_mem_eraseIdx hfound)
        · intro jobs hload
          rcases setSetting_snd (jobsValue snapshot) fault ledger.setting with hold | hnew
          · exact hsound.stored jobs (hold ▸ hload)
          · have hwell := hsound.flights snapshot (List.mem_of_getElem? hflight)
            simp only [hnew, loadJobs_jobsValue, List.take_of_length_le hwell.bounded,
              Except.ok.injEq] at hload
            rw [← hload]
            exact hwell
      · cases hstep

/-- **A restart** that meets the condition does so as well. -/
lemma JobLedger.Sound.restartStep (hsound : ledger.Sound) {action : RestartAction}
    (hfaithful : ledger.Faithful action)
    (hstep : ledgerSessions.step ledger action = some (next, events)) :
    next.Sound ∧ Continued ledger.jobs next.jobs := by
  cases action with
  | operate action => exact hsound.step hstep
  | load =>
      simp only [ledgerSessions, loadLedger] at hstep
      cases hload : loadJobs ledger.setting with
      | error e =>
          rw [hload] at hstep
          cases hstep
      | ok stored =>
          rw [hload] at hstep
          cases hstep
          refine ⟨⟨hsound.stored stored hload, fun _ hmem => absurd hmem List.not_mem_nil,
            hsound.stored⟩, ?_⟩
          intro job hjob later hlater hid
          rw [hfaithful stored hload job hjob later hlater hid]
          exact .refl job

lemma sound_of_loadLedger {setting : Option Value} (hload : loadLedger setting = .ok initial)
    (hdistinct : (initial.jobs.map (·.id)).Nodup) : initial.Sound := by
  simp only [loadLedger, Except.map] at hload
  cases hjobs : loadJobs setting with
  | error e =>
      rw [hjobs] at hload
      cases hload
  | ok stored =>
      rw [hjobs] at hload
      cases hload
      have hwell : WellFormed stored := ⟨length_of_loadJobs hjobs, hdistinct⟩
      refine ⟨hwell, fun _ hmem => absurd hmem List.not_mem_nil, ?_⟩
      intro jobs hagain
      rw [hjobs] at hagain
      cases hagain
      exact hwell

lemma sound_of_runs (hinitial : initial.Sound)
    (hrun : ledgerSessions.Runs (fun _ ledger action => ledger.Faithful action) initial history
      ledger) : ledger.Sound := by
  induction hrun with
  | start => exact hinitial
  | step _ hfaithful hstep ih => exact (ih.restartStep hfaithful hstep).1

/-- When the setting holds the list, a restart changes nothing. -/
lemma JobLedger.Sound.faithful_of_persisted (hsound : ledger.Sound) (hpersisted : ledger.Persisted)
    (action : RestartAction) : ledger.Faithful action := by
  cases action with
  | operate action => trivial
  | load =>
      intro stored hload job hjob later hlater hid
      rcases hpersisted with hsetting | ⟨_, hempty⟩
      · simp only [hsetting, loadJobs_jobsValue, List.take_of_length_le hsound.jobs.bounded,
          Except.ok.injEq] at hload
        rw [← hload] at hlater
        exact summary_eq_of_id_eq hsound.jobs.distinct hjob hlater hid
      · rw [hempty] at hjob
        cases hjob

/-- **The job history is well formed, and its summaries continue** as long as they are in it, in
every run that starts with a list without two summaries of a job and in which every restart finds
no other summary of a job than the one in memory. -/
theorem history_continues {setting : Option Value} (hload : loadLedger setting = .ok initial)
    (hdistinct : (initial.jobs.map (·.id)).Nodup)
    (hrun : ledgerSessions.Runs (fun _ ledger action => ledger.Faithful action) initial history
      ledger) :
    WellFormed ledger.jobs ∧ ∀ job ∈ ledger.jobs, ∀ more next,
      ledgerSessions.Runs (fun _ ledger action => ledger.Faithful action ∧ Present job.id ledger)
        ledger more next →
      ∀ later ∈ next.jobs, later.id = job.id → job.Continues later := by
  have hsound := sound_of_runs (sound_of_loadLedger hload hdistinct) hrun
  refine ⟨hsound.jobs, ?_⟩
  intro job hjob more next hmore
  have hall : next.Sound ∧ ∀ later ∈ next.jobs, later.id = job.id → job.Continues later := by
    induction hmore with
    | start =>
        refine ⟨hsound, fun later hlater hid => ?_⟩
        rw [summary_eq_of_id_eq hsound.jobs.distinct hjob hlater hid]
        exact .refl job
    | step _ hcondition hstep ih =>
        rcases hcondition with ⟨hfaithful, hpresent⟩
        rcases ih.1.restartStep hfaithful hstep with ⟨hnext, hcontinued⟩
        refine ⟨hnext, fun later hlater hid => ?_⟩
        rcases List.mem_map.mp hpresent with ⟨mid, hmid, hmidId⟩
        have hsame : later.id = mid.id := hid.trans hmidId.symm
        exact (ih.2 mid hmid hmidId).trans (hcontinued mid hmid later hlater hsame)
  exact hall.2

/-- Whether a step meets the condition. -/
def JobLedger.isFaithful (ledger : JobLedger) : RestartAction → Bool
  | .operate _ => true
  | .load =>
      match loadJobs ledger.setting with
      | .error _ => true
      | .ok stored => ledger.jobs.all fun job => stored.all fun later =>
          decide (later.id = job.id → later = job)

lemma faithful_of_isFaithful {action : RestartAction} (hcheck : ledger.isFaithful action = true) :
    ledger.Faithful action := by
  cases action with
  | operate action => trivial
  | load =>
      intro stored hload job hjob later hlater
      simp only [JobLedger.isFaithful, hload, List.all_eq_true, decide_eq_true_eq] at hcheck
      exact hcheck job hjob later hlater

/-- What some steps lead to. -/
def sessionRun (check : JobLedger → RestartAction → Bool) (ledger : JobLedger)
    (actions : List RestartAction) : List LedgerEvent × JobLedger :=
  ledgerSessions.run (fun _ ledger action => check ledger action) ledger actions

/-- A job is delivered and reported as submitted, while the delivery is still to be stored. -/
def submittedBeforeStored : JobLedger :=
  (sessionRun JobLedger.isFaithful freshLedger
    [.operate (.start (.insert (delivered "job-1"))), .operate (.read 0),
      .operate (.start (.update "job-1" .submitted none (some 1) "2026-01-01T00:00:01Z")),
      .operate (.read 1)]).2

/-- The host stops once both lists are stored, in this order, and starts again. -/
def restarted (check : JobLedger → RestartAction → Bool) (first second : ℕ) : JobLedger :=
  (sessionRun check submittedBeforeStored
    [.operate (.write first .absent), .operate (.write second .absent), .load]).2

/-- The summary of the job once it is submitted. -/
def submittedSummary : JobSummary :=
  { delivered "job-1" with
    state := .submitted, attempts := 1, updatedAt := "2026-01-01T00:00:01Z" }

lemma runs_submittedBeforeStored :
    ∃ history, ledgerSessions.Runs (fun _ ledger action => ledger.Faithful action) freshLedger
      history submittedBeforeStored :=
  ⟨_, History.System.runs_run (fun _ _ _ => faithful_of_isFaithful) _⟩

theorem history_continues_restarted :
    (restarted (fun ledger action => ledger.isFaithful action &&
      decide (Present "job-1" ledger)) 0 0).jobs.length = 1 ∧
    ∀ later ∈ (restarted (fun ledger action => ledger.isFaithful action &&
      decide (Present "job-1" ledger)) 0 0).jobs,
      later.id = "job-1" → submittedSummary.Continues later := by
  refine ⟨by decide +kernel, ?_⟩
  rcases runs_submittedBeforeStored with ⟨_, hrun⟩
  have hload : loadLedger none = .ok freshLedger := rfl
  have hmem : submittedSummary ∈ submittedBeforeStored.jobs := by decide +kernel
  have hmore := (history_continues hload List.nodup_nil hrun).2 submittedSummary hmem
  refine hmore _ _ (History.System.runs_run ?_ _)
  intro _ ledger action hcheck
  rw [Bool.and_eq_true, decide_eq_true_eq] at hcheck
  exact ⟨faithful_of_isFaithful hcheck.1, hcheck.2⟩

/-- **A job that was submitted is queued again** after a restart, when the list from before is
stored last. -/
theorem restart_reopens_job :
    ∃ history ledger more next job later,
      ledgerSessions.Runs History.anyStep freshLedger history ledger ∧
      ledgerSessions.Runs (fun _ ledger _ => Present "job-1" ledger) ledger more next ∧
      job ∈ ledger.jobs ∧ later ∈ next.jobs ∧ job.id = "job-1" ∧ later.id = job.id ∧
      job.state = .submitted ∧ later.state = .queued ∧ ¬ job.Continues later := by
  rcases runs_submittedBeforeStored with ⟨history, hrun⟩
  refine ⟨history, submittedBeforeStored, _,
    restarted (fun ledger _ => decide (Present "job-1" ledger)) 1 0, submittedSummary,
    delivered "job-1", hrun.toAny,
    History.System.runs_run (fun _ _ _ hcheck => of_decide_eq_true hcheck) _, ?_, ?_, rfl, rfl,
    rfl, rfl, ?_⟩
  · decide +kernel
  · decide +kernel
  · intro hcontinues
    cases (hcontinues.settled rfl).1

end Sessions

end Oppa.Desktop
