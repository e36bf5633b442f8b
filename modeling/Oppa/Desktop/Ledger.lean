import Mathlib.Data.List.Sort
import Oppa.Desktop.CatalogRun

/-!
# The job history

The summaries of recent jobs that the desktop host keeps in memory and in a setting.

* `sanitize` — what is shown of a diagnostic.
* `insertJob`, `restorePendingJobs`, `updateJob`, `failIfNonTerminal`, `applyEvent` — what the
  operations make of the list, under its lock.
* `JobLedger`, `ledgerOperations` — the operations under any interleaving: each changes the list,
  then reads it, and then stores what it has read.
* `Current` — the steps after which the setting cannot fall behind: what is stored is the list in
  memory, or another operation will still store that.
* **`converges`** — in every run of such steps the setting holds the list once no operation is under
  way.
* `older_list_stored_last` — two operations that store what they have read in the opposite order.
-/

namespace Oppa.Desktop

open Json Text

/-! ## Diagnostics -/

/-- Where the value behind a marker ends. -/
def endsSecret (c : Char) : Bool :=
  c = ' ' || c = '\t' || c = '\n' || c.toNat = 0x0c || c = '\r' || c = '&' || c = ',' || c = ';' ||
    c = '"' || c = '\''

/-- `redact_after_marker`, on so many characters at most. -/
def redactAfterMarker (marker : List Char) : ℕ → List Char → List Char
  | 0, text => text
  | _ + 1, [] => []
  | fuel + 1, c :: rest =>
      if marker.isPrefixOf (c :: rest) then
        marker ++ "[REDACTED]".toList ++ redactAfterMarker marker fuel
          (((c :: rest).drop marker.length).dropWhile fun c => !endsSecret c)
      else c :: redactAfterMarker marker fuel rest

/-- `sanitize`. -/
def sanitize (value : String) : String :=
  let kept := (value.toList.filter fun c => !isControl c || c = ' ').take 1000
  let redacted := ["privateKey", "pairingCode", "challengePayload", "signature"].foldl
    (fun text marker => redactAfterMarker marker.toList text.length text) kept
  if (trimChars redacted).isEmpty then "Operation failed without diagnostic details."
  else String.ofList redacted

/-! ## Summaries -/

/-- Frontend job lifecycle. -/
inductive DesktopJobState
  | queued
  | received
  | submitted
  | failed
  | cancelled
  deriving DecidableEq, Repr

/-- The serialized name of a state. -/
def DesktopJobState.name : DesktopJobState → String
  | .queued => "queued"
  | .received => "received"
  | .submitted => "submitted"
  | .failed => "failed"
  | .cancelled => "cancelled"

/-- `is_terminal`. -/
def DesktopJobState.isTerminal : DesktopJobState → Bool
  | .submitted | .failed | .cancelled => true
  | .queued | .received => false

/-- Recent durable job projection. -/
structure JobSummary where
  id : String
  printerId : String
  printerName : String
  idempotencyKey : String
  state : DesktopJobState
  receivedAt : String
  updatedAt : String
  attempts : UInt32
  error : Option String
  deriving DecidableEq, Repr

/-- The serialized summary. -/
def JobSummary.toValue (job : JobSummary) : Value :=
  .object [("attempts", .number job.attempts.toNat),
    ("error", (job.error.map Value.string).getD .null), ("id", .string job.id),
    ("idempotencyKey", .string job.idempotencyKey), ("printerId", .string job.printerId),
    ("printerName", .string job.printerName), ("receivedAt", .string job.receivedAt),
    ("state", .string job.state.name), ("updatedAt", .string job.updatedAt)]

/-- The serialized list. -/
def jobsValue (jobs : List JobSummary) : Value := .array (jobs.map JobSummary.toValue)

/-- `MAX_RECENT_JOBS`. -/
def maxRecentJobs : ℕ := 100

/-! ## Operations -/

/-- What an operation makes of the list while it has the lock. -/
inductive Mutation
  /-- The operation fails and changes nothing. -/
  | refused (e : CommandError)
  /-- The operation returns and changes nothing. -/
  | unchanged
  /-- The list is changed, and is going to be stored. -/
  | changed (jobs : List JobSummary)
  deriving DecidableEq, Repr

/-- `merge_delivery`. -/
def mergeDelivery (existing incoming : JobSummary) : JobSummary :=
  if existing.state.isTerminal then existing
  else
    { existing with
      state := incoming.state
      updatedAt := incoming.updatedAt
      attempts := max existing.attempts incoming.attempts
      error := incoming.error }

/-- Changes the first summary with an id. -/
def updateFirst (id : String) (change : JobSummary → JobSummary) :
    List JobSummary → List JobSummary
  | [] => []
  | job :: jobs => if job.id = id then change job :: jobs else job :: updateFirst id change jobs

/-- `insert`. -/
def insertJob (jobs : List JobSummary) (job : JobSummary) : Mutation :=
  match jobs.find? fun existing => existing.id = job.id with
  | some existing =>
      if existing.printerId ≠ job.printerId ∨ existing.printerName ≠ job.printerName ∨
          existing.idempotencyKey ≠ job.idempotencyKey then
        .refused ⟨"job_identity_conflict",
          "A job with this ID already exists with different immutable metadata."⟩
      else
        .changed ((mergeDelivery existing job ::
          jobs.eraseP fun existing => existing.id = job.id).take maxRecentJobs)
  | none => .changed ((job :: jobs).take maxRecentJobs)

/-- `restore_pending`. -/
def restorePendingJobs (jobs pending : List JobSummary) : List JobSummary :=
  ((pending.foldl (fun jobs job =>
      if jobs.any fun existing => existing.id = job.id then
        updateFirst job.id (mergeDelivery · job) jobs
      else job :: jobs) jobs).mergeSort fun left right =>
    decide (right.receivedAt ≤ left.receivedAt)).take maxRecentJobs

/-- Changes the summary of a job that is not over. -/
def changeOpen (jobs : List JobSummary) (jobId : String) (change : JobSummary → JobSummary) :
    Mutation :=
  match jobs.find? fun job => job.id = jobId with
  | none => .unchanged
  | some job =>
      if job.state.isTerminal then .unchanged else .changed (updateFirst jobId change jobs)

/-- `fail_if_non_terminal`. -/
def failIfNonTerminal (jobs : List JobSummary) (jobId error now : String) : Mutation :=
  changeOpen jobs jobId fun job =>
    { job with state := .failed, updatedAt := now, error := some (sanitize error) }

/-- `update`. -/
def updateJob (jobs : List JobSummary) (jobId : String) (state : DesktopJobState)
    (error : Option String) (attempts : Option UInt32) (updatedAt : String) : Mutation :=
  changeOpen jobs jobId fun job =>
    { job with
      state := state
      updatedAt := updatedAt
      error := error.map sanitize
      attempts := attempts.getD job.attempts }

/-- Structured product-neutral events of the agent. -/
inductive AgentEvent
  | pendingJobsChanged (pendingJobs : ℕ)
  | jobReceived (jobId : String)
  | duplicateJob (jobId : String)
  | duplicateIdempotency (jobId existingJobId : String)
  | jobSubmitting (jobId : String)
  | jobSubmitted (jobId : String)
  | jobFailed (jobId code : String)
  | cancellationRequested (jobId : String)
  | jobCancelled (jobId : String)
  | recoveryCompleted
  deriving DecidableEq, Repr

/-- `apply_event`. -/
def applyEvent (jobs : List JobSummary) (event : AgentEvent) (now : String) : Mutation :=
  match event with
  | .jobReceived jobId => updateJob jobs jobId .received none none now
  | .jobSubmitting jobId => updateJob jobs jobId .received none (some 1) now
  | .jobSubmitted jobId => updateJob jobs jobId .submitted none none now
  | .jobFailed jobId code =>
      updateJob jobs jobId .failed (some ("Print job failed (" ++ code ++ ").")) none now
  | .jobCancelled jobId => updateJob jobs jobId .cancelled none none now
  | .pendingJobsChanged _ | .duplicateJob _ | .duplicateIdempotency _ _
  | .cancellationRequested _ | .recoveryCompleted => .unchanged

/-- The operations of the ledger, with the time they are called at. -/
inductive LedgerOperation
  | insert (job : JobSummary)
  | failIfNonTerminal (jobId error now : String)
  | clear
  | restorePending (pending : List JobSummary)
  | update (jobId : String) (state : DesktopJobState) (error : Option String)
      (attempts : Option UInt32) (updatedAt : String)
  | applyEvent (event : AgentEvent) (now : String)
  deriving DecidableEq, Repr

/-- What an operation makes of the list. -/
def LedgerOperation.mutate (jobs : List JobSummary) : LedgerOperation → Mutation
  | insert job => insertJob jobs job
  | failIfNonTerminal jobId error now => Desktop.failIfNonTerminal jobs jobId error now
  | clear => .changed []
  | restorePending pending => .changed (restorePendingJobs jobs pending)
  | update jobId state error attempts updatedAt =>
      updateJob jobs jobId state error attempts updatedAt
  | applyEvent event now => Desktop.applyEvent jobs event now

/-! ## Interleavings -/

/-- The ledger, and the operations that have changed the list and have not returned: each has read
the list, or is still going to. -/
structure JobLedger where
  setting : Option Value
  jobs : List JobSummary
  flights : List (Option (List JobSummary))

/-- What happens next. -/
inductive LedgerAction
  /-- An operation gets the lock. -/
  | start (operation : LedgerOperation)
  /-- `persist` reads the list. -/
  | read (n : ℕ)
  /-- `persist` stores what it has read. -/
  | write (n : ℕ) (fault : Fault)
  deriving DecidableEq, Repr

/-- How an operation ends. -/
inductive LedgerEvent
  | returned
  | refused (e : CommandError)
  /-- The storage fails. -/
  | failed (e : CommandError)
  deriving DecidableEq, Repr

/-- `set_setting`: how it ends, and the setting it leaves. -/
def setSetting (value : Value) (fault : Fault) (setting : Option Value) :
    Except CommandError Unit × Option Value :=
  if maxSettingBytes < value.toString.utf8ByteSize then
    (.error (.internal ("invalid storage input: metadata is " ++
      toString value.toString.utf8ByteSize ++ " bytes; maximum is " ++ toString maxSettingBytes)),
      setting)
  else
    match fault with
    | .absent => (.ok (), some value)
    | .before => (.error (.internal "database worker failed: storage worker stopped"), setting)
    | .after => (.error (.internal "database worker failed: storage worker stopped"), some value)

namespace JobLedger

variable (ledger : JobLedger)

/-- An operation gets the lock. -/
def start (operation : LedgerOperation) : JobLedger × List LedgerEvent :=
  match operation.mutate ledger.jobs with
  | .refused e => (ledger, [.refused e])
  | .unchanged => (ledger, [.returned])
  | .changed jobs => ({ ledger with jobs := jobs, flights := ledger.flights ++ [none] }, [])

/-- `persist` stores what it has read. -/
def write (n : ℕ) (snapshot : List JobSummary) (fault : Fault) : JobLedger × List LedgerEvent :=
  let stored := setSetting (jobsValue snapshot) fault ledger.setting
  ({ ledger with setting := stored.2, flights := ledger.flights.eraseIdx n },
    match stored.1 with
    | .ok () => [.returned]
    | .error e => [.failed e])

/-- A step of the ledger. -/
def step : LedgerAction → Option (JobLedger × List LedgerEvent)
  | .start operation => some (ledger.start operation)
  | .read n =>
      match ledger.flights[n]? with
      | some none => some ({ ledger with flights := ledger.flights.set n (some ledger.jobs) }, [])
      | _ => none
  | .write n fault =>
      match ledger.flights[n]? with
      | some (some snapshot) => some (ledger.write n snapshot fault)
      | _ => none

end JobLedger

/-- The ledger under any interleaving of its operations. -/
def ledgerOperations : History.System JobLedger LedgerAction LedgerEvent where
  step ledger action := ledger.step action

/-! ## Convergence -/

/-- Whether the setting holds the list; a setting that was never written holds an empty one. -/
def JobLedger.Persisted (ledger : JobLedger) : Prop :=
  ledger.setting = some (jobsValue ledger.jobs) ∨ (ledger.setting = none ∧ ledger.jobs = [])

/-- Whether an operation is going to store the list as it is. -/
def UpToDate (jobs : List JobSummary) (flight : Option (List JobSummary)) : Prop :=
  ∀ snapshot ∈ flight, snapshot = jobs

/-- The steps after which the setting cannot fall behind: an operation stores the list as it is, or
another operation is going to. -/
def JobLedger.Current (ledger : JobLedger) : LedgerAction → Prop
  | .write n _ =>
      (∀ flight ∈ ledger.flights[n]?, UpToDate ledger.jobs flight) ∨
        ∃ flight ∈ ledger.flights.eraseIdx n, UpToDate ledger.jobs flight
  | _ => True

instance (ledger : JobLedger) : Decidable ledger.Persisted :=
  inferInstanceAs (Decidable (_ ∨ (_ ∧ _)))

instance (jobs : List JobSummary) (flight : Option (List JobSummary)) :
    Decidable (UpToDate jobs flight) :=
  inferInstanceAs (Decidable (∀ snapshot ∈ flight, snapshot = jobs))

instance (ledger : JobLedger) : (action : LedgerAction) → Decidable (ledger.Current action)
  | .write n _ => inferInstanceAs (Decidable
      ((∀ flight ∈ ledger.flights[n]?, UpToDate ledger.jobs flight) ∨
        ∃ flight ∈ ledger.flights.eraseIdx n, UpToDate ledger.jobs flight))
  | .start _ => .isTrue trivial
  | .read _ => .isTrue trivial

section Runs

variable {ledger next initial : JobLedger} {events history : List LedgerEvent}

/-- Whether the storage has failed an operation. -/
def Unfailed (history : List LedgerEvent) : Prop := ∀ e, .failed e ∉ history

/-- The setting holds the list, or an operation is going to store it. -/
def JobLedger.Catching (ledger : JobLedger) : Prop :=
  ledger.Persisted ∨ ∃ flight ∈ ledger.flights, UpToDate ledger.jobs flight

/-- A setting that could be stored is there. -/
lemma setSetting_cases (value : Value) (fault : Fault) (setting : Option Value) :
    (∃ e, (setSetting value fault setting).1 = .error e) ∨
      setSetting value fault setting = (.ok (), some value) := by
  by_cases hlarge : maxSettingBytes < value.toString.utf8ByteSize
  · exact .inl ⟨_, by rw [setSetting.eq_def, if_pos hlarge]⟩
  · rw [setSetting.eq_def, if_neg hlarge]
    cases fault with
    | absent => exact .inr rfl
    | before => exact .inl ⟨_, rfl⟩
    | after => exact .inl ⟨_, rfl⟩

/-- A step that meets the condition keeps the setting from falling behind. -/
lemma JobLedger.Catching.step (hcatching : ledger.Catching) {action : LedgerAction}
    (hcurrent : ledger.Current action)
    (hstep : ledgerOperations.step ledger action = some (next, events))
    (hunfailed : Unfailed events) : next.Catching := by
  cases action with
  | start operation =>
      simp only [ledgerOperations, JobLedger.step, JobLedger.start, Option.some.injEq] at hstep
      cases hmutation : operation.mutate ledger.jobs with
      | refused e =>
          rw [hmutation] at hstep
          cases hstep
          exact hcatching
      | unchanged =>
          rw [hmutation] at hstep
          cases hstep
          exact hcatching
      | changed jobs =>
          rw [hmutation] at hstep
          cases hstep
          refine .inr ⟨none, List.mem_append_right _ List.mem_cons_self, ?_⟩
          rintro snapshot ⟨⟩
  | read n =>
      simp only [ledgerOperations, JobLedger.step] at hstep
      split at hstep
      · rename_i hflight
        cases hstep
        refine .inr ⟨some ledger.jobs,
          List.mem_set (List.getElem?_eq_some_iff.mp hflight).1 _, ?_⟩
        rintro snapshot ⟨⟩
        rfl
      · cases hstep
  | write n fault =>
      simp only [ledgerOperations, JobLedger.step] at hstep
      split at hstep
      · rename_i snapshot hflight
        rw [Option.some.injEq, JobLedger.write] at hstep
        rcases setSetting_cases (jobsValue snapshot) fault ledger.setting with ⟨e, herror⟩ | hok
        · simp only [herror, Prod.mk.injEq] at hstep
          rw [← hstep.2] at hunfailed
          exact absurd List.mem_cons_self (hunfailed e)
        · simp only [hok, Prod.mk.injEq] at hstep
          rw [← hstep.1]
          rcases hcurrent with hlast | hother
          · -- what is stored is the list as it is
            have hsame : snapshot = ledger.jobs := hlast _ hflight snapshot rfl
            rw [hsame]
            exact .inl (.inl rfl)
          · exact .inr hother
      · cases hstep

/-- **The setting holds the list once no operation is under way**, in every run whose steps meet the
condition and in which the storage fails no operation. -/
theorem converges (hinitial : initial.Persisted)
    (hrun : ledgerOperations.Runs (fun _ ledger action => ledger.Current action) initial history
      ledger) (hunfailed : Unfailed history) (hdone : ledger.flights = []) : ledger.Persisted := by
  have hall : ledger.Catching := by
    clear hdone
    induction hrun with
    | start => exact .inl hinitial
    | step _ hcurrent hstep ih =>
        exact (ih fun e hmem => hunfailed e (List.mem_append_left _ hmem)).step hcurrent hstep fun e hmem =>
          hunfailed e (List.mem_append_right _ hmem)
  rcases hall with hpersisted | ⟨flight, hflight, _⟩
  · exact hpersisted
  · rw [hdone] at hflight
    cases hflight

/-- The ledger of a fresh installation. -/
def freshLedger : JobLedger := { setting := none, jobs := [], flights := [] }

/-- A job that has just been delivered. -/
def delivered (id : String) : JobSummary where
  id := id
  printerId := "printer"
  printerName := "Receipt"
  idempotencyKey := id
  state := .queued
  receivedAt := "2026-01-01T00:00:00Z"
  updatedAt := "2026-01-01T00:00:00Z"
  attempts := 0
  error := none

/-- Two deliveries, of which the first reads the list before the second changes it. -/
def twoDeliveries (writes : List LedgerAction) : List LedgerAction :=
  [.start (.insert (delivered "job-1")), .read 0, .start (.insert (delivered "job-2")), .read 1] ++
    writes

/-- The run of a fresh ledger under a condition on its steps. -/
def ledgerRun (check : JobLedger → LedgerAction → Bool) (actions : List LedgerAction) :
    List LedgerEvent × JobLedger :=
  ledgerOperations.run (fun _ ledger action => check ledger action) freshLedger actions

theorem converges_twoDeliveries :
    (ledgerRun (fun ledger action => decide (ledger.Current action))
        (twoDeliveries [.write 0 .absent, .write 0 .absent])).2.jobs.length = 2 ∧
      (ledgerRun (fun ledger action => decide (ledger.Current action))
        (twoDeliveries [.write 0 .absent, .write 0 .absent])).2.Persisted := by
  have hhistory : (ledgerRun (fun ledger action => decide (ledger.Current action))
      (twoDeliveries [.write 0 .absent, .write 0 .absent])).1 = [.returned, .returned] := by
    decide +kernel
  refine ⟨by decide +kernel, ?_⟩
  have hfresh : freshLedger.Persisted := .inr ⟨rfl, rfl⟩
  refine converges hfresh
    (History.System.runs_run (fun _ _ _ hcurrent => of_decide_eq_true hcurrent) _) ?_
    (by decide +kernel)
  intro e hmem
  rw [ledgerRun] at hhistory
  rw [hhistory] at hmem
  simp at hmem

/-- **The older of two lists is stored last**, and stays. -/
theorem older_list_stored_last :
    ∃ history ledger, ledgerOperations.Runs History.anyStep freshLedger history ledger ∧
      history = [.returned, .returned] ∧ ledger.flights = [] ∧ ¬ ledger.Persisted := by
  have hrun : ledgerOperations.Runs History.anyStep freshLedger
      (ledgerRun (fun _ _ => true) (twoDeliveries [.write 1 .absent, .write 0 .absent])).1
      (ledgerRun (fun _ _ => true) (twoDeliveries [.write 1 .absent, .write 0 .absent])).2 :=
    History.System.runs_run (fun _ _ _ _ => trivial) _
  refine ⟨_, _, hrun, ?_⟩
  decide +kernel

end Runs

end Oppa.Desktop
