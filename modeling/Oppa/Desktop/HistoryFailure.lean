import Oppa.Desktop.Ledger
import Oppa.Foundation.JsonBound
import Oppa.Protocol.Document

/-!
# Job histories that cannot be saved

An operation of the ledger changes the list in memory before it stores it, and the store takes
64 KiB at most.

* `JobSummary.size`, `historyLength` — what a summary and a list take, text by text;
  `jobsValue_fits_iff` says when a list fits.
* `operate` — an operation that no other one interferes with; `step_operate` are its three steps.
* `Saved` — the law: an operation does not fail for size, and if it fails the list is as before.
* **`saved_iff`** — an operation keeps the law exactly when the list it leaves fits and the storage
  does not fail after the list has changed.
* `large_history_not_saved` — a history of a hundred valid jobs that breaks it.
-/

namespace Oppa.Desktop

open Json Json.Value Text

/-! ## What a list takes -/

/-- What a text takes, with its quotes and escapes. -/
def quotedLength (text : String) : ℕ := bytes (quote text)

/-- What a summary takes. -/
def JobSummary.size (job : JobSummary) : ℕ :=
  110 + bytes (Value.number job.attempts.toNat).print + (job.error.map quotedLength).getD 4 +
    quotedLength job.id + quotedLength job.idempotencyKey + quotedLength job.printerId +
    quotedLength job.printerName + quotedLength job.receivedAt + quotedLength job.state.name +
    quotedLength job.updatedAt

lemma bytes_print_summary (job : JobSummary) : bytes job.toValue.print = job.size := by
  have hkeys : bytes (quote "attempts") = 10 ∧ bytes (quote "error") = 7 ∧
      bytes (quote "id") = 4 ∧ bytes (quote "idempotencyKey") = 16 ∧
      bytes (quote "printerId") = 11 ∧ bytes (quote "printerName") = 13 ∧
      bytes (quote "receivedAt") = 12 ∧ bytes (quote "state") = 7 ∧
      bytes (quote "updatedAt") = 11 := by decide
  have herror : bytes ((job.error.map Value.string).getD .null).print =
      (job.error.map quotedLength).getD 4 := by
    cases job.error <;> rfl
  obtain ⟨h1, h2, h3, h4, h5, h6, h7, h8, h9⟩ := hkeys
  rw [JobSummary.toValue, bytes_print_object_cons]
  simp only [membersLength_cons, membersLength_nil, h1, h2, h3, h4, h5, h6, h7, h8, h9, herror,
    JobSummary.size, quotedLength, print]
  omega

/-- What the summaries of a list take, each with its comma. -/
def historyLength (jobs : List JobSummary) : ℕ := (jobs.map fun job => job.size + 1).sum

/-- **When a list fits in a setting.** -/
lemma jobsValue_fits_iff {jobs : List JobSummary} :
    (jobsValue jobs).toString.utf8ByteSize ≤ maxSettingBytes ↔ 1 + historyLength jobs ≤ 65536 := by
  have hlimit : maxSettingBytes = 65536 := rfl
  have hitems : itemsLength (jobs.map JobSummary.toValue) = historyLength jobs := by
    rw [itemsLength, List.map_map, historyLength]
    exact congrArg List.sum (List.map_congr_left fun job _ => by
      rw [Function.comp_apply, bytes_print_summary])
  rw [jobsValue, utf8ByteSize_array_le_iff (by rw [hlimit]; omega), hitems, hlimit]

/-! ## An operation on its own -/

/-- What an operation leaves: how it ends, the list in memory, and the setting. -/
structure Operated where
  result : Except CommandError Unit
  jobs : List JobSummary
  setting : Option Value

/-- An operation that no other one interferes with. -/
def operate (jobs : List JobSummary) (setting : Option Value) (operation : LedgerOperation)
    (fault : Fault) : Operated :=
  match operation.mutate jobs with
  | .refused e => ⟨.error e, jobs, setting⟩
  | .unchanged => ⟨.ok (), jobs, setting⟩
  | .changed next =>
      ⟨(setSetting (jobsValue next) fault setting).1, next,
        (setSetting (jobsValue next) fault setting).2⟩

/-- It is what the steps of the ledger do when they follow one another. -/
lemma step_operate (jobs : List JobSummary) (setting : Option Value) (operation : LedgerOperation)
    (fault : Fault) {next : List JobSummary} (hchanged : operation.mutate jobs = .changed next) :
    ∃ started read, (JobLedger.mk setting jobs []).step (.start operation) = some (started, []) ∧
      started.step (.read 0) = some (read, []) ∧
      read.step (.write 0 fault) = some
        (⟨(operate jobs setting operation fault).setting,
          (operate jobs setting operation fault).jobs, []⟩,
          match (operate jobs setting operation fault).result with
          | .ok () => [.returned]
          | .error e => [.failed e]) := by
  refine ⟨⟨setting, next, [none]⟩, ⟨setting, next, [some next]⟩, ?_, rfl, ?_⟩
  · simp [JobLedger.step, JobLedger.start, hchanged]
  · simp only [operate, hchanged]
    rfl

/-- The failure of a value that is too large. -/
def sizeFailure (value : Value) : CommandError :=
  .internal ("invalid storage input: metadata is " ++ toString value.toString.utf8ByteSize ++
    " bytes; maximum is " ++ toString maxSettingBytes)

/-- The law of an operation: it does not fail for size, and if it fails the list is as before. -/
structure Saved (jobs : List JobSummary) (operated : Operated) : Prop where
  fits : ∀ value, operated.result ≠ .error (sizeFailure value)
  untouched : ∀ e, operated.result = .error e → operated.jobs = jobs

/-- When an operation keeps the law: the list it leaves fits in the setting, and the storage does
not fail unless the list is as before. -/
def Savable (jobs : List JobSummary) (operation : LedgerOperation) (fault : Fault) : Prop :=
  ∀ next, operation.mutate jobs = .changed next →
    1 + historyLength next ≤ 65536 ∧ (fault = .absent ∨ next = jobs)

section Law

variable {jobs next : List JobSummary} {setting : Option Value} {operation : LedgerOperation}
  {fault : Fault}

lemma sizeFailure_ne_worker (value : Value) :
    sizeFailure value ≠ .internal "database worker failed: storage worker stopped" := by
  intro h
  have hmessage := congrArg (fun e => e.message.toList.head?) h
  simp [sizeFailure, CommandError.internal] at hmessage

/-- A list that does not fit fails for size. -/
lemma setSetting_of_not_fits (hlarge : ¬ 1 + historyLength next ≤ 65536) :
    (setSetting (jobsValue next) fault setting).1 = .error (sizeFailure (jobsValue next)) := by
  rw [← jobsValue_fits_iff, not_le] at hlarge
  rw [setSetting.eq_def, if_pos hlarge]
  rfl

/-- One that fits fails only with the storage. -/
lemma setSetting_of_fits (hfits : 1 + historyLength next ≤ 65536) :
    (setSetting (jobsValue next) fault setting).1 =
      if fault = .absent then .ok ()
      else .error (.internal "database worker failed: storage worker stopped") := by
  rw [← jobsValue_fits_iff] at hfits
  rw [setSetting.eq_def, if_neg (not_lt.mpr hfits)]
  cases fault <;> rfl

lemma changeOpen_ne_refused {jobId : String} {change : JobSummary → JobSummary} {e : CommandError} :
    changeOpen jobs jobId change ≠ .refused e := by
  intro h
  rw [changeOpen] at h
  split at h
  · cases h
  · split_ifs at h

/-- An operation is refused for an identity that conflicts, and not for size. -/
lemma refused_ne_sizeFailure {e : CommandError} (hrefused : operation.mutate jobs = .refused e)
    (value : Value) : e ≠ sizeFailure value := by
  have hcode : e.code = "job_identity_conflict" := by
    cases operation with
    | insert job =>
        simp only [LedgerOperation.mutate, insertJob] at hrefused
        split at hrefused
        · split_ifs at hrefused
          cases hrefused
          rfl
        · cases hrefused
    | clear | restorePending => cases hrefused
    | failIfNonTerminal | update => exact absurd hrefused changeOpen_ne_refused
    | applyEvent event now =>
        cases event with
        | jobReceived | jobSubmitting | jobSubmitted | jobFailed | jobCancelled =>
            exact absurd hrefused changeOpen_ne_refused
        | pendingJobsChanged | duplicateJob | duplicateIdempotency | cancellationRequested
        | recoveryCompleted => cases hrefused
  rintro rfl
  have hinternal : "internal" = "job_identity_conflict" := hcode
  exact absurd hinternal (by decide)

/-- **An operation keeps the law exactly when it can be saved.** -/
theorem saved_iff (jobs : List JobSummary) (setting : Option Value) (operation : LedgerOperation)
    (fault : Fault) :
    Saved jobs (operate jobs setting operation fault) ↔ Savable jobs operation fault := by
  cases hmutation : operation.mutate jobs with
  | refused e =>
      have hoperate : operate jobs setting operation fault = ⟨.error e, jobs, setting⟩ := by
        rw [operate, hmutation]
      rw [hoperate]
      refine iff_of_true ⟨fun value h => ?_, fun _ _ => rfl⟩ fun next h => ?_
      · exact refused_ne_sizeFailure hmutation value (Except.error.inj h)
      · rw [hmutation] at h
        cases h
  | unchanged =>
      have hoperate : operate jobs setting operation fault = ⟨.ok (), jobs, setting⟩ := by
        rw [operate, hmutation]
      rw [hoperate]
      refine iff_of_true ⟨fun value h => ?_, fun _ _ => rfl⟩ fun next h => ?_
      · cases h
      · rw [hmutation] at h
        cases h
  | changed next =>
      have hoperate : operate jobs setting operation fault =
          ⟨(setSetting (jobsValue next) fault setting).1, next,
            (setSetting (jobsValue next) fault setting).2⟩ := by
        rw [operate, hmutation]
      have hsavable : Savable jobs operation fault ↔
          1 + historyLength next ≤ 65536 ∧ (fault = .absent ∨ next = jobs) := by
        rw [Savable, hmutation]
        constructor
        · intro h
          exact h next rfl
        · rintro h other ⟨⟩
          exact h
      rw [hoperate, hsavable]
      constructor
      · intro hsaved
        have hfits : 1 + historyLength next ≤ 65536 := by
          by_contra hlarge
          exact hsaved.fits _ (setSetting_of_not_fits hlarge)
        refine ⟨hfits, ?_⟩
        by_cases hfault : fault = .absent
        · exact .inl hfault
        · refine .inr
            (hsaved.untouched (.internal "database worker failed: storage worker stopped") ?_)
          rw [setSetting_of_fits hfits, if_neg hfault]
      · rintro ⟨hfits, hsafe⟩
        refine ⟨fun value h => ?_, fun e h => ?_⟩
        · simp only [setSetting_of_fits hfits] at h
          split_ifs at h
          exact sizeFailure_ne_worker value (Except.error.inj h).symm
        · simp only [setSetting_of_fits hfits] at h
          split_ifs at h with hfault
          exact hsafe.resolve_left hfault

end Law

/-! ## A history of large summaries -/

/-- A summary whose fields come from a valid job, a printer name and a sanitized error. -/
structure FromJob (summary : JobSummary) : Prop where
  job : ∃ job : Protocol.PrintJob, job.validate = .ok () ∧ summary.id = job.jobId ∧
    summary.idempotencyKey = job.idempotencyKey ∧ summary.printerId = job.printerId
  name : Printer.validateText "printer display name" summary.printerName
    Printer.maxPrinterNameBytes = .ok ()
  error : ∀ e ∈ summary.error, ∃ text, e = sanitize text
  times : Protocol.validateTimestamp summary.receivedAt "receivedAt" = .ok () ∧
    Protocol.validateTimestamp summary.updatedAt "updatedAt" = .ok ()

namespace Sample

/-- When the large jobs are made and received. -/
def largeTime : String := "2026-07-01T09:00:00.000Z"

lemma largeTime_valid (path : String) : Protocol.validateTimestamp largeTime path = .ok () := by
  have hvalid : Protocol.validateTimestamp largeTime "time" = .ok () := by decide
  exact Protocol.validateTimestamp_path path hvalid

/-- A text of so many characters. -/
def filled (n : ℕ) (c : Char) : String := String.ofList (List.replicate n c)

@[simp] lemma toList_filled (n : ℕ) (c : Char) : (filled n c).toList = List.replicate n c :=
  String.toList_ofList

/-- The `n`-th of the large jobs. -/
def largeJob (n : ℕ) : Protocol.PrintJob where
  jobId := filled (n + 1) 'j'
  idempotencyKey := filled (156 + n) 'k'
  printerId := filled 128 'p'
  createdAt := largeTime
  document := .receipt { width := .mm58, sections := [.cut] }
  metadata := none

/-- Its summary when it is received. -/
def large (n : ℕ) : JobSummary where
  id := (largeJob n).jobId
  printerId := (largeJob n).printerId
  printerName := filled 256 'n'
  idempotencyKey := (largeJob n).idempotencyKey
  state := .received
  receivedAt := largeTime
  updatedAt := largeTime
  attempts := 0
  error := none

/-- A hundred of them, the first in front. -/
def largeHistory : List JobSummary := large 0 :: (List.range' 1 99).map large

lemma utf16Length_filled {n : ℕ} {c : Char} (hascii : c.toNat < 0x10000) :
    utf16Length (filled n c) = n := by
  rw [utf16Length, toList_filled, List.map_replicate, utf16Size, if_pos hascii]
  simp

lemma utf8ByteSize_filled (n : ℕ) {c : Char} (hone : c.utf8Size = 1) :
    (filled n c).utf8ByteSize = n := by
  rw [utf8ByteSize_eq_sum, toList_filled, List.map_replicate, hone]
  simp

lemma validateIdentifier_filled {n : ℕ} {c : Char} (path : String) (hpos : 0 < n) (hlen : n ≤ 128)
    (hc : isAsciiAlphanumeric c = true) :
    Protocol.validateIdentifier (filled n c) path 128 = .ok () := by
  obtain ⟨m, rfl⟩ := Nat.exists_eq_succ_of_ne_zero hpos.ne'
  have hascii := Protocol.isAsciiAlphanumeric_lt hc
  have hall : (List.replicate m c).all Protocol.isIdentifierCharacter = true := by
    rw [List.all_eq_true]
    intro d hd
    rw [List.eq_of_mem_replicate hd, Protocol.isIdentifierCharacter, hc]
    rfl
  rw [Protocol.validateIdentifier, toList_filled, List.replicate_succ]
  simp only [utf16Length_filled (by omega : c.toNat < 0x10000), hc, hall]
  rw [if_neg (by omega)]
  rfl

lemma largeJob_valid {n : ℕ} (hn : n < 100) : (largeJob n).validate = .ok () := by
  have hid := @validateIdentifier_filled (n + 1) 'j' "jobId" (by omega) (by omega) (by decide)
  have hprinter := @validateIdentifier_filled 128 'p' "printerId" (by omega) (by omega) (by decide)
  have hkey : Protocol.validateString (largeJob n).idempotencyKey "idempotencyKey" 1 256 =
      .ok () := by
    rw [Protocol.validateString, largeJob, utf16Length_filled (by decide), if_pos]
    simp only [Bool.and_eq_true, decide_eq_true_eq]
    omega
  have hdocument : ((largeJob n).document.validate).within "document" = .ok () := by
    show (Protocol.JobDocument.validate (.receipt _)).within "document" = .ok ()
    decide
  simp only [Protocol.PrintJob.validate, Protocol.andThen_eq_ok]
  exact ⟨hid, hkey, hprinter, largeTime_valid _, hdocument, rfl⟩

lemma large_fromJob {n : ℕ} (hn : n < 100) : FromJob (large n) where
  job := ⟨largeJob n, largeJob_valid hn, rfl, rfl, rfl⟩
  name := by
    have htrim : trim (filled 256 'n') = filled 256 'n' := by
      refine trim_of_forall fun c hc => ?_
      rw [toList_filled] at hc
      rw [List.eq_of_mem_replicate hc]
      decide
    have hlength : (filled 256 'n').utf8ByteSize = 256 := utf8ByteSize_filled 256 rfl
    have hempty : (filled 256 'n').isEmpty = false := by
      rw [Bool.eq_false_iff]
      intro h
      have hzero : (filled 256 'n').utf8ByteSize = 0 := by simpa using h
      omega
    show Printer.validateText _ (filled 256 'n') _ = _
    rw [Printer.validateText, htrim, hempty, hlength, if_neg (by simp), if_neg (by decide)]
  error := fun e he => by cases he
  times := ⟨largeTime_valid _, largeTime_valid _⟩

lemma large_injective : Function.Injective fun n => (large n).id := by
  intro m n h
  have hlength := congrArg (fun s : String => s.toList.length) h
  simpa [large, largeJob] using hlength

lemma largeHistory_eq : largeHistory = (List.range 100).map large := by
  rw [List.range_eq_range']
  rfl

/-- A large summary takes more than a hundredth of the setting. -/
lemma le_size_large (n : ℕ) : 700 ≤ (large n).size := by
  have hquoted (s : String) : 2 + s.toList.length ≤ quotedLength s := le_bytes_quote s
  have hname := hquoted (filled 256 'n')
  have hprinter := hquoted (filled 128 'p')
  have hkey := hquoted (filled (156 + n) 'k')
  have htime : 26 ≤ quotedLength largeTime := hquoted largeTime
  simp only [toList_filled, List.length_replicate] at hname hprinter hkey
  simp only [JobSummary.size, large, largeJob]
  omega

end Sample

/-- A change of the first summary, if it is open. -/
lemma changeOpen_cons {job : JobSummary} {jobs : List JobSummary} {change : JobSummary → JobSummary}
    (hopen : job.state.isTerminal = false) :
    changeOpen (job :: jobs) job.id change = .changed (change job :: jobs) := by
  rw [changeOpen, List.find?_cons_of_pos (by simp)]
  simp [hopen, updateFirst]

/-- **A hundred valid jobs are not saved**: the next event fails for size. -/
theorem large_history_not_saved :
    ¬ ∀ (jobs : List JobSummary) (setting : Option Value) (operation : LedgerOperation)
      (fault : Fault), jobs.length ≤ maxRecentJobs → (jobs.map (·.id)).Nodup →
        (∀ job ∈ jobs, FromJob job) → Saved jobs (operate jobs setting operation fault) := by
  intro hall
  have hlength : Sample.largeHistory.length ≤ maxRecentJobs := by
    rw [Sample.largeHistory_eq, List.length_map, List.length_range]
    exact le_rfl
  have hnodup : (Sample.largeHistory.map (·.id)).Nodup := by
    rw [Sample.largeHistory_eq, List.map_map]
    exact List.nodup_range.map Sample.large_injective
  have hfrom : ∀ job ∈ Sample.largeHistory, FromJob job := by
    intro job hjob
    rw [Sample.largeHistory_eq, List.mem_map] at hjob
    obtain ⟨n, hn, rfl⟩ := hjob
    exact Sample.large_fromJob (List.mem_range.mp hn)
  have hsaved := hall Sample.largeHistory none
    (.applyEvent (.jobSubmitting (Sample.large 0).id) Sample.largeTime) .absent hlength hnodup hfrom
  have hmutate : ∃ changed, LedgerOperation.mutate Sample.largeHistory
      (.applyEvent (.jobSubmitting (Sample.large 0).id) Sample.largeTime) =
        .changed (changed :: (List.range' 1 99).map Sample.large) :=
    ⟨_, @changeOpen_cons (Sample.large 0) _ _ rfl⟩
  obtain ⟨changed, hmutate⟩ := hmutate
  obtain ⟨hfits, -⟩ := (saved_iff _ _ _ _).mp hsaved _ hmutate
  -- the other ninety-nine summaries do not fit
  have hrest : 99 * 701 ≤ historyLength ((List.range' 1 99).map Sample.large) := by
    have hsum := List.card_nsmul_le_sum
      (((List.range' 1 99).map Sample.large).map fun job => job.size + 1) 701 (by
        intro size hsize
        simp only [List.map_map, List.mem_map, Function.comp_apply] at hsize
        obtain ⟨n, -, rfl⟩ := hsize
        have hlarge := Sample.le_size_large n
        omega)
    simpa [historyLength] using hsum
  rw [historyLength, List.map_cons, List.sum_cons, ← historyLength] at hfits
  omega

end Oppa.Desktop
