import Oppa.Agent.Processor

/-!
# Raw TCP submissions

A submission to a network printer connects, hands the bytes of the document to the socket, and
closes the stream.  It may be cancelled at any moment, and the peer may refuse, stall or reset the
connection at any moment.

* `RawTcpSpooler`, `RawTcpSpooler.prepare` — the spooler and the checks before it connects.
* `Phase`, `Action`, `Submission.step` — one poll of the submission, or one act of the peer.
* `Ending`, `Ending.of` — what the agent makes of the answer; `settle_ending` connects it with the
  processor.
* `Submission.Spoiled` — the law that is broken: the agent says that another attempt is safe,
  although the socket has taken bytes.
* **`retryable_not_printed`** — a submission keeps the law exactly when no step that cuts it off
  comes after the first byte; `reset_after_first_byte` is a submission that breaks it.
-/

namespace Oppa.Spooler

open Printer Protocol

/-! ## The spooler -/

/-- Output ready for a spooler; the contents of the other kinds are not read here. -/
inductive RenderedDocument
  | escPos (bytes : List UInt8)
  | raster
  | native
  | virtual
  | pdf
  deriving DecidableEq, Repr

/-- `RenderedDocument::kind`. -/
def RenderedDocument.kind : RenderedDocument → String
  | escPos _ => "esc-pos"
  | raster => "raster"
  | native => "native"
  | virtual => "virtual"
  | pdf => "pdf"

/-- Raw TCP printer submission; a duration is kept as it is printed. -/
structure RawTcpSpooler where
  connectTimeout : String
  writeTimeout : String
  maxSubmissionBytes : ℕ
  deriving DecidableEq, Repr

/-- The spooler the agent registers. -/
def RawTcpSpooler.standard : RawTcpSpooler where
  connectTimeout := "5s"
  writeTimeout := "15s"
  maxSubmissionBytes := 4 * 1024 * 1024

/-- `require_raw_mode`. -/
def requireRawMode (printer : PrinterRef) : Except SpoolerError Unit :=
  if printer.submissionMode = .raw .escPos then .ok ()
  else .error (.invalidSubmissionMode "raw TCP requires explicit raw ESC/POS mode")

/-- `raw_bytes`. -/
def rawBytes : RenderedDocument → Except SpoolerError (List UInt8)
  | .escPos bytes => .ok bytes
  | other => .error (.unsupportedDocument "raw byte spooler" other.kind)

/-- `enforce_size`. -/
def enforceSize (actual maximum : ℕ) : Except SpoolerError Unit :=
  if maximum = 0 ∨ maximum < actual then .error (.documentTooLarge actual maximum) else .ok ()

/-- `RawTcpSpooler::submit` before it connects. -/
def RawTcpSpooler.prepare (spooler : RawTcpSpooler) (printer : PrinterRef)
    (document : RenderedDocument) : Except SpoolerError (String × UInt16 × List UInt8) :=
  match printer.connection with
  | .network host port => do
      requireRawMode printer
      let bytes ← rawBytes document
      enforceSize bytes.length spooler.maxSubmissionBytes
      .ok (host, port, bytes)
  | other => .error (.unsupportedTarget other.kind)

/-- `SpoolerRegistry::submit` before it picks a spooler. -/
def checkPrinter (printer : PrinterRef) : Except SpoolerError Unit := do
  printer.validate.mapError fun e => .invalidTarget e.display
  if printer.enabled then .ok () else .error (.printerDisabled printer.id)

/-! ## What the agent makes of the answer -/

/-- How a submission ends for the agent. -/
inductive Ending
  | submitted (receipt : SubmissionReceipt)
  | cancelled
  | failed (failure : JobFailure)

namespace Ending

/-- The match on the answer in `submit` of the processor. -/
def of (recoveryCount : ℕ) (cancelled : Bool) : Except SpoolerError SubmissionReceipt → Ending
  | .ok receipt => .submitted receipt
  | .error e =>
      if cancelled || e = .cancelled then .cancelled
      else .failed (recoveryAwareFailure recoveryCount (spoolerFailure e))

/-- The job counts as not printed: it was cancelled, or the failure is reported as retryable. -/
def NotPrinted : Ending → Prop
  | submitted _ => False
  | cancelled => True
  | failed failure => failure.retryable = true

instance : DecidablePred NotPrinted := fun ending => by
  cases ending <;> simp only [NotPrinted] <;> infer_instance

/-- Once the job has been replayed, a failure without a cancellation promises nothing. -/
lemma notPrinted_failure {recoveryCount : ℕ} {cancelled : Bool} {e : SpoolerError}
    (hlost : e ≠ .cancelled) (hretry : (spoolerFailure e).retryable = true) :
    (of recoveryCount cancelled (.error e)).NotPrinted ↔ cancelled = true ∨ recoveryCount = 0 := by
  by_cases hcancelled : cancelled = true
  · simp [of, hcancelled, NotPrinted]
  · by_cases hrecovered : recoveryCount = 0
    · simp [of, hcancelled, hlost, NotPrinted, hrecovered, recoveryAwareFailure, hretry]
    · simp [of, hcancelled, hlost, NotPrinted, hrecovered,
        recoveryAwareFailure_retryable hrecovered]

lemma notPrinted_cancelled (recoveryCount : ℕ) (cancelled : Bool) :
    (of recoveryCount cancelled (.error .cancelled)).NotPrinted := by
  simp [of, NotPrinted]

/-- A token that is cancelled turns every failure into a cancellation. -/
lemma notPrinted_token (recoveryCount : ℕ) (e : SpoolerError) :
    (of recoveryCount true (.error e)).NotPrinted := by
  simp [of, NotPrinted]

end Ending

/-- What `settle` answers for an ending. -/
def Ending.Answers (config : AgentConfig) (env : Env) (stored : StoredPrintJob Json.Value)
    (job : PrintJob) (outcome : ProcessOutcome) : Ending → Prop
  | .submitted receipt => ∃ message, outcome = .submitted stored.id message ∧
      submittedMessage config.toLibraries job stored.sourceMessageId receipt.acceptedAt
        (env.uuid 0) (env.clock 1) = .ok message
  | .cancelled => outcome = .cancelled stored.id
  | .failed failure => ∃ message, outcome = .failed stored.id (some message) ∧
      failedMessage config.toLibraries job stored.sourceMessageId (env.clock 0) failure
        (env.uuid 0) (env.clock 1) = .ok message

/-- **The processor answers what the ending says**: in particular the failure it reports is that of
the ending. -/
theorem settle_ending {config : AgentConfig} {env : Env} {stored : StoredPrintJob Json.Value}
    {job : PrintJob} {submission : Except SpoolerError SubmissionReceipt} {cancelled : Bool}
    {db : Database} {outcome : ProcessOutcome}
    (hsettle : (settle config env stored job submission cancelled db).result = .ok outcome) :
    (Ending.of stored.recoveryCount cancelled submission).Answers config env stored job
      outcome := by
  cases submission with
  | ok receipt =>
      simp only [settle] at hsettle
      split at hsettle
      · cases hsettle
      · rename_i message hmessage
        simp only [Result.map_eq_ok] at hsettle
        rcases hsettle with ⟨_, _, rfl⟩
        exact ⟨message, rfl, hmessage⟩
  | error e =>
      simp only [settle] at hsettle
      simp only [Ending.of]
      split_ifs at hsettle ⊢ with hcancelled
      · simp only [Result.map_eq_ok] at hsettle
        rcases hsettle with ⟨_, _, rfl⟩
        exact rfl
      · simp only [persistFailure] at hsettle
        split at hsettle
        · cases hsettle
        · rename_i message hmessage
          simp only [Result.map_eq_ok] at hsettle
          rcases hsettle with ⟨_, _, rfl⟩
          exact ⟨message, rfl, hmessage⟩

/-! ## A submission, poll by poll -/

/-- Where the future of a submission is suspended. -/
inductive Phase
  | connecting
  | writing (rest : List UInt8)
  | flushing
  | shuttingDown
  | returned (answer : Except SpoolerError SubmissionReceipt)
  | settled (ending : Ending)

/-- What is ready when the submission is polled, and what happens beside it. -/
inductive Action
  /-- `request_cancellation` cancels the token. -/
  | requestCancellation
  /-- `select!` takes the branch of the token. -/
  | observeCancellation
  | connected
  | connectFailed (reason : String)
  | connectTimedOut
  /-- The socket takes the next bytes; a socket that takes none ends the write. -/
  | written (count : ℕ)
  | writeFailed (reason : String)
  | flushed
  | flushFailed (reason : String)
  | shutDown (acceptedAt : Timestamp)
  | shutdownFailed (reason : String)
  | writeTimedOut
  /-- The processor takes the answer while it holds the active map. -/
  | settle
  deriving DecidableEq, Repr

/-- What a submission is about. -/
structure Request where
  spooler : RawTcpSpooler
  printer : PrinterRef
  document : RenderedDocument
  /-- How often the job has been replayed after a restart. -/
  recoveryCount : ℕ

/-- A submission in progress. -/
structure Submission where
  phase : Phase
  /-- The bytes the socket has taken. -/
  handed : List UInt8
  /-- Whether the token has been cancelled. -/
  cancelled : Bool

namespace Submission

variable (request : Request)

/-- The checks before connecting, and what they let through. -/
def prepared : Except SpoolerError (String × UInt16 × List UInt8) := do
  checkPrinter request.printer
  request.spooler.prepare request.printer request.document

/-- A submission that has just begun. -/
def start : Submission where
  phase :=
    match prepared request with
    | .ok _ => .connecting
    | .error e => .returned (.error e)
  handed := []
  cancelled := false

/-- The receipt of a raw submission. -/
def receipt (host : String) (port : UInt16) (acceptedAt : Timestamp) : SubmissionReceipt where
  backendJobId := none
  backend := "raw-tcp"
  acceptedAt := acceptedAt
  metadata :=
    [("endpoint", host ++ ":" ++ toString port.toNat), ("language", "esc-pos"),
      ("submissionMode", "raw")]

/-- What `write_all` does next with what is left. -/
def nextWrite : List UInt8 → Phase
  | [] => .flushing
  | rest => .writing rest

/-- The future of the submission answers. -/
def answer (submission : Submission) (result : Except SpoolerError SubmissionReceipt) :
    Submission :=
  { submission with phase := .returned result }

/-- One step of a submission; `none` when it is not possible. -/
def step (submission : Submission) (action : Action) : Option Submission :=
  match action, submission.phase with
  | .requestCancellation, .settled _ => none
  | .requestCancellation, _ => some { submission with cancelled := true }
  | .observeCancellation, .returned _ => none
  | .observeCancellation, .settled _ => none
  | .observeCancellation, _ =>
      if submission.cancelled then some (submission.answer (.error .cancelled)) else none
  | .connected, .connecting =>
      match prepared request with
      | .ok (_, _, bytes) => some { submission with phase := nextWrite bytes }
      | .error _ => none
  | .connectFailed reason, .connecting => some (submission.answer (.error (.connectivity reason)))
  | .connectTimedOut, .connecting =>
      some (submission.answer (.error (.timeout "connect" request.spooler.connectTimeout)))
  | .written 0, .writing _ =>
      some (submission.answer (.error (.connectivity "failed to write whole buffer")))
  | .written count, .writing rest =>
      if count ≤ rest.length then
        some { submission with
          phase := nextWrite (rest.drop count), handed := submission.handed ++ rest.take count }
      else none
  | .writeFailed reason, .writing _ => some (submission.answer (.error (.connectivity reason)))
  | .flushed, .flushing => some { submission with phase := .shuttingDown }
  | .flushFailed reason, .flushing => some (submission.answer (.error (.connectivity reason)))
  | .shutDown acceptedAt, .shuttingDown =>
      match prepared request with
      | .ok (host, port, _) => some (submission.answer (.ok (receipt host port acceptedAt)))
      | .error _ => none
  | .shutdownFailed reason, .shuttingDown =>
      some (submission.answer (.error (.connectivity reason)))
  | .writeTimedOut, .writing _ | .writeTimedOut, .flushing | .writeTimedOut, .shuttingDown =>
      some (submission.answer (.error (.timeout "write" request.spooler.writeTimeout)))
  | .settle, .returned answer =>
      some { submission with
        phase := .settled (Ending.of request.recoveryCount submission.cancelled answer) }
  | _, _ => none

/-- Several steps of a submission. -/
def run (submission : Submission) (actions : List Action) : Option Submission :=
  actions.foldlM (step request) submission

/-! ## What cuts a submission off -/

/-- The error with which an act of the peer or the deadline ends a write. -/
def writeError : Action → Option SpoolerError
  | .written 0 => some (.connectivity "failed to write whole buffer")
  | .writeFailed reason | .flushFailed reason | .shutdownFailed reason =>
      some (.connectivity reason)
  | .writeTimedOut => some (.timeout "write" request.spooler.writeTimeout)
  | _ => none

/-- The step cuts the submission off after the socket has taken a byte, in a way the agent takes for
one before: the token is observed; or the peer or the deadline ends the write, and the job has not
been replayed before or its token is cancelled; or the token is cancelled after such an end. -/
def CutsOff (submission : Submission) (action : Action) : Prop :=
  submission.handed ≠ [] ∧
    match action, submission.phase with
    | .observeCancellation, _ => True
    | .requestCancellation, .returned (.error _) => True
    | other, _ => (writeError request other).isSome = true ∧
        (submission.cancelled = true ∨ request.recoveryCount = 0)

/-- Some step of a run cuts the submission off. -/
def IsCutOff (submission : Submission) : List Action → Prop
  | [] => False
  | action :: actions => CutsOff request submission action ∨
      ∃ next, step request submission action = some next ∧ IsCutOff next actions

/-- The agent takes the document for not printed, or is about to, although the socket has taken bytes
of it. -/
def Spoiled (submission : Submission) : Prop :=
  submission.handed ≠ [] ∧
    match submission.phase with
    | .returned result => (Ending.of request.recoveryCount submission.cancelled result).NotPrinted
    | .settled ending => ending.NotPrinted
    | _ => False

/-- Nothing is handed over before the connection stands. -/
def Consistent (submission : Submission) : Prop :=
  match submission.phase with
  | .connecting => submission.handed = []
  | _ => True

/-! ## Steps by what they do -/

/-- The future of the submission has not answered yet. -/
def Underway (submission : Submission) : Prop :=
  (∀ result, submission.phase ≠ .returned result) ∧ ∀ ending, submission.phase ≠ .settled ending

/-- What a step does to a submission. -/
inductive Steps (submission : Submission) : Action → Submission → Prop
  | requested :
      Steps submission .requestCancellation { submission with cancelled := true }
  | observed :
      Steps submission .observeCancellation (submission.answer (.error .cancelled))
  | refused {action : Action} {e : SpoolerError} :
      submission.phase = .connecting →
      Steps submission action (submission.answer (.error e))
  | lost {action : Action} {e : SpoolerError} :
      submission.Underway → writeError request action = some e →
      Steps submission action (submission.answer (.error e))
  | advanced {action : Action} {next : Submission} :
      submission.Underway → next.Underway → next.phase ≠ .connecting →
      writeError request action = none →
      action ≠ .observeCancellation → action ≠ .requestCancellation →
      Steps submission action next
  | completed {acceptedAt : Timestamp} {receipt : SubmissionReceipt} :
      submission.Underway →
      Steps submission (.shutDown acceptedAt) (submission.answer (.ok receipt))
  | settled {result : Except SpoolerError SubmissionReceipt} :
      submission.phase = .returned result →
      Steps submission .settle { submission with
        phase := .settled (Ending.of request.recoveryCount submission.cancelled result) }

variable {request} {submission next : Submission} {action : Action}

lemma nextWrite_cases (rest : List UInt8) :
    nextWrite rest = .flushing ∨ nextWrite rest = .writing rest := by
  cases rest with
  | nil => exact Or.inl rfl
  | cons b rest => exact Or.inr rfl

/-- **Every step is one of these.** -/
theorem steps_of_step (hstep : step request submission action = some next) :
    Steps request submission action next := by
  rcases submission with ⟨phase, handed, cancelled⟩
  cases action with
  | requestCancellation =>
      cases phase <;> simp only [step, Option.some.injEq, reduceCtorEq] at hstep <;>
        exact hstep ▸ .requested
  | observeCancellation =>
      cases phase <;>
        simp only [step, Option.ite_none_right_eq_some, Option.some.injEq, reduceCtorEq] at hstep <;>
        exact hstep.2 ▸ .observed
  | connected =>
      cases phase <;> simp only [step, reduceCtorEq] at hstep
      split at hstep
      · rename_i bytes _
        cases hstep
        rcases nextWrite_cases bytes with hphase | hphase <;>
          exact .advanced (by simp [Underway]) (by simp [Underway, hphase]) (by simp [hphase]) rfl
            nofun nofun
      · cases hstep
  | connectFailed reason | connectTimedOut =>
      cases phase <;> simp only [step, Option.some.injEq, reduceCtorEq] at hstep
      exact hstep ▸ .refused rfl
  | written count =>
      cases count with
      | zero =>
          cases phase <;> simp only [step, Option.some.injEq, reduceCtorEq] at hstep
          exact hstep ▸ .lost (by simp [Underway]) rfl
      | succ count =>
          cases phase <;>
            simp only [step, Option.ite_none_right_eq_some, Option.some.injEq, reduceCtorEq] at hstep
          rename_i rest
          rcases nextWrite_cases (rest.drop (count + 1)) with hphase | hphase <;>
            exact hstep.2 ▸ .advanced (by simp [Underway]) (by simp [Underway, hphase])
              (by simp [hphase]) rfl nofun nofun
  | writeFailed reason | flushFailed reason | shutdownFailed reason | writeTimedOut =>
      cases phase <;> simp only [step, Option.some.injEq, reduceCtorEq] at hstep <;>
        exact hstep ▸ .lost (by simp [Underway]) rfl
  | flushed =>
      cases phase <;> simp only [step, Option.some.injEq, reduceCtorEq] at hstep
      exact hstep ▸ .advanced (by simp [Underway]) (by simp [Underway]) nofun rfl nofun nofun
  | shutDown acceptedAt =>
      cases phase <;> simp only [step, reduceCtorEq] at hstep
      split at hstep
      · cases hstep
        exact .completed (by simp [Underway])
      · cases hstep
  | settle =>
      cases phase <;> simp only [step, Option.some.injEq, reduceCtorEq] at hstep
      exact hstep ▸ .settled rfl

/-- What ends a write leaves the agent with a failure it would report as retryable. -/
lemma retryable_of_writeError {e : SpoolerError} (herror : writeError request action = some e) :
    e ≠ .cancelled ∧ (spoolerFailure e).retryable = true := by
  simp only [writeError] at herror
  split at herror <;> cases herror <;> exact ⟨nofun, rfl⟩

/-- Nothing is handed over before the connection stands, from one step to the next. -/
lemma Consistent.step (hconsistent : submission.Consistent)
    (hstep : step request submission action = some next) : next.Consistent := by
  cases steps_of_step hstep with
  | requested => exact hconsistent
  | observed | refused | lost | completed | settled => trivial
  | advanced _ _ hconnected => simp only [Consistent]

lemma not_spoiled_of_underway (hunderway : submission.Underway) :
    ¬ Spoiled request submission := by
  rintro ⟨_, hspoiled⟩
  split at hspoiled
  · exact hunderway.1 _ ‹_›
  · exact hunderway.2 _ ‹_›
  · exact hspoiled

lemma cutsOff_observe : CutsOff request submission .observeCancellation ↔ submission.handed ≠ [] := by
  simp [CutsOff]

lemma cutsOff_request : CutsOff request submission .requestCancellation ↔
    submission.handed ≠ [] ∧ ∃ e, submission.phase = .returned (.error e) := by
  cases hphase : submission.phase with
  | returned result => cases result <;> simp [CutsOff, hphase, writeError]
  | _ => simp [CutsOff, hphase, writeError]

lemma cutsOff_peer (hobserve : action ≠ .observeCancellation)
    (hrequest : action ≠ .requestCancellation) :
    CutsOff request submission action ↔ submission.handed ≠ [] ∧
      (writeError request action).isSome = true ∧
        (submission.cancelled = true ∨ request.recoveryCount = 0) := by
  cases action <;> first | rfl | contradiction

/-- What ends a write is neither a request for a cancellation nor its observation. -/
lemma ne_of_writeError {e : SpoolerError} (herror : writeError request action = some e) :
    action ≠ .observeCancellation ∧ action ≠ .requestCancellation := by
  constructor
  · rintro rfl
    cases herror
  · rintro rfl
    cases herror

/-- **A step spoils a submission exactly when it cuts it off.** -/
theorem spoiled_step (hconsistent : submission.Consistent)
    (hstep : step request submission action = some next) :
    Spoiled request next ↔ Spoiled request submission ∨ CutsOff request submission action := by
  cases steps_of_step hstep with
  | requested =>
      rw [cutsOff_request]
      cases hphase : submission.phase with
      | returned result =>
          cases result with
          | ok receipt => simp [Spoiled, hphase, Ending.of, Ending.NotPrinted]
          | error e =>
              simp only [Spoiled, hphase, Ending.notPrinted_token]
              grind
      | _ => simp [Spoiled, hphase]
  | observed =>
      rw [cutsOff_observe]
      simp only [Spoiled, answer, Ending.notPrinted_cancelled]
      tauto
  | refused hconnecting =>
      have hempty : submission.handed = [] := by
        simpa only [Consistent, hconnecting] using hconsistent
      simp [Spoiled, CutsOff, answer, hempty]
  | lost hunderway herror =>
      rcases retryable_of_writeError herror with ⟨hlost, hretry⟩
      rcases ne_of_writeError herror with ⟨hobserve, hrequest⟩
      have hkept : ¬ Spoiled request submission := not_spoiled_of_underway hunderway
      rw [cutsOff_peer hobserve hrequest, herror]
      simp only [hkept, false_or]
      simp only [Spoiled, answer, Ending.notPrinted_failure hlost hretry, Option.isSome_some,
        true_and]
  | advanced hunderway hnext _ hnone hobserve hrequest =>
      rw [cutsOff_peer hobserve hrequest, hnone]
      simp [not_spoiled_of_underway hunderway, not_spoiled_of_underway hnext]
  | completed hunderway =>
      have hkept : ¬ Spoiled request submission := not_spoiled_of_underway hunderway
      simp only [hkept, false_or]
      simp [CutsOff, Spoiled, answer, Ending.of, Ending.NotPrinted, writeError]
  | settled hreturned =>
      simp [Spoiled, CutsOff, hreturned, writeError]

/-- **Over a whole run**, a submission that was not spoiled is spoiled exactly when some step has cut
it off. -/
theorem spoiled_run {actions : List Action} :
    ∀ {submission last : Submission}, submission.Consistent →
      run request submission actions = some last →
      (Spoiled request last ↔ Spoiled request submission ∨ IsCutOff request submission actions) := by
  induction actions with
  | nil =>
      intro submission last _ hrun
      cases hrun
      simp [IsCutOff]
  | cons action actions ih =>
      intro submission last hconsistent hrun
      simp only [run, List.foldlM_cons, Option.bind_eq_bind, Option.bind_eq_some_iff] at hrun
      rcases hrun with ⟨next, hstep, hrun⟩
      rw [ih (hconsistent.step hstep) hrun, spoiled_step hconsistent hstep, or_assoc, IsCutOff]
      simp only [hstep, Option.some.injEq, exists_eq_left']

lemma consistent_start (request : Request) : (start request).Consistent := by
  simp only [Consistent, start]
  split <;> trivial

lemma not_spoiled_start (request : Request) : ¬ Spoiled request (start request) := fun h => h.1 rfl

/-- **A submission that the agent takes for not printed has handed no byte to the socket**, exactly
when no step has cut it off after the first byte. -/
theorem retryable_not_printed (request : Request) (actions : List Action) (last : Submission)
    (ending : Ending) (hrun : run request (start request) actions = some last)
    (hsettled : last.phase = .settled ending) :
    (ending.NotPrinted → last.handed = []) ↔ ¬ IsCutOff request (start request) actions := by
  have hspoiled := spoiled_run (consistent_start request) hrun
  have hlast : Spoiled request last ↔ last.handed ≠ [] ∧ ending.NotPrinted := by
    simp only [Spoiled, hsettled]
  simp only [not_spoiled_start, false_or] at hspoiled
  rw [← hspoiled, hlast]
  tauto

end Submission

namespace Sample

open Submission

/-- A printer in the network. -/
def printer : PrinterRef where
  id := ⟨"printer_network_1", by decide⟩
  displayName := "Kitchen"
  connection := .network "10.0.0.9" 9100
  submissionMode := .raw .escPos
  virtualProfile := none
  enabled := true

/-- A short receipt for it. -/
def request : Request where
  spooler := .standard
  printer := printer
  document := .escPos [0x1b, 0x40, 0x41]
  recoveryCount := 0

/-- The connection is refused. -/
def refused : List Action := [.connectFailed "connection refused", .settle]

/-- The printer takes two bytes and resets the connection. -/
def reset : List Action := [.connected, .written 2, .writeFailed "connection reset", .settle]

end Sample

open Submission

/-- A refused connection is reported as retryable, and nothing has been handed over. -/
theorem retryable_not_printed_refused :
    ∃ last ending, run Sample.request (start Sample.request) Sample.refused = some last ∧
      last.phase = .settled ending ∧ ending.NotPrinted ∧ last.handed = [] := by
  refine ⟨_, _, rfl, rfl, by decide, ?_⟩
  refine (retryable_not_printed Sample.request Sample.refused _ _ rfl rfl).mpr ?_ (by decide)
  simp [IsCutOff, CutsOff, Sample.refused, writeError, start]

/-- **A reset in the middle of the document** is reported as retryable, although the printer has
taken two bytes. -/
theorem reset_after_first_byte :
    ∃ last ending, run Sample.request (start Sample.request) Sample.reset = some last ∧
      last.phase = .settled ending ∧ ending.NotPrinted ∧ last.handed = [0x1b, 0x40] :=
  ⟨_, _, rfl, rfl, by decide, rfl⟩

end Oppa.Spooler
