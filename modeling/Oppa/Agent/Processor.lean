import Oppa.Agent.Status

/-!
# The job processor

The durable boundaries of `JobProcessor`: receipt of a delivered job, preparation of a stored one,
its claim, and the record of what became of it.

* `receivePrintJob` — validates and commits a delivery before its acknowledgement is built.
* `prepare`, `finishFetch` — everything `process_stored_job` does before it touches the store again.
* `claim`, `settle`, `persistFailure`, `cancelQueued` — one repository call each, with what the
  answer is taken for.

A function that calls the repository leaves an `Answer`: what it returns, the tables, and what an
observer of them saw.
-/

namespace Oppa

open Protocol

/-- Failure at a durable job-processing boundary. -/
inductive JobProcessingError
  | expectedPrintJob
  | protocol (error : ValidationError)
  | identifier (error : IdentifierError)
  | json (message : String)
  | storage (error : StorageError)
  deriving DecidableEq, Repr

/-- Durable receipt outcome for an at-least-once job delivery. -/
inductive ReceiveJobOutcome
  | inserted (acknowledgement : AgentMessage)
  | duplicateJob (state : JobState) (acknowledgement : AgentMessage)
  | duplicateIdempotency (jobId existingJobId : PrintJobId) (state : JobState)
  deriving DecidableEq, Repr

namespace ReceiveJobOutcome

/-- `was_inserted`. -/
def wasInserted : ReceiveJobOutcome → Bool
  | inserted _ => true
  | _ => false

/-- `acknowledgement`. -/
def acknowledgement : ReceiveJobOutcome → Option AgentMessage
  | inserted acknowledgement | duplicateJob _ acknowledgement => some acknowledgement
  | duplicateIdempotency _ _ _ => none

end ReceiveJobOutcome

/-- Terminal or skipped result from processing one durable pending job. -/
inductive ProcessOutcome
  | submitted (jobId : PrintJobId) (message : AgentMessage)
  | failed (jobId : PrintJobId) (message : Option AgentMessage)
  | cancelled (jobId : PrintJobId)
  | skipped (jobId : PrintJobId) (state : JobState)
  deriving DecidableEq, Repr

namespace ProcessOutcome

/-- `ProcessOutcome::message`. -/
def message : ProcessOutcome → Option AgentMessage
  | submitted _ message => some message
  | failed _ message => message
  | cancelled _ | skipped _ _ => none

/-- `ProcessOutcome::job_id`. -/
def jobId : ProcessOutcome → PrintJobId
  | submitted id _ | failed id _ | cancelled id | skipped id _ => id

end ProcessOutcome

/-- Result of a best-effort cancellation request. -/
inductive CancelOutcome
  | cancellationRequested (jobId : PrintJobId)
  | cancelled (jobId : PrintJobId)
  | alreadyTerminal (jobId : PrintJobId) (state : JobState)
  | notFound (jobId : PrintJobId)
  deriving DecidableEq, Repr

/-- What a function that calls the repository leaves behind. -/
structure Answer (α : Type) where
  result : Except JobProcessingError α
  db : Database
  events : List RepositoryEvent

/-- An answer given without calling the repository. -/
def Answer.early {α : Type} (error : JobProcessingError) (db : Database) : Answer α where
  result := .error error
  db := db
  events := []

/-- A mapped answer is a success exactly when the answer is one. -/
lemma Except.map_mapError_eq_ok {ε ε' α : Type} {f : ε → ε'} {x : Except ε Unit} {a b : α} :
    (x.mapError f).map (fun _ => a) = .ok b ↔ x = .ok () ∧ b = a := by
  cases x <;> simp [Except.mapError, Except.map, eq_comm]

variable (config : AgentConfig) (env : Env)

/-! ## Receipt -/

/-- What `receive_print_job` stores of a message, once it has validated it. -/
def delivery (message : ServerMessage) (receivedAt : Timestamp) :
    Except JobProcessingError (PrintJob × ReceivedPrintJob Json.Value) := do
  message.validate.mapError .protocol
  match message.kind with
  | .printJob job => do
      job.validate.mapError .protocol
      let id ← (TypedIdentifier.new .printJob job.jobId).mapError .identifier
      let printerId ← (TypedIdentifier.new .printer job.printerId).mapError .identifier
      .ok (job,
        { id := id
          idempotencyKey := job.idempotencyKey
          printerId := printerId
          payload := job.toValue
          sourceMessageId := message.messageId
          receivedAt := receivedAt })
  | _ => .error .expectedPrintJob

/-- What `receive_print_job` makes of the answer of the store. -/
def receiptOutcome (job : PrintJob) (received : ReceivedPrintJob Json.Value) :
    InsertResult → Except JobProcessingError ReceiveJobOutcome
  | .inserted =>
      ((receivedMessage config.toLibraries job received.sourceMessageId received.receivedAt
        (env.uuid 0) (env.clock 1)).mapError .protocol).map .inserted
  | .duplicateJob state =>
      ((receivedMessage config.toLibraries job received.sourceMessageId (env.clock 1) (env.uuid 0)
        (env.clock 2)).mapError .protocol).map (.duplicateJob state)
  | .duplicateIdempotency existingJobId state =>
      .ok (.duplicateIdempotency received.id existingJobId state)

/-- `receive_print_job`. -/
def receivePrintJob (message : ServerMessage) (db : Database) : Answer ReceiveJobOutcome :=
  match delivery message (env.clock 0) with
  | .error e => .early e db
  | .ok (job, received) =>
    let reply := env.call config (.insertReceived received) (env.clock 0) db
    { result := (reply.result.mapError .storage).bind (receiptOutcome config env job received)
      db := reply.db
      events := reply.events }

/-! ## Preparation -/

/-- `validate_persisted_job`. -/
def validatePersistedJob (stored : StoredPrintJob Json.Value) (job : PrintJob) :
    Except JobFailure Unit :=
  match job.validate with
  | .error e => .error (.new .jobInvalidPersisted e.display false)
  | .ok () =>
    if job.jobId ≠ stored.id.value ∨ job.idempotencyKey ≠ stored.idempotencyKey ∨
        job.printerId ≠ stored.printerId.value then
      .error (.new .jobStorageMismatch
        "persisted job identity does not match its durable row" false)
    else .ok ()

/-- `resolve_enabled_printer`. -/
def resolveEnabledPrinter (printerId : PrinterId) : Except JobFailure Printer.PrinterRef :=
  match env.printer with
  | .error e => .error (.new .printerResolveFailed e.display true)
  | .ok none =>
      .error (.new .printerNotFound "the selected local printer is not configured" true)
  | .ok (some printer) =>
      if printer.id ≠ printerId then
        .error (.new .printerIdentityMismatch
          "the printer resolver returned a different stable identity" false)
      else if printer.enabled = false then
        .error (.new .printerDisabled "the selected local printer is disabled" true)
      else .ok printer

/-- `PageRenderOptions`. -/
structure PageRenderOptions where
  widthMm : UInt16
  heightMm : UInt16
  dpi : UInt16
  deriving DecidableEq, Repr

/-- `PageRenderOptions::A4_PORTRAIT`. -/
def PageRenderOptions.a4Portrait : PageRenderOptions where
  widthMm := 210
  heightMm := 297
  dpi := 300

/-- What a receipt is rendered for. -/
inductive RenderTarget
  | escPos
  | page (options : PageRenderOptions)
  deriving DecidableEq, Repr

open Printer in
/-- `printer_render_target`. -/
def printerRenderTarget (printer : PrinterRef) : Except JobFailure RenderTarget :=
  match printer.connection, printer.submissionMode, printer.virtualProfile with
  | .virtual _, .raw .escPos, some (.escPosReceipt _) => .ok .escPos
  | .systemQueue _, .raw .escPos, none => .ok .escPos
  | .network _ _, .raw .escPos, none => .ok .escPos
  | .usb _ _ _, .raw .escPos, none => .ok .escPos
  | .virtual _, .driver, some (.systemDriverPage pageWidthMm pageHeightMm dpi) =>
      .ok (.page { widthMm := pageWidthMm, heightMm := pageHeightMm, dpi := dpi })
  | .systemQueue _, .driver, none => .ok (.page .a4Portrait)
  | _, _, _ =>
      .error (.new .printerSubmissionModeUnsupported
        "the selected submission mode is not supported by this printer connection" false)

open Printer in
/-- `pdf_route`. -/
def pdfRoute (printer : PrinterRef) : Except JobFailure Unit :=
  let refused : Except JobFailure Unit :=
    .error (.new .documentFormatUnsupported
      ("PDF documents need a system printer queue or a virtual office printer in driver mode; " ++
        printer.displayName ++
        " cannot print PDFs. Send a structured receipt or select a document printer.") false)
  match printer.connection, printer.submissionMode, printer.virtualProfile with
  | .systemQueue _, .driver, none => .ok ()
  | .systemQueue _, .driver, some (.systemDriverPage _ _ _) => .ok ()
  | .virtual _, .driver, none => .ok ()
  | .virtual _, .driver, some (.systemDriverPage _ _ _) => .ok ()
  | _, _, _ => refused

/-- `render_receipt`. -/
def renderReceipt (printer : Printer.PrinterRef) : Except JobFailure Unit := do
  let _ ← printerRenderTarget printer
  env.rendered.mapError rendererFailure

/-- `render_pdf_job` up to the retrieval of the document. -/
def beforeFetch (printer : Printer.PrinterRef) : Except JobFailure Unit := do
  pdfRoute printer
  if config.documents then .ok ()
  else
    .error (.new .documentFetchUnavailable
      "this agent is not configured to retrieve PDF documents" false)

/-- `render_pdf_bytes`. -/
def renderPdfBytes : Except JobFailure Unit :=
  match env.renderedPdf with
  | .error e =>
      .error (.new .documentRenderFailed ("PDF validation did not finish: " ++ e) true)
  | .ok rendered => rendered.mapError pdfFailure

/-- Where `process_stored_job` stands with a job. -/
inductive Stage
  /-- About to retrieve the document. -/
  | fetching (job : PrintJob)
  /-- About to record a failure; without a job it cannot be reported. -/
  | persisting (job : Option PrintJob) (failure : JobFailure)
  /-- About to claim the job. -/
  | claiming (job : PrintJob)
  /-- Claimed, about to call the spooler. -/
  | claimed (job : PrintJob)
  /-- Waiting for the spooler. -/
  | submitting (job : PrintJob)
  /-- About to record what the spooler answered. -/
  | settling (job : PrintJob) (submission : Except SpoolerError SubmissionReceipt)

/-- Where a prepared job goes on. -/
def Stage.of (job : PrintJob) : Except JobFailure Unit → Stage
  | .ok () => .claiming job
  | .error failure => .persisting (some job) failure

/-- `process_stored_job` up to its first await that leaves the agent. -/
def prepare (stored : StoredPrintJob Json.Value) : Stage :=
  match config.printJobFromValue stored.payload with
  | .error e => .persisting none (.new .jobInvalidPersisted e false)
  | .ok job =>
    match (do validatePersistedJob stored job; resolveEnabledPrinter env stored.printerId) with
    | .error failure => .persisting (some job) failure
    | .ok printer =>
      match job.document with
      | .receipt _ => .of job (renderReceipt env printer)
      | .pdf _ =>
        match beforeFetch config printer with
        | .error failure => .persisting (some job) failure
        | .ok () => .fetching job

/-- `render_pdf_job` from the answer of the fetcher on. -/
def finishFetch (job : PrintJob) : Stage :=
  .of job (do
    env.fetched.mapError fetchFailure
    renderPdfBytes env)

/-! ## Claim, submission and settlement -/

/-- What the answer of `mark_submitting` means. -/
inductive Claim
  | claimed
  | skipped (state : JobState)
  deriving DecidableEq, Repr

/-- The claim at the start of `submit`. -/
def claim (stored : StoredPrintJob Json.Value) (db : Database) : Answer Claim :=
  let reply := env.call config (.markSubmitting stored.id) (env.clock 0) db
  { result :=
      match reply.result with
      | .ok () => .ok .claimed
      | .error (.invalidTransition _ current _) => .ok (.skipped current)
      | .error e => .error (.storage e)
    db := reply.db
    events := reply.events }

/-- `persist_failure_while_active`; without a job, `persist_unreportable_failure`. -/
def persistFailure (stored : StoredPrintJob Json.Value) (job : Option PrintJob)
    (failure : JobFailure) (db : Database) : Answer ProcessOutcome :=
  let failure := recoveryAwareFailure stored.recoveryCount failure
  let occurredAt := env.clock 0
  match job with
  | none =>
    let reply := env.call config (.markFailed stored.id (failure.stored occurredAt)) (env.clock 1) db
    { result := (reply.result.mapError .storage).map fun _ => .failed stored.id none
      db := reply.db
      events := reply.events }
  | some job =>
    match failedMessage config.toLibraries job stored.sourceMessageId occurredAt failure
        (env.uuid 0) (env.clock 1) with
    | .error e => .early (.protocol e) db
    | .ok message =>
      let reply := env.call config
        (.markFailedWithStatus stored.id (failure.stored occurredAt)
          (outboundStatus stored.id message (env.clock 2))) (env.clock 3) db
      { result := (reply.result.mapError .storage).map fun _ => .failed stored.id (some message)
        db := reply.db
        events := reply.events }

/-- `submit` from the answer of the spooler on. -/
def settle (stored : StoredPrintJob Json.Value) (job : PrintJob)
    (submission : Except SpoolerError SubmissionReceipt) (cancelled : Bool) (db : Database) :
    Answer ProcessOutcome :=
  match submission with
  | .ok receipt =>
    match submittedMessage config.toLibraries job stored.sourceMessageId receipt.acceptedAt
        (env.uuid 0) (env.clock 1) with
    | .error e => .early (.protocol e) db
    | .ok message =>
      let reply := env.call config
        (.markSubmittedWithStatus stored.id receipt (outboundStatus stored.id message (env.clock 2)))
        (env.clock 3) db
      { result := (reply.result.mapError .storage).map fun _ => .submitted stored.id message
        db := reply.db
        events := reply.events }
  | .error e =>
    if cancelled || e = .cancelled then
      let reply := env.call config (.markCancelled stored.id) (env.clock 0) db
      { result := (reply.result.mapError .storage).map fun _ => .cancelled stored.id
        db := reply.db
        events := reply.events }
    else persistFailure config env stored (some job) (spoolerFailure e) db

/-- `cancel_job` for a job that is not being submitted. -/
def cancelQueued (id : PrintJobId) (db : Database) : Answer CancelOutcome :=
  let reply := env.call config (.markCancelled id) (env.clock 0) db
  { result :=
      match reply.result with
      | .ok () => .ok (.cancelled id)
      | .error (.jobNotFound _) => .ok (.notFound id)
      | .error (.invalidTransition job current requested) =>
          if current.isTerminal then .ok (.alreadyTerminal id current)
          else .error (.storage (.invalidTransition job current requested))
      | .error e => .error (.storage e)
    db := reply.db
    events := reply.events }

/-- `pending_receipts`, from the jobs the store answered. -/
def pendingReceipts (stored : List (StoredPrintJob Json.Value)) :
    Except JobProcessingError (List AgentMessage) :=
  (stored.zipIdx.mapM fun (job, index) =>
    receivedMessageForStored config.toLibraries job (env.uuid index) (env.clock index)).mapError
      .protocol

end Oppa
