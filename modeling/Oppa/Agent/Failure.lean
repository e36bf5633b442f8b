import Oppa.Printer.Reference
import Oppa.Protocol.Document
import Oppa.Storage.Repository

/-!
# Failures of a job

What can go wrong between a stored job and the spooler, and the failure the agent records and
reports for it.

* `RendererError`, `SpoolerError`, `DocumentFetchError`, `PrinterResolutionError` — the answers of
  the parts the agent calls, with their texts.
* `FailureCode`, `JobFailure` — the code, the sanitized text and the retry flag of a failure.  A
  `JobFailure` carries the proof that its text has been sanitized.
* `rendererFailure`, `pdfFailure`, `spoolerFailure`, … — which failure an answer becomes.
* **`JobFailure.validate_stored`** — the store accepts every failure the agent records.
-/

namespace Oppa

open Text

/-! ## Answers of the parts the agent calls -/

/-- Failures of the renderer. -/
inductive RendererError
  | invalidLimits
  | invalidPageOptions
  | invalidDocument (reason : String)
  | unicodeRequiresRasterization
  | invalidImage (reason : String)
  | imageTooLarge (reason : String)
  | invalidBarcode (format : Protocol.BarcodeFormat) (reason : String)
  | outputTooLarge (actual maximum : ℕ)
  | invalidRasterPage (reason : String)
  | pageOverflow
  | barcodeRender (reason : String)
  | invalidPdf (reason : String)
  | encryptedPdf
  | pdfLimitExceeded (limit : String) (actual maximum : UInt64)
  | invalidPageRange (reason : String)
  | pdfRender (reason : String)
  | rasterizationTimedOut
  deriving DecidableEq, Repr

/-- How a barcode format is printed by its derived formatter. -/
def barcodeDebugName : Protocol.BarcodeFormat → String
  | .code128 => "Code128"
  | .code39 => "Code39"
  | .ean13 => "Ean13"
  | .upca => "Upca"

/-- The text of a renderer error. -/
def RendererError.display : RendererError → String
  | invalidLimits => "renderer output limit must be greater than zero"
  | invalidPageOptions => "page dimensions must be 100–500 mm and resolution 72–600 DPI"
  | invalidDocument reason => "print document is invalid: " ++ reason
  | unicodeRequiresRasterization =>
      "ESC/POS text contains Unicode that is not reliably supported; use a raster text renderer"
  | invalidImage reason => "image data is invalid: " ++ reason
  | imageTooLarge reason => "image exceeds renderer limits: " ++ reason
  | invalidBarcode format reason =>
      "barcode is invalid for " ++ barcodeDebugName format ++ ": " ++ reason
  | outputTooLarge actual maximum =>
      "rendered output is " ++ toString actual ++ " bytes; maximum is " ++ toString maximum
  | invalidRasterPage reason => "raster page is invalid: " ++ reason
  | pageOverflow => "receipt content exceeds the configured page height"
  | barcodeRender reason => "barcode cannot be rendered: " ++ reason
  | invalidPdf reason => "PDF document is invalid: " ++ reason
  | encryptedPdf =>
      "encrypted PDF documents are not supported; remove the password protection and retry"
  | pdfLimitExceeded limit actual maximum =>
      "PDF " ++ limit ++ " is " ++ toString actual.toNat ++ "; the maximum is " ++
        toString maximum.toNat
  | invalidPageRange reason => "page range is invalid: " ++ reason
  | pdfRender reason => "PDF rendering failed: " ++ reason
  | rasterizationTimedOut => "PDF rasterization did not finish within its time limit"

/-- Failures of a spooler; a duration is kept as it is printed. -/
inductive SpoolerError
  | invalidTarget (reason : String)
  | printerDisabled (printerId : PrinterId)
  | unsupportedTarget (kind : Printer.ConnectionKind)
  | unsupportedDocument (backend document : String)
  | invalidSubmissionMode (reason : String)
  | documentRender (reason : String)
  | documentTooLarge (actual maximum : ℕ)
  | backendUnavailable (reason : String)
  | connectivity (reason : String)
  | timeout (stage duration : String)
  | rejected (reason : String)
  | cancelled
  | simulatedFailure
  | invalidConfiguration (reason : String)
  | unsupportedOption (reason : String)
  deriving DecidableEq, Repr

/-- The text of a spooler error. -/
def SpoolerError.display : SpoolerError → String
  | invalidTarget reason => "printer target is invalid: " ++ reason
  | printerDisabled printerId => "printer " ++ printerId.value ++ " is disabled"
  | unsupportedTarget kind => "no spooler supports target type " ++ kind.debugName
  | unsupportedDocument backend document =>
      backend ++ " does not support " ++ document ++ " documents"
  | invalidSubmissionMode reason => "invalid printer submission mode: " ++ reason
  | documentRender reason => "document rendering failed: " ++ reason
  | documentTooLarge actual maximum =>
      "document is " ++ toString actual ++ " bytes; spooler maximum is " ++ toString maximum
  | backendUnavailable reason => "spooler backend is unavailable: " ++ reason
  | connectivity reason => "printer connectivity failed: " ++ reason
  | timeout stage duration => "printer " ++ stage ++ " timed out after " ++ duration
  | rejected reason => "printer backend rejected submission: " ++ reason
  | cancelled => "printer submission was cancelled"
  | simulatedFailure => "virtual printer simulated a submission failure"
  | invalidConfiguration reason => "invalid spooler configuration: " ++ reason
  | unsupportedOption reason => "printing option is not supported by this backend: " ++ reason

/-- Failures while retrieving the document of a PDF job; a duration is kept as it is printed. -/
inductive DocumentFetchError
  | invalidSource (reason : String)
  | authorization (reason : String)
  | refused (status : UInt16)
  | notFound (status : UInt16)
  | serverError (status : UInt16)
  | transport (reason : String)
  | timeout (duration : String)
  | lengthMismatch (expected actual : UInt64)
  | integrityMismatch
  deriving DecidableEq, Repr

/-- The text of a retrieval error. -/
def DocumentFetchError.display : DocumentFetchError → String
  | invalidSource reason => "the document reference is invalid: " ++ reason
  | authorization reason => "the document request could not be authorized: " ++ reason
  | refused status =>
      "the server refused the document request with HTTP " ++ toString status.toNat
  | notFound status =>
      "the server no longer has this document (HTTP " ++ toString status.toNat ++ ")"
  | serverError status =>
      "the server failed to provide the document (HTTP " ++ toString status.toNat ++ ")"
  | transport reason => "the document could not be downloaded: " ++ reason
  | timeout duration => "the document download did not finish within " ++ duration
  | lengthMismatch expected actual =>
      "the document is " ++ toString actual.toNat ++ " bytes; the job declares " ++
        toString expected.toNat ++ " bytes"
  | integrityMismatch => "the document failed its integrity check"

/-- Failures of the configured-printer resolver. -/
inductive PrinterResolutionError
  | invalidPrinter (reason : String)
  | duplicatePrinter (id : PrinterId)
  | backend (reason : String)
  deriving DecidableEq, Repr

/-- The text of a resolver error. -/
def PrinterResolutionError.display : PrinterResolutionError → String
  | invalidPrinter reason => "invalid printer reference: " ++ reason
  | duplicatePrinter id => "duplicate printer id " ++ id.value
  | backend reason => "printer resolver failed: " ++ reason

/-! ## Sanitized texts -/

/-- The longest run of characters that fits in a number of bytes: `truncate_utf8`. -/
def truncateUtf8 : ℕ → List Char → List Char
  | _, [] => []
  | budget, c :: cs => if c.utf8Size ≤ budget then c :: truncateUtf8 (budget - c.utf8Size) cs else []

/-- The text without control characters and outer white space, before it is cut. -/
def sanitizedChars (value : String) : List Char :=
  trimChars (value.toList.map fun c => if isControl c then ' ' else c)

/-- `sanitize_message`. -/
def sanitizeMessage (value : String) : String :=
  if (sanitizedChars value).isEmpty then "operation failed without diagnostic details"
  else String.ofList (truncateUtf8 1000 (sanitizedChars value))

/-- What the checks of messages and of the store ask of a failure text. -/
structure IsSanitized (text : String) : Prop where
  notBlank : ∃ c ∈ text.toList, isWhitespace c = false
  bounded : text.utf8ByteSize ≤ 1000

lemma bytes_truncateUtf8_le (budget : ℕ) (cs : List Char) :
    ((truncateUtf8 budget cs).map Char.utf8Size).sum ≤ budget := by
  induction cs generalizing budget with
  | nil => simp [truncateUtf8]
  | cons c cs ih =>
      unfold truncateUtf8
      split
      · rename_i hfits
        have hrest := ih (budget - c.utf8Size)
        simp only [List.map_cons, List.sum_cons]
        omega
      · simp

/-- The first character survives, since no character takes more than four bytes. -/
lemma truncateUtf8_cons {budget : ℕ} (hbudget : 4 ≤ budget) (c : Char) (cs : List Char) :
    truncateUtf8 budget (c :: cs) = c :: truncateUtf8 (budget - c.utf8Size) cs := by
  rw [truncateUtf8, if_pos]
  have hsize := utf8Size_eq c
  split_ifs at hsize <;> omega

/-- **Every failure text is fit to be stored and sent.** -/
theorem isSanitized_sanitizeMessage (value : String) : IsSanitized (sanitizeMessage value) := by
  unfold sanitizeMessage
  split
  · exact ⟨⟨'o', by decide, by decide⟩, by decide⟩
  · rename_i hchars
    refine ⟨?_, ?_⟩
    · cases hcs : sanitizedChars value with
      | nil => simp [hcs] at hchars
      | cons c cs =>
          rw [truncateUtf8_cons (by decide)]
          refine ⟨c, by simp, ?_⟩
          -- a trimmed text does not begin with white space
          exact isWhitespace_of_trimChars_cons hcs
    · rw [utf8ByteSize_ofList]
      exact bytes_truncateUtf8_le _ _

/-! ## Failures -/

/-- The machine-readable codes of the failures the agent reports. -/
inductive FailureCode
  | jobInvalidPersisted
  | jobStorageMismatch
  | jobRecoveryUncertain
  | printerResolveFailed
  | printerNotFound
  | printerIdentityMismatch
  | printerDisabled
  | printerSubmissionModeUnsupported
  | renderFailed
  | spoolerFailed
  | documentFetchUnavailable
  | documentFormatUnsupported
  | documentOptionUnsupported
  | documentRenderFailed
  | documentInvalid
  | documentEncrypted
  | documentLimitExceeded
  | documentPageRangeInvalid
  | documentSettingsInvalid
  | documentProcessingTimeout
  | documentInvalidSource
  | documentAuthorizationFailed
  | documentRefused
  | documentNotFound
  | documentFetchFailed
  | documentIntegrityFailed
  deriving DecidableEq, Repr

/-- The text of a code. -/
def FailureCode.text : FailureCode → String
  | jobInvalidPersisted => "job.invalid_persisted"
  | jobStorageMismatch => "job.storage_mismatch"
  | jobRecoveryUncertain => "job.recovery_uncertain"
  | printerResolveFailed => "printer.resolve_failed"
  | printerNotFound => "printer.not_found"
  | printerIdentityMismatch => "printer.identity_mismatch"
  | printerDisabled => "printer.disabled"
  | printerSubmissionModeUnsupported => "printer.submission_mode_unsupported"
  | renderFailed => "render.failed"
  | spoolerFailed => "spooler.failed"
  | documentFetchUnavailable => "document.fetch_unavailable"
  | documentFormatUnsupported => "document.format_unsupported"
  | documentOptionUnsupported => "document.option_unsupported"
  | documentRenderFailed => "document.render_failed"
  | documentInvalid => "document.invalid"
  | documentEncrypted => "document.encrypted"
  | documentLimitExceeded => "document.limit_exceeded"
  | documentPageRangeInvalid => "document.page_range_invalid"
  | documentSettingsInvalid => "document.settings_invalid"
  | documentProcessingTimeout => "document.processing_timeout"
  | documentInvalidSource => "document.invalid_source"
  | documentAuthorizationFailed => "document.authorization_failed"
  | documentRefused => "document.refused"
  | documentNotFound => "document.not_found"
  | documentFetchFailed => "document.fetch_failed"
  | documentIntegrityFailed => "document.integrity_failed"

/-- A sanitized failure of a job. -/
structure JobFailure where
  code : FailureCode
  message : String
  retryable : Bool
  sanitized : IsSanitized message

namespace JobFailure

/-- `JobFailure::new`. -/
def new (code : FailureCode) (message : String) (retryable : Bool) : JobFailure where
  code := code
  message := sanitizeMessage message
  retryable := retryable
  sanitized := isSanitized_sanitizeMessage message

/-- `JobFailure::stored`. -/
def stored (failure : JobFailure) (occurredAt : Timestamp) : StoredJobError where
  code := failure.code.text
  message := failure.message
  retryable := failure.retryable
  occurredAt := occurredAt

end JobFailure

/-- `renderer_failure`. -/
def rendererFailure (error : RendererError) : JobFailure :=
  .new .renderFailed error.display (error = .unicodeRequiresRasterization)

/-- `pdf_failure`. -/
def pdfFailure (error : RendererError) : JobFailure :=
  let (code, retryable) : FailureCode × Bool :=
    match error with
    | .invalidPdf _ => (.documentInvalid, false)
    | .encryptedPdf => (.documentEncrypted, false)
    | .pdfLimitExceeded _ _ _ => (.documentLimitExceeded, false)
    | .invalidPageRange _ => (.documentPageRangeInvalid, false)
    | .invalidDocument _ => (.documentSettingsInvalid, false)
    | .rasterizationTimedOut => (.documentProcessingTimeout, true)
    | .pdfRender _ => (.documentRenderFailed, false)
    | _ => (.renderFailed, false)
  .new code error.display retryable

/-- `DocumentFetchError::code`. -/
def DocumentFetchError.code : DocumentFetchError → FailureCode
  | invalidSource _ => .documentInvalidSource
  | authorization _ => .documentAuthorizationFailed
  | refused _ => .documentRefused
  | notFound _ => .documentNotFound
  | serverError _ | transport _ | timeout _ => .documentFetchFailed
  | lengthMismatch _ _ | integrityMismatch => .documentIntegrityFailed

/-- `DocumentFetchError::retryable`. -/
def DocumentFetchError.retryable : DocumentFetchError → Bool
  | serverError _ | transport _ | timeout _ => true
  | _ => false

/-- What `render_pdf_job` makes of a failed retrieval. -/
def fetchFailure (error : DocumentFetchError) : JobFailure :=
  .new error.code error.display error.retryable

/-- `spooler_failure`. -/
def spoolerFailure (error : SpoolerError) : JobFailure :=
  match error with
  | .unsupportedOption _ => .new .documentOptionUnsupported error.display false
  | .backendUnavailable _ | .connectivity _ | .timeout _ _ | .simulatedFailure =>
      .new .spoolerFailed error.display true
  | _ => .new .spoolerFailed error.display false

/-- `recovery_aware_failure`. -/
def recoveryAwareFailure (recoveryCount : ℕ) (failure : JobFailure) : JobFailure :=
  if recoveryCount = 0 then failure
  else
    .new .jobRecoveryUncertain
      ("an interrupted submission may already have reached its backend; replay failed: " ++
        failure.message) false

/-- Once a submission has been interrupted, no failure invites another attempt. -/
lemma recoveryAwareFailure_retryable {recoveryCount : ℕ} (h : recoveryCount ≠ 0)
    (failure : JobFailure) : (recoveryAwareFailure recoveryCount failure).retryable = false := by
  rw [recoveryAwareFailure, if_neg h]
  rfl

/-! ## The store accepts them -/

lemma validateKey_code (code : FailureCode) :
    validateKey "job error code" code.text 64 = .ok () := by
  cases code <;> decide +kernel

/-- **The store accepts every failure the agent records.** -/
theorem JobFailure.validate_stored (failure : JobFailure) (occurredAt : Timestamp) :
    (failure.stored occurredAt).validate = .ok () := by
  have hkey : validateKey "job error code" (failure.stored occurredAt).code 64 = .ok () :=
    validateKey_code failure.code
  have hblank : (trim (failure.stored occurredAt).message).isEmpty = false :=
    isEmpty_trim_of_mem failure.sanitized.notBlank
  have hlong : ¬ 2000 < (failure.stored occurredAt).message.utf8ByteSize := by
    have hbound := failure.sanitized.bounded
    simp only [stored]
    omega
  simp [StoredJobError.validate, hkey, hblank, hlong, bind, Except.bind, pure, Except.pure]

end Oppa
