import Oppa.Agent.Environment

/-!
# Status messages

The messages in which the agent reports what became of a job, and the form in which the outbox
keeps them.

* `receivedMessage`, `submittedMessage`, `failedMessage` — the three statuses; each goes through
  `agentMessage`, which draws an identifier and validates what it has built.
* `outboundStatus` — a status as the store takes it.
* **`agentMessage_of_valid`** — a status about valid parts is always built.
* **`prepareOutboundStatus_outboundStatus`** — and the store always takes a terminal one: its text
  fits the bound of the outbox.
-/

namespace Oppa

open Protocol Text

variable (libraries : Libraries)

/-- The envelope of a status. -/
def statusEnvelope (correlationId : String) (kind : AgentMessageKind) (uuid : Uuid)
    (sentAt : Timestamp) : AgentMessage where
  protocolVersion := kind.requiredVersion
  messageId := "msg_" ++ uuid.simple
  sentAt := libraries.display sentAt
  correlationId := some correlationId
  kind := kind

/-- `agent_message`. -/
def agentMessage (correlationId : String) (kind : AgentMessageKind) (uuid : Uuid)
    (sentAt : Timestamp) : Except ValidationError AgentMessage :=
  match (statusEnvelope libraries correlationId kind uuid sentAt).validate with
  | .ok () => .ok (statusEnvelope libraries correlationId kind uuid sentAt)
  | .error e => .error e

/-- `received_message`. -/
def receivedMessage (job : PrintJob) (correlationId : String) (receivedAt : Timestamp) (uuid : Uuid)
    (sentAt : Timestamp) : Except ValidationError AgentMessage :=
  agentMessage libraries correlationId
    (.jobReceived
      { jobId := job.jobId
        idempotencyKey := job.idempotencyKey
        status := .received
        receivedAt := libraries.display receivedAt }) uuid sentAt

/-- `received_message_for_stored`. -/
def receivedMessageForStored (stored : StoredPrintJob Json.Value) (uuid : Uuid)
    (sentAt : Timestamp) : Except ValidationError AgentMessage :=
  agentMessage libraries stored.sourceMessageId
    (.jobReceived
      { jobId := stored.id.value
        idempotencyKey := stored.idempotencyKey
        status := .received
        receivedAt := libraries.display stored.receivedAt }) uuid sentAt

/-- The payload of `submitted_message`. -/
def submittedPayload (job : PrintJob) (submittedAt : Timestamp) : JobSubmitted where
  jobId := job.jobId
  idempotencyKey := job.idempotencyKey
  printerId := job.printerId
  status := .submitted
  submittedAt := libraries.display submittedAt

/-- `submitted_message`. -/
def submittedMessage (job : PrintJob) (correlationId : String) (submittedAt : Timestamp)
    (uuid : Uuid) (sentAt : Timestamp) : Except ValidationError AgentMessage :=
  agentMessage libraries correlationId (.jobSubmitted (submittedPayload libraries job submittedAt))
    uuid sentAt

/-- The payload of `failed_message`. -/
def failedPayload (job : PrintJob) (failedAt : Timestamp) (failure : JobFailure) : JobFailed where
  jobId := job.jobId
  idempotencyKey := job.idempotencyKey
  status := .failed
  failedAt := libraries.display failedAt
  error :=
    { code := failure.code.text
      message := failure.message
      retryable := failure.retryable }

/-- `failed_message`. -/
def failedMessage (job : PrintJob) (correlationId : String) (failedAt : Timestamp)
    (failure : JobFailure) (uuid : Uuid) (sentAt : Timestamp) :
    Except ValidationError AgentMessage :=
  agentMessage libraries correlationId (.jobFailed (failedPayload libraries job failedAt failure))
    uuid sentAt

/-- `outbound_status`. -/
def outboundStatus (jobId : PrintJobId) (message : AgentMessage) (createdAt : Timestamp) :
    NewOutboundStatus Json.Value where
  messageId := message.messageId
  jobId := jobId
  payload := message.toValue
  createdAt := createdAt

/-- The job a terminal status is about. -/
def terminalJobId (message : AgentMessage) : Option String :=
  match message.kind with
  | .jobSubmitted payload => some payload.jobId
  | .jobFailed payload => some payload.jobId
  | _ => none

/-- The job an acknowledgement is about. -/
def receivedJobId (message : AgentMessage) : Option String :=
  match message.kind with
  | .jobReceived payload => some payload.jobId
  | _ => none

/-- `validate_outbound_status`. -/
def validateOutboundStatus (storedMessageId : String) (storedJobId : PrintJobId)
    (message : AgentMessage) : Except String Unit :=
  if message.messageId ≠ storedMessageId then
    .error "message identity does not match its outbox row"
  else
    match terminalJobId message with
    | none => .error "outbox payload is not a terminal job status"
    | some jobId =>
      if jobId ≠ storedJobId.value then .error "job identity does not match its outbox row"
      else .ok ()

/-! ## Statuses are built -/

variable {libraries} {correlationId : String} {kind : AgentMessageKind} {uuid : Uuid}
  {sentAt : Timestamp} {message : AgentMessage}

lemma agentMessage_ok (h : agentMessage libraries correlationId kind uuid sentAt = .ok message) :
    message = statusEnvelope libraries correlationId kind uuid sentAt ∧
      message.validate = .ok () := by
  unfold agentMessage at h
  split at h
  · rename_i hvalid
    cases h
    exact ⟨rfl, hvalid⟩
  · cases h

/-- Random identifiers name messages as the protocol asks. -/
lemma validateIdentifier_uuid (uuid : Uuid) (path : String) :
    Protocol.validateIdentifier ("msg_" ++ uuid.simple) path 128 = .ok () := by
  have hdigit : ∀ n, isAsciiAlphanumeric (Json.Value.hexDigit (n % 16)) = true := by
    intro n
    have hlt := Nat.mod_lt n (by decide : 16 > 0)
    interval_cases hn : n % 16 <;> decide
  have hchars : ("msg_" ++ uuid.simple).toList = 'm' :: 's' :: 'g' :: '_' :: uuid.digits := by
    simp [Uuid.simple]
  have hall : ∀ c ∈ uuid.digits, isAsciiAlphanumeric c = true := by
    intro c hc
    obtain ⟨i, -, rfl⟩ := List.mem_map.mp hc
    exact hdigit _
  have hunits : (uuid.digits.map utf16Size).sum = 32 := by
    have hone : uuid.digits.map utf16Size = List.replicate 32 1 := by
      refine List.eq_replicate_iff.mpr ⟨by simp [Uuid.digits], fun n hn => ?_⟩
      obtain ⟨c, hc, rfl⟩ := List.mem_map.mp hn
      have hascii := isAsciiAlphanumeric_lt (hall c hc)
      exact if_pos (by omega)
    rw [hone]
    rfl
  unfold Protocol.validateIdentifier
  rw [hchars]
  simp only [utf16Length, hchars, List.map_cons, List.sum_cons, hunits]
  rw [if_neg (by decide), if_pos]
  have hrest : uuid.digits.all isIdentifierCharacter = true :=
    List.all_eq_true.mpr fun c hc => by simp [isIdentifierCharacter, hall c hc]
  simp only [List.all_cons, hrest]
  decide

/-- A kind of message that reports what became of a job. -/
def isJobStatus : AgentMessageKind → Bool
  | .jobReceived _ | .jobSubmitted _ | .jobFailed _ => true
  | _ => false

/-- **A status about valid parts is built.** -/
theorem agentMessage_of_valid (hstatus : isJobStatus kind = true)
    (hcorrelation : Protocol.validateIdentifier correlationId "correlationId" 128 = .ok ())
    (hsent : validateTimestamp (libraries.display sentAt) "sentAt" = .ok ())
    (hkind : kind.validate = .ok ()) :
    agentMessage libraries correlationId kind uuid sentAt
      = .ok (statusEnvelope libraries correlationId kind uuid sentAt) := by
  have henvelope : validateEnvelope ("msg_" ++ uuid.simple) (libraries.display sentAt)
      (some correlationId) = .ok () := by
    simp only [validateEnvelope, validateOptional, andThen_eq_ok]
    exact ⟨validateIdentifier_uuid uuid _, hsent, hcorrelation⟩
  have hvalid : (statusEnvelope libraries correlationId kind uuid sentAt).validate = .ok () := by
    simp only [AgentMessage.validate, statusEnvelope, henvelope, hkind, andThen_eq_ok, true_and,
      and_true]
    -- the three statuses are the kinds that have to answer a request
    cases kind with
    | jobReceived payload => exact ⟨rfl, rfl⟩
    | jobSubmitted payload => exact ⟨rfl, rfl⟩
    | jobFailed payload => exact ⟨rfl, rfl⟩
    | _ => simp [isJobStatus] at hstatus
  unfold agentMessage
  rw [hvalid]

/-- What a job has to be for statuses about it to be valid. -/
structure ReportableJob (job : PrintJob) : Prop where
  jobId : Protocol.validateIdentifier job.jobId "jobId" 128 = .ok ()
  idempotencyKey : validateString job.idempotencyKey "idempotencyKey" 1 256 = .ok ()
  printerId : Protocol.validateIdentifier job.printerId "printerId" 128 = .ok ()

lemma reportableJob_of_valid {job : PrintJob} (h : job.validate = .ok ()) : ReportableJob job := by
  simp only [PrintJob.validate, andThen_eq_ok] at h
  exact ⟨h.1, h.2.1, h.2.2.1⟩

section Payloads

variable {job : PrintJob} {at' : Timestamp}

lemma submittedPayload_valid (hjob : ReportableJob job)
    (hat : validateTimestamp (libraries.display at') "submittedAt" = .ok ()) :
    (AgentMessageKind.jobSubmitted (submittedPayload libraries job at')).validate = .ok () := by
  simp only [AgentMessageKind.validate, within_eq_ok, JobSubmitted.validate, validateJobIdentity,
    validateExpectedStatus, submittedPayload, andThen_eq_ok, if_true]
  exact ⟨⟨hjob.jobId, hjob.idempotencyKey⟩, hjob.printerId, trivial, hat⟩

lemma validateIdentifier_code (code : FailureCode) :
    Protocol.validateIdentifier code.text "code" 128 = .ok () := by
  cases code <;> decide +kernel

lemma validateString_sanitized {text : String} (h : IsSanitized text) :
    validateString text "message" 1 1024 = .ok () := by
  obtain ⟨c, hc, -⟩ := h.notBlank
  have hlong := (utf16Length_le_utf8ByteSize text).trans h.bounded
  have hne : text.toList ≠ [] := List.ne_nil_of_mem hc
  have hshort : 1 ≤ utf16Length text := by
    rw [utf16Length]
    cases htext : text.toList with
    | nil => exact absurd htext hne
    | cons d ds =>
        have hone := Json.Value.one_le_utf16Size d
        simp only [List.map_cons, List.sum_cons]
        omega
  rw [validateString, if_pos]
  simp only [Bool.and_eq_true, decide_eq_true_eq]
  omega

lemma failedPayload_valid {failure : JobFailure} (hjob : ReportableJob job)
    (hat : validateTimestamp (libraries.display at') "failedAt" = .ok ()) :
    (AgentMessageKind.jobFailed (failedPayload libraries job at' failure)).validate = .ok () := by
  simp only [AgentMessageKind.validate, within_eq_ok, JobFailed.validate, validateJobIdentity,
    validateExpectedStatus, failedPayload, FailureDetail.validate, andThen_eq_ok, if_true]
  exact ⟨⟨hjob.jobId, hjob.idempotencyKey⟩, trivial, hat, validateIdentifier_code failure.code,
    validateString_sanitized failure.sanitized⟩

end Payloads

/-! ## The outbox takes them -/

/-- An identifier of the protocol passes the checks of the store. -/
lemma validateKey_of_identifier {value path field : String} {max : ℕ}
    (h : Protocol.validateIdentifier value path max = .ok ()) : validateKey field value max = .ok () := by
  obtain ⟨hne, hlen, hchars⟩ := identifier_of_valid h
  have hwhite : ∀ c ∈ value.toList, isWhitespace c = false := by
    intro c hc
    obtain ⟨hlow, hhigh⟩ := hchars c hc
    simp only [isWhitespace, Bool.or_eq_false_iff, Bool.and_eq_false_iff, decide_eq_false_iff_not,
      beq_eq_false_iff_ne]
    omega
  have htrim : trim value = value := trim_of_forall hwhite
  have hempty : value.isEmpty = false := by
    rw [Bool.eq_false_iff]
    exact fun he => hne (by simpa [String.isEmpty_iff] using he)
  have hcontrol : value.toList.any isControl = false := by
    rw [List.any_eq_false]
    intro c hc
    obtain ⟨hlow, hhigh⟩ := hchars c hc
    simp only [isControl, Bool.or_eq_true, Bool.and_eq_true, decide_eq_true_eq]
    omega
  have hbytes : value.utf8ByteSize = utf16Length value := by
    rw [utf8ByteSize_eq_sum, utf16Length]
    congr 1
    refine List.map_congr_left fun c hc => ?_
    obtain ⟨hlow, hhigh⟩ := hchars c hc
    rw [utf8Size_eq, utf16Size, if_pos (by omega), if_pos (by omega)]
  rw [validateKey, if_neg]
  simp only [htrim, hempty, hcontrol, hbytes, bne_self_eq_false, Bool.or_false, Bool.false_or,
    decide_eq_true_eq]
  omega

lemma utf16Length_statusName (status : JobStatus) : utf16Length status.name ≤ 9 := by
  cases status <;> decide

/-- **A terminal status fits the bound of the outbox.** -/
theorem utf8ByteSize_terminal_le (hvalid : message.validate = .ok ())
    (hterminal : (terminalJobId message).isSome = true) :
    message.toValue.toString.utf8ByteSize ≤ maxOutboundStatusBytes := by
  refine (Json.Value.utf8ByteSize_toString_le _).trans ?_
  simp only [AgentMessage.validate, validateEnvelope, andThen_eq_ok] at hvalid
  obtain ⟨⟨hmid, hsent, hcorr⟩, -, -, hkind⟩ := hvalid
  have hmid := (identifier_of_valid hmid).2.1
  have hsent := (utf16Length_le_utf8ByteSize _).trans (timestamp_of_valid hsent)
  have hcorr : ∀ id ∈ message.correlationId, utf16Length id ≤ 128 := by
    rintro id hid
    rw [Option.mem_def.mp hid] at hcorr
    exact (identifier_of_valid hcorr).2.1
  have hkeys : ∀ s ∈ ["correlationId", "messageId", "payload", "protocolVersion", "sentAt", "type",
      "1", "2", "agent.job_submitted", "agent.job_failed", "idempotencyKey", "jobId", "printerId",
      "status", "submittedAt", "error", "failedAt", "code", "message", "retryable"],
      utf16Length s ≤ 19 := by decide
  simp only [List.forall_mem_cons] at hkeys
  obtain ⟨h1, h2, h3, h4, h5, h6, h7, h8, h9, h10, h11, h12, h13, h14, h15, h16, h17, h18, h19, h20,
    -⟩ := hkeys
  have hversion : utf16Length message.protocolVersion.asStr ≤ 19 := by
    cases message.protocolVersion <;> assumption
  have hcorrelation : Json.Value.weightMembers
      (Json.optionalMember "correlationId" (message.correlationId.map .string)) ≤ 1024 := by
    cases hc : message.correlationId with
    | none => simp [Json.optionalMember, Json.Value.weightMembers]
    | some id =>
        have hid := hcorr id hc
        simp only [Json.optionalMember, Option.map_some, Option.toList_some,
          Json.Value.weightMembers, Json.Value.weight]
        omega
  have hpayload : message.kind.toValue.weight ≤ 32768 ∧
      utf16Length message.kind.messageType ≤ 19 := by
    unfold terminalJobId at hterminal
    split at hterminal
    · rename_i payload hk
      rw [hk] at hkind ⊢
      simp only [AgentMessageKind.validate, within_eq_ok, JobSubmitted.validate,
        validateJobIdentity, andThen_eq_ok] at hkind
      obtain ⟨⟨hjob, hkey⟩, hprinter, -, hat⟩ := hkind
      have hjob := (identifier_of_valid hjob).2.1
      have hkey := (string_of_valid hkey).2
      have hprinter := (identifier_of_valid hprinter).2.1
      have hat := (utf16Length_le_utf8ByteSize _).trans (timestamp_of_valid hat)
      have hname := utf16Length_statusName payload.status
      refine ⟨?_, h9⟩
      simp only [AgentMessageKind.toValue, JobSubmitted.toValue, Json.Value.weight,
        Json.Value.weightMembers]
      omega
    · rename_i payload hk
      rw [hk] at hkind ⊢
      simp only [AgentMessageKind.validate, within_eq_ok, JobFailed.validate,
        validateJobIdentity, FailureDetail.validate, andThen_eq_ok] at hkind
      obtain ⟨⟨hjob, hkey⟩, -, hat, hcode, htext⟩ := hkind
      have hjob := (identifier_of_valid hjob).2.1
      have hkey := (string_of_valid hkey).2
      have hcode := (identifier_of_valid hcode).2.1
      have htext := (string_of_valid htext).2
      have hat := (utf16Length_le_utf8ByteSize _).trans (timestamp_of_valid hat)
      have hname := utf16Length_statusName payload.status
      refine ⟨?_, h10⟩
      simp only [AgentMessageKind.toValue, JobFailed.toValue, FailureDetail.toValue,
        Json.Value.weight, Json.Value.weightMembers]
      omega
    · simp at hterminal
  obtain ⟨hweight, htype⟩ := hpayload
  have hsplit := Json.Value.weightMembers_append
    (Json.optionalMember "correlationId" (message.correlationId.map .string))
  simp only [AgentMessage.toValue, Json.Value.weight, hsplit, Json.Value.weightMembers,
    maxOutboundStatusBytes]
  omega

/-- **The store takes every terminal status the agent has built.** -/
theorem prepareOutboundStatus_outboundStatus {config : AgentConfig} {jobId : PrintJobId}
    {createdAt : Timestamp} (hvalid : message.validate = .ok ())
    (hterminal : (terminalJobId message).isSome = true) :
    prepareOutboundStatus config.storage.codec jobId (outboundStatus jobId message createdAt) =
      .ok { messageId := message.messageId
            jobId := jobId
            payloadJson := message.toValue.toString
            createdAt := createdAt } := by
  have hid : Protocol.validateIdentifier message.messageId "messageId" 128 = .ok () := by
    simp only [AgentMessage.validate, validateEnvelope, andThen_eq_ok] at hvalid
    exact hvalid.1.1
  have hkey : validateKey "outbound message id" message.messageId 128 = .ok () :=
    validateKey_of_identifier hid
  have hfits := utf8ByteSize_terminal_le hvalid hterminal
  simp [prepareOutboundStatus, outboundStatus, hkey, boundedJson, AgentConfig.storage,
    not_lt.mpr hfits, bind, Except.bind]

end Oppa
