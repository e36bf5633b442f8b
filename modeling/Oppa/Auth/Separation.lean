import Oppa.Auth.Keys
import Oppa.Server.Authentication

/-!
# One key, two contexts

Whether a signature that the agent made in one context can be taken for one of the other.

* `challenged_payload` — every challenge that a session issues has the text that
  `beginAuthentication` builds.
* `challengeBytes_untagged` — such a text does not begin with the tag of document requests, and
  `documentTag_leads` says that every document request does.
* **`signatures_separated`** — with Ed25519 taken as unforgeable, signatures are separated as long
  as no gateway has the agent sign a challenge that begins with the tag of document requests.  The
  agent does not look at the bytes of a challenge, so a gateway can have it sign one:
  `document_request_as_challenge`.
-/

namespace Oppa.Auth

open Protocol Server

/-! ## The challenges of a session -/

/-- The bytes a session asks to be signed. -/
def challengeBytes (challenge : Challenge) : List UInt8 := Bytes.encode challenge.payload.toList

section Challenges

variable {Input : Type} {config : SessionConfig Input} {session : Session Input}
  {history : List (Effect Input)} {challenge : Challenge}

/-- An instruction that issues a challenge builds its text. -/
lemma payload_of_perform {code : Code Input}
    (heffect : .challenged challenge ∈ (perform config session code).effects) :
    ∃ challengeId expiresAt, challenge.payload = challengePayload config challengeId expiresAt := by
  rcases (performs session code).challenge_cases with ⟨_, hnone⟩ | ⟨rfl, _⟩
  · exact absurd heffect (hnone challenge)
  · simp only [perform, beginAuthentication, List.mem_singleton, Effect.challenged.injEq] at heffect
    rw [heffect]
    exact ⟨_, _, rfl⟩

/-- A step that issues a challenge builds its text. -/
lemma payload_of_step {action : Action Input} {session' : Session Input}
    {effects : List (Effect Input)}
    (hstep : (sessionSystem config).step session action = some (session', effects))
    (heffect : .challenged challenge ∈ effects) :
    ∃ challengeId expiresAt, challenge.payload = challengePayload config challengeId expiresAt := by
  simp only [sessionSystem, Session.step] at hstep
  split at hstep
  · rename_i task hrunning
    rcases task with ⟨owner, stack⟩
    cases stack with
    | nil =>
        cases hstep
        cases heffect
    | cons code stack =>
        cases hstep
        rcases List.mem_append.mp heffect with hperformed | hnext
        · exact payload_of_perform hperformed
        · rcases mem_nextEffects.mp hnext with ⟨_, _, _, _, h⟩ | ⟨_, _, _, h⟩
          · cases h
          · cases h
  · cases hstep
  · rcases (reacts hstep).effects with rfl | ⟨_, rfl⟩ | ⟨_, _, _, rfl⟩ | ⟨_, _, _, _, rfl⟩
    · cases heffect
    · simp at heffect
    · simp at heffect
    · simp at heffect

/-- **Every challenge of a session has the text that `beginAuthentication` builds.** -/
theorem challenged_payload
    (hrun : (sessionSystem config).Runs History.anyStep (Session.initial config) history session)
    (hchallenged : .challenged challenge ∈ history) :
    ∃ challengeId expiresAt, challenge.payload = challengePayload config challengeId expiresAt := by
  induction hrun with
  | start => cases hchallenged
  | step _ _ hstep ih =>
      rcases List.mem_append.mp hchallenged with hearlier | hnow
      · exact ih hearlier
      · exact payload_of_step hstep hnow

end Challenges

/-! ## Tags -/

/-- How every document request begins. -/
def documentTag : List UInt8 := Bytes.encode (signatureContext ++ "\nGET\n").toList

/-- Every document request begins with its tag. -/
lemma documentTag_leads (request : DocumentRequest) : documentTag <+: request.bytes := by
  have htext : canonicalRequest request = (signatureContext ++ "\nGET\n") ++
      (request.pathAndQuery ++ "\n" ++ request.agentId ++ "\n" ++ request.jobId ++ "\n" ++
        toString request.timestampMs ++ "\n" ++ request.sha256) := by
    simp only [canonicalRequest, String.append_assoc]
  rw [DocumentRequest.bytes, htext, String.toList_append, Bytes.encode_append]
  exact List.prefix_append _ _

/-- The text of a challenge begins with a small letter. -/
lemma head_challengePayload {Input : Type} (config : SessionConfig Input)
    (challengeId expiresAt : String) :
    (Bytes.encode (challengePayload config challengeId expiresAt).toList).head? = some 0x6f := by
  have htag : "openprinter-auth-v1" = "o" ++ "penprinter-auth-v1" := by decide
  rw [challengePayload, String.intercalate_cons_cons, htag, String.append_assoc,
    String.append_assoc, String.toList_append, Bytes.encode_append]
  rfl

/-- **No challenge of a session begins with the tag of document requests.** -/
theorem challengeBytes_untagged {Input : Type} {config : SessionConfig Input}
    {challenge : Challenge}
    (hpayload : ∃ challengeId expiresAt,
      challenge.payload = challengePayload config challengeId expiresAt) :
    ¬ documentTag <+: challengeBytes challenge := by
  obtain ⟨challengeId, expiresAt, hpayload⟩ := hpayload
  rintro ⟨rest, hrest⟩
  have hhead := head_challengePayload config challengeId expiresAt
  rw [← hpayload, ← challengeBytes, ← hrest] at hhead
  have htag : (documentTag ++ rest).head? = some 0x4f := rfl
  rw [htag] at hhead
  exact absurd hhead (by decide)

/-! ## Signatures -/

/-- What the agent has signed with its key: nothing verifies that it has not. -/
def Unforgeable {Signature : Type} (verify : List UInt8 → Signature → Bool)
    (signed : List SigningRequest) : Prop :=
  ∀ bytes signature, verify bytes signature = true →
    ∃ request ∈ signed, request.signedBytes = some bytes

/-- No gateway has had the agent sign a challenge that begins with the tag of document requests. -/
def Untagged (signed : List SigningRequest) : Prop :=
  ∀ challenge bytes, .challenge challenge ∈ signed →
    (SigningRequest.challenge challenge).signedBytes = some bytes → ¬ documentTag <+: bytes

/-- A challenge that a session of a server has issued. -/
def Issued {Input : Type} (config : SessionConfig Input) (challenge : Challenge) : Prop :=
  ∃ history session,
    (sessionSystem config).Runs History.anyStep (Session.initial config) history session ∧
      .challenged challenge ∈ history

/-- The signatures of the two contexts are apart. -/
structure Separated {Input Signature : Type} (config : SessionConfig Input)
    (verify : List UInt8 → Signature → Bool) (signed : List SigningRequest) : Prop where
  /-- The bytes signed for a gateway are not those of a document request. -/
  challenge : ∀ (frame : GatewayAuthenticationChallenge) (bytes : List UInt8)
    (request : DocumentRequest), .challenge frame ∈ signed →
      (SigningRequest.challenge frame).signedBytes = some bytes → bytes ≠ request.bytes
  /-- The bytes of a document request are not those of a challenge a session issued. -/
  issued : ∀ (challenge : Challenge) (request : DocumentRequest), Issued config challenge →
    challengeBytes challenge ≠ request.bytes
  /-- What verifies for a document request was signed for it. -/
  documentVerifies : ∀ (request : DocumentRequest) (signature : Signature),
    verify request.bytes signature = true →
      ∃ other, .document other ∈ signed ∧ other.bytes = request.bytes
  /-- What verifies for a challenge a session issued was signed for a gateway. -/
  challengeVerifies : ∀ (challenge : Challenge) (signature : Signature), Issued config challenge →
    verify (challengeBytes challenge) signature = true →
      ∃ frame, .challenge frame ∈ signed ∧
        (SigningRequest.challenge frame).signedBytes = some (challengeBytes challenge)

lemma issued_untagged {Input : Type} {config : SessionConfig Input} {challenge : Challenge}
    (hissued : Issued config challenge) : ¬ documentTag <+: challengeBytes challenge := by
  rcases hissued with ⟨history, session, hrun, hchallenged⟩
  exact challengeBytes_untagged (challenged_payload hrun hchallenged)

lemma bytes_of_signed_document {request : DocumentRequest} {bytes : List UInt8}
    (hbytes : (SigningRequest.document request).signedBytes = some bytes) :
    request.bytes = bytes := by
  simp only [SigningRequest.signedBytes, Option.ite_none_right_eq_some] at hbytes
  exact Option.some.inj hbytes.2

/-- **Signatures are separated by purpose**, unless the bytes of a challenge that the agent signed
begin with the tag of document requests. -/
theorem signatures_separated {Input Signature : Type} (config : SessionConfig Input)
    (verify : List UInt8 → Signature → Bool) (signed : List SigningRequest)
    (hunforgeable : Unforgeable verify signed) (huntagged : Untagged signed) :
    Separated config verify signed where
  challenge frame bytes request hmem hbytes heq := by
    have htag := documentTag_leads request
    rw [← heq] at htag
    exact huntagged frame bytes hmem hbytes htag
  issued challenge request hissued heq := by
    have htag := documentTag_leads request
    rw [← heq] at htag
    exact issued_untagged hissued htag
  documentVerifies request signature hverify := by
    rcases hunforgeable _ _ hverify with ⟨signing, hmem, hbytes⟩
    cases signing with
    | challenge frame => exact absurd (documentTag_leads request) (huntagged _ _ hmem hbytes)
    | document other => exact ⟨other, hmem, bytes_of_signed_document hbytes⟩
  challengeVerifies challenge signature hissued hverify := by
    rcases hunforgeable _ _ hverify with ⟨signing, hmem, hbytes⟩
    cases signing with
    | challenge frame => exact ⟨frame, hmem, hbytes⟩
    | document other =>
        have htag := documentTag_leads other
        rw [bytes_of_signed_document hbytes] at htag
        exact absurd htag (issued_untagged hissued)

namespace Sample

/-- A request for the document of a job. -/
def request : DocumentRequest where
  pathAndQuery := "/d/job_1?v=1"
  agentId := "agent_1"
  jobId := "job_1"
  timestampMs := 1700
  sha256 := "ab"

/-- A gateway that has it signed as a challenge. -/
def hostile : GatewayAuthenticationChallenge where
  messageType := "auth.challenge"
  challengeId := "challenge_1"
  payload := encodeBase64Url request.bytes
  expiresAt := "2026-07-01T09:00:00Z"

/-- The challenge of a gateway that is what it seems. -/
def honest : GatewayAuthenticationChallenge :=
  { hostile with
    payload := encodeBase64Url (Bytes.encode "openprinter-auth-v1\nserver_1".toList) }

/-- What the agent has signed: one challenge and one request. -/
def signed : List SigningRequest := [.challenge honest, .document request]

/-- A signature is its own text. -/
def verify (bytes signature : List UInt8) : Bool :=
  bytes = signature && signed.any fun request => request.signedBytes = some bytes

end Sample

/-- A signature of a request that verifies was made for a request. -/
theorem signatures_separated_sample :
    ∃ other, .document other ∈ Sample.signed ∧ other.bytes = Sample.request.bytes := by
  refine (signatures_separated Server.Sample.config Sample.verify Sample.signed ?_
    ?_).documentVerifies Sample.request Sample.request.bytes ?_
  · intro bytes signature hverify
    simp only [Sample.verify, Bool.and_eq_true, List.any_eq_true, decide_eq_true_eq] at hverify
    exact hverify.2
  · intro challenge bytes hmem hbytes htag
    simp only [Sample.signed, List.mem_cons, SigningRequest.challenge.injEq, reduceCtorEq,
      List.not_mem_nil, or_false] at hmem
    rw [hmem] at hbytes
    have hhonest : (SigningRequest.challenge Sample.honest).signedBytes.all
        (fun bytes => !documentTag.isPrefixOf bytes) = true := by decide +kernel
    rw [hbytes, Option.all_some, List.isPrefixOf_iff_prefix.mpr htag] at hhonest
    cases hhonest
  · decide +kernel

/-- A gateway has the agent sign, as a challenge, the bytes of a request for a document. -/
theorem document_request_as_challenge :
    Sample.hostile.validate = .ok () ∧
      (SigningRequest.challenge Sample.hostile).signedBytes = some Sample.request.bytes := by
  decide +kernel

end Oppa.Auth
