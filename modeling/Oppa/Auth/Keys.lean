import Oppa.Foundation.Bytes
import Oppa.Foundation.Result
import Oppa.Protocol.Authentication

/-!
# Signing with the key of an agent

An agent has one key, kept in the credential store of its platform, and one function that signs with
it.  It is asked to sign in two contexts: the challenge of a gateway, whose bytes are opaque to it,
and its own requests for the documents of jobs.

* `KeyManager.sign`, `KeyManager.signChallenge` — the key manager.
* `canonicalRequest`, `documentRequestSignaturePayload` — the text of a document request, as the
  agent builds it and as the server does; `documentRequestSignaturePayload_eq` says that they are
  the same.
* `SigningRequest.signedBytes` — the bytes that are signed in either context;
  `signedBytes_challenge` and `signedBytes_document` connect them with the key manager.
-/

namespace Oppa.Auth

open Protocol Text

/-- Failures of the key manager. -/
inductive AuthError
  | invalidInput (reason : String)
  | credentialNotFound
  | credentialEncoding
  | invalidChallenge (reason : String)
  | platform (reason : String)
  deriving DecidableEq, Repr

/-- Longest payload that is signed. -/
def maxChallengeBytes : ℕ := 4 * 1024

/-- `validate_credential_ref`. -/
def validateCredentialRef (value : String) : Except AuthError Unit :=
  if ¬ "oppa-ed25519-".toList <+: value.toList ∨ 128 < value.utf8ByteSize ∨
      value.toList.any isControl then
    .error (.invalidInput "credential reference is invalid")
  else .ok ()

/-- `AgentKeyManager`, over a credential store and an implementation of Ed25519. -/
structure KeyManager (Seed Signature : Type) where
  /-- The seed a reference resolves to, read from the store and decoded. -/
  seed : String → Except AuthError Seed
  ed25519 : Seed → List UInt8 → Signature

namespace KeyManager

variable {Seed Signature : Type} (keys : KeyManager Seed Signature)

/-- `AgentKeyManager::sign`. -/
def sign (credentialRef : String) (payload : List UInt8) : Except AuthError Signature := do
  validateCredentialRef credentialRef
  if payload.isEmpty ∨ maxChallengeBytes < payload.length then
    .error (.invalidInput
      ("challenge payload must contain 1 to " ++ toString maxChallengeBytes ++ " bytes"))
  else
    let seed ← keys.seed credentialRef
    .ok (keys.ed25519 seed payload)

/-- `AgentKeyManager::sign_challenge`; the signature is encoded afterwards. -/
def signChallenge (credentialRef : String) (challenge : GatewayAuthenticationChallenge) :
    Except AuthError Signature := do
  challenge.validate.mapError fun e => .invalidChallenge e.display
  match decodeBase64Url challenge.payload with
  | none => .error (.invalidChallenge "payload is not unpadded base64url")
  | some payload => keys.sign credentialRef payload

end KeyManager

/-! ## Document requests -/

/-- Domain-separation tag at the start of every signed document request. -/
def signatureContext : String := "OPENPRINTER-DOCUMENT-V1"

/-- What a document request is about. -/
structure DocumentRequest where
  pathAndQuery : String
  agentId : String
  jobId : String
  timestampMs : ℕ
  sha256 : String
  deriving DecidableEq, Repr

/-- `canonical_request`. -/
def canonicalRequest (request : DocumentRequest) : String :=
  signatureContext ++ "\nGET\n" ++ request.pathAndQuery ++ "\n" ++ request.agentId ++ "\n" ++
    request.jobId ++ "\n" ++ toString request.timestampMs ++ "\n" ++ request.sha256

/-- `documentRequestSignaturePayload`, on the server. -/
def documentRequestSignaturePayload (request : DocumentRequest) : String :=
  "\n".intercalate
    [signatureContext, "GET", request.pathAndQuery, request.agentId, request.jobId,
      toString request.timestampMs, request.sha256]

/-- Both sides build the same text. -/
theorem documentRequestSignaturePayload_eq (request : DocumentRequest) :
    documentRequestSignaturePayload request = canonicalRequest request := by
  have hmethod : "\nGET\n" = "\n" ++ ("GET" ++ "\n") := by decide
  simp only [documentRequestSignaturePayload, canonicalRequest, String.intercalate_cons_cons,
    String.intercalate_singleton, hmethod, String.append_assoc]

/-- The bytes of a document request. -/
def DocumentRequest.bytes (request : DocumentRequest) : List UInt8 :=
  Bytes.encode (canonicalRequest request).toList

/-! ## Both contexts -/

/-- What the agent is asked to sign. -/
inductive SigningRequest
  | challenge (challenge : GatewayAuthenticationChallenge)
  | document (request : DocumentRequest)
  deriving DecidableEq, Repr

/-- The bytes the agent agrees to sign. -/
def SigningRequest.signedBytes : SigningRequest → Option (List UInt8)
  | .challenge frame =>
      match frame.validate with
      | .ok () => (decodeBase64Url frame.payload).filter fun payload =>
          !payload.isEmpty && payload.length ≤ maxChallengeBytes
      | .error _ => none
  | .document request =>
      if request.bytes.length ≤ maxChallengeBytes then some request.bytes else none

section Signed

variable {Seed Signature : Type} {keys : KeyManager Seed Signature} {credentialRef : String}
  {signature : Signature}

/-- What `sign` signs. -/
lemma sign_ok {payload : List UInt8} (hsign : keys.sign credentialRef payload = .ok signature) :
    payload.isEmpty = false ∧ payload.length ≤ maxChallengeBytes ∧
      ∃ seed, keys.seed credentialRef = .ok seed ∧ signature = keys.ed25519 seed payload := by
  simp only [KeyManager.sign, Result.bind_eq_ok] at hsign
  obtain ⟨_, _, hsign⟩ := hsign
  split at hsign
  · cases hsign
  · rename_i hsize
    rw [not_or] at hsize
    simp only [Result.bind_eq_ok] at hsign
    obtain ⟨seed, hseed, hsignature⟩ := hsign
    cases hsignature
    exact ⟨by simpa using hsize.1, by simpa using hsize.2, seed, hseed, rfl⟩

/-- The bytes behind the signature of a challenge. -/
theorem signedBytes_challenge {challenge : GatewayAuthenticationChallenge}
    (hsign : keys.signChallenge credentialRef challenge = .ok signature) :
    ∃ bytes seed, (SigningRequest.challenge challenge).signedBytes = some bytes ∧
      keys.seed credentialRef = .ok seed ∧ signature = keys.ed25519 seed bytes := by
  simp only [KeyManager.signChallenge, Result.bind_eq_ok, Result.mapError_eq_ok] at hsign
  obtain ⟨_, hvalid, hsign⟩ := hsign
  split at hsign
  · cases hsign
  · rename_i payload hpayload
    obtain ⟨hempty, hlength, seed, hseed, hsignature⟩ := sign_ok hsign
    refine ⟨payload, seed, ?_, hseed, hsignature⟩
    simp [SigningRequest.signedBytes, hvalid, hpayload, hempty, hlength]

/-- The bytes behind the signature of a document request. -/
theorem signedBytes_document {request : DocumentRequest}
    (hsign : keys.sign credentialRef request.bytes = .ok signature) :
    ∃ bytes seed, (SigningRequest.document request).signedBytes = some bytes ∧
      keys.seed credentialRef = .ok seed ∧ signature = keys.ed25519 seed bytes := by
  obtain ⟨_, hlength, seed, hseed, hsignature⟩ := sign_ok hsign
  exact ⟨request.bytes, seed, by simp [SigningRequest.signedBytes, hlength], hseed, hsignature⟩

end Signed

end Oppa.Auth
