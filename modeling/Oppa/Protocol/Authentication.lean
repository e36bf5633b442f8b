import Oppa.Foundation.Base64
import Oppa.Protocol.Validation

/-!
# Authentication frames

What a gateway and an agent exchange before any other traffic, with the checks.

* `GatewayAuthenticationChallenge`, `GatewayAuthenticationAccepted`, `GatewayAuthenticationRejected`
  — the frames of the gateway.
* `GatewayAuthenticationResponse` — the proof that an agent sends.
-/

namespace Oppa.Protocol

/-- Bytes of a text in base64 for URLs. -/
def decodeBase64Url (value : String) : Option (List UInt8) := Base64.decode value.toList

/-- The text of some bytes in base64 for URLs. -/
def encodeBase64Url (bytes : List UInt8) : String := String.ofList (Base64.encode bytes)

@[simp] lemma decodeBase64Url_encodeBase64Url (bytes : List UInt8) :
    decodeBase64Url (encodeBase64Url bytes) = some bytes := by
  rw [decodeBase64Url, encodeBase64Url, String.toList_ofList, Base64.decode_encode]

/-- `validate_base64url`. -/
def validateBase64Url (value field : String) (minimum maximum : ℕ) (decodedLength : Option ℕ) :
    Validity :=
  if value.utf8ByteSize < minimum ∨ maximum < value.utf8ByteSize then
    refuse field "has an invalid encoded length"
  else
    match decodeBase64Url value with
    | none => refuse field "must be canonical unpadded base64url"
    | some decoded =>
      if encodeBase64Url decoded ≠ value ∨ decodedLength.any (decoded.length ≠ ·) then
        refuse field "must be canonical unpadded base64url"
      else .ok ()

/-- Socket-bound gateway challenge. -/
structure GatewayAuthenticationChallenge where
  messageType : String
  challengeId : String
  /-- Opaque bytes to sign exactly. -/
  payload : String
  expiresAt : String
  deriving DecidableEq, Repr

/-- `GatewayAuthenticationChallenge::validate`. -/
def GatewayAuthenticationChallenge.validate (challenge : GatewayAuthenticationChallenge) :
    Validity := do
  if challenge.messageType ≠ "auth.challenge" then refuse "type" "must be auth.challenge"
  validateIdentifier challenge.challengeId "challengeId" 128
  validateTimestamp challenge.expiresAt "expiresAt"
  validateBase64Url challenge.payload "payload" 1 4096 none

/-- Successful gateway authentication result. -/
structure GatewayAuthenticationAccepted where
  messageType : String
  sessionId : String
  agentId : String
  heartbeatIntervalMs : UInt32
  deriving DecidableEq, Repr

/-- `GatewayAuthenticationAccepted::validate`. -/
def GatewayAuthenticationAccepted.validate (accepted : GatewayAuthenticationAccepted) :
    Validity := do
  if accepted.messageType ≠ "auth.accepted" then refuse "type" "must be auth.accepted"
  validateIdentifier accepted.sessionId "sessionId" 128
  validateIdentifier accepted.agentId "agentId" 128
  if accepted.heartbeatIntervalMs.toNat < 5000 ∨ 300000 < accepted.heartbeatIntervalMs.toNat then
    refuse "heartbeatIntervalMs" "must be between 5000 and 300000"

/-- Rejected gateway authentication result. -/
structure GatewayAuthenticationRejected where
  messageType : String
  code : String
  message : String
  deriving DecidableEq, Repr

/-- The codes a gateway may reject with. -/
def rejectionCodes : List String :=
  ["challenge_expired", "challenge_invalid", "challenge_consumed", "credential_not_found",
    "credential_revoked", "invalid_signature", "unsupported_algorithm", "authentication_timeout"]

/-- `GatewayAuthenticationRejected::validate`. -/
def GatewayAuthenticationRejected.validate (rejected : GatewayAuthenticationRejected) :
    Validity := do
  if rejected.messageType ≠ "auth.rejected" then refuse "type" "must be auth.rejected"
  if rejected.code ∉ rejectionCodes then
    refuse "code" "is not a supported authentication failure"
  validateString rejected.message "message" 1 512

/-- Server authentication frame received before normal protocol traffic. -/
inductive GatewayAuthenticationServerMessage
  | challenge (challenge : GatewayAuthenticationChallenge)
  | accepted (accepted : GatewayAuthenticationAccepted)
  | rejected (rejected : GatewayAuthenticationRejected)
  deriving DecidableEq, Repr

/-- `GatewayAuthenticationServerMessage::validate`. -/
def GatewayAuthenticationServerMessage.validate : GatewayAuthenticationServerMessage → Validity
  | challenge value => value.validate
  | accepted value => value.validate
  | rejected value => value.validate

/-- Client signature proof for one challenge. -/
structure GatewayAuthenticationResponse where
  messageType : String
  challengeId : String
  agentId : String
  keyId : String
  algorithm : String
  signature : String
  deriving DecidableEq, Repr

/-- `GatewayAuthenticationResponse::validate`. -/
def GatewayAuthenticationResponse.validate (response : GatewayAuthenticationResponse) :
    Validity := do
  if response.messageType ≠ "auth.response" then refuse "type" "must be auth.response"
  validateIdentifier response.challengeId "challengeId" 128
  validateIdentifier response.agentId "agentId" 128
  validateIdentifier response.keyId "keyId" 128
  if response.algorithm ≠ "Ed25519" then refuse "algorithm" "is unsupported"
  validateBase64Url response.signature "signature" 86 86 (some 64)

end Oppa.Protocol
