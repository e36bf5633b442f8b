import Oppa.Protocol.Message

/-!
# Server options

What a host may configure, and what the server makes of it.

* `OpenPrinterServerOptions` — the options as the host passes them; an option that is left out takes
  its default.
* `ResolvedOptions` — options that have been checked.  The bounds on the timers, and the relations
  between them, are fields, so that a session cannot be built on others.
* `validateOptions` — the check.
-/

namespace Oppa.Server

open Protocol

/-- `OpenPrinterServerOptions`, as far as a session reads them. -/
structure OpenPrinterServerOptions where
  brand : String
  callbackTimeoutMs : Option ℤ
  authenticationTimeoutMs : Option ℤ
  challengeTtlMs : Option ℤ
  handshakeTimeoutMs : Option ℤ
  heartbeatIntervalMs : Option ℤ
  heartbeatTimeoutMs : Option ℤ
  maxMessageBytes : Option ℤ
  transportTimeoutMs : Option ℤ
  protocolVersions : Option (List ProtocolVersion)
  serverId : Option String
  serverVersion : Option String

/-- `ResolvedOpenPrinterServerOptions`: options that passed their checks. -/
structure ResolvedOptions where
  brand : String
  callbackTimeoutMs : ℕ
  authenticationTimeoutMs : ℕ
  challengeTtlMs : ℕ
  handshakeTimeoutMs : ℕ
  heartbeatIntervalMs : ℕ
  heartbeatTimeoutMs : ℕ
  maxMessageBytes : ℕ
  transportTimeoutMs : ℕ
  protocolVersions : List ProtocolVersion
  serverId : String
  serverVersion : String
  interval_pos : 0 < heartbeatIntervalMs
  interval_lt : heartbeatIntervalMs < heartbeatTimeoutMs
  callback_lt : callbackTimeoutMs < heartbeatTimeoutMs
  transport_lt : transportTimeoutMs < heartbeatTimeoutMs
  base_mem : .base ∈ protocolVersions

/-- `OpenPrinterServerConfigurationError`. -/
structure ConfigurationError where
  message : String
  deriving DecidableEq, Repr

/-- `requireIntegerInRange`. -/
def requireIntegerInRange (name : String) (value : ℤ) (minimum maximum : ℕ) :
    Except ConfigurationError { n : ℕ // minimum ≤ n ∧ n ≤ maximum } :=
  if h : (minimum : ℤ) ≤ value ∧ value ≤ maximum then
    .ok ⟨value.toNat, by omega⟩
  else
    .error
      ⟨name ++ " must be an integer between " ++ toString minimum ++ " and " ++ toString maximum ++
        "."⟩

/-- Raises a configuration error unless a condition holds. -/
def require (p : Prop) [Decidable p] (message : String) : Except ConfigurationError (PLift p) :=
  if h : p then .ok ⟨h⟩ else .error ⟨message⟩

/-- `isValidIdentifier`. -/
def isValidIdentifier (value : String) : Bool :=
  match Protocol.validateIdentifier value "" 128 with
  | .ok () => true
  | .error _ => false

/-- Whether a brand name is free of what could deceive a reader: part of `validateBrand`. -/
def isDisplayable (name : String) : Bool :=
  !name.toList.head?.any isBrandEdgeWhitespace && !name.toList.getLast?.any isBrandEdgeWhitespace &&
    !name.toList.any isBrandUnsafeCharacter

/-- `validateOptions`. -/
def validateOptions (options : OpenPrinterServerOptions) :
    Except ConfigurationError ResolvedOptions := do
  let protocolVersions := options.protocolVersions.getD ProtocolVersion.supported
  let serverId := options.serverId.getD "openprinter-server"
  let serverVersion := options.serverVersion.getD "0.1.0"
  let ⟨hversions⟩ ← require (.base ∈ protocolVersions ∧ protocolVersions.Nodup)
    "protocolVersions must list each version once and include \"1\", which every agent can use."
  let callbackTimeoutMs ← requireIntegerInRange "callbackTimeoutMs"
    (options.callbackTimeoutMs.getD 5000) 1 30000
  let authenticationTimeoutMs ← requireIntegerInRange "authenticationTimeoutMs"
    (options.authenticationTimeoutMs.getD 30000) 1000 300000
  let challengeTtlMs ← requireIntegerInRange "challengeTtlMs"
    (options.challengeTtlMs.getD 30000) 5000 300000
  let handshakeTimeoutMs ← requireIntegerInRange "handshakeTimeoutMs"
    (options.handshakeTimeoutMs.getD 10000) 1 300000
  let heartbeatIntervalMs ← requireIntegerInRange "heartbeatIntervalMs"
    (options.heartbeatIntervalMs.getD 15000) 5000 300000
  let heartbeatTimeoutMs ← requireIntegerInRange "heartbeatTimeoutMs"
    (options.heartbeatTimeoutMs.getD 45000) 1000 120000
  let maxMessageBytes ← requireIntegerInRange "maxMessageBytes"
    (options.maxMessageBytes.getD maxWireMessageBytes) 1024 maxWireMessageBytes
  let transportTimeoutMs ← requireIntegerInRange "transportTimeoutMs"
    (options.transportTimeoutMs.getD 10000) 1 120000
  let ⟨hinterval⟩ ← require (heartbeatIntervalMs.val < heartbeatTimeoutMs.val)
    "heartbeatTimeoutMs must be greater than heartbeatIntervalMs."
  let ⟨hcallback⟩ ← require (callbackTimeoutMs.val < heartbeatTimeoutMs.val)
    "callbackTimeoutMs must be less than heartbeatTimeoutMs."
  let ⟨htransport⟩ ← require (transportTimeoutMs.val < heartbeatTimeoutMs.val)
    "transportTimeoutMs must be less than heartbeatTimeoutMs."
  let ⟨_⟩ ← require (isValidIdentifier serverId = true)
    "serverId must be a valid OpenPrinter identifier."
  let ⟨_⟩ ← require (1 ≤ Text.utf16Length serverVersion ∧ Text.utf16Length serverVersion ≤ 256)
    "serverVersion must contain between 1 and 256 characters."
  let ⟨_⟩ ← require (1 ≤ Text.utf16Length options.brand ∧ Text.utf16Length options.brand ≤ 256)
    "brand.name must contain between 1 and 256 UTF-16 code units."
  let ⟨_⟩ ← require (isDisplayable options.brand = true)
    ("brand.name must not contain leading or trailing whitespace, control characters, invalid " ++
      "Unicode, or direction-formatting controls.")
  .ok
    { brand := options.brand
      callbackTimeoutMs := callbackTimeoutMs
      authenticationTimeoutMs := authenticationTimeoutMs
      challengeTtlMs := challengeTtlMs
      handshakeTimeoutMs := handshakeTimeoutMs
      heartbeatIntervalMs := heartbeatIntervalMs
      heartbeatTimeoutMs := heartbeatTimeoutMs
      maxMessageBytes := maxMessageBytes
      transportTimeoutMs := transportTimeoutMs
      protocolVersions := protocolVersions
      serverId := serverId
      serverVersion := serverVersion
      interval_pos := by
        have hmin := heartbeatIntervalMs.property.1
        omega
      interval_lt := hinterval
      callback_lt := hcallback
      transport_lt := htransport
      base_mem := hversions.1 }

end Oppa.Server
