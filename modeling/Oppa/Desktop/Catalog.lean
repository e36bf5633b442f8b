import Oppa.Agent.Environment
import Oppa.Discovery.Manager
import Oppa.Foundation.Roster

/-!
# The printer catalog

The rows that the desktop host keeps about its printers, and what its operations make of them.

* `CatalogPrinter`, `PersistedCatalog` — the rows, and the ids of the queues that were removed.
* `matchingPrinterIndex`, `reconcile` — which row an observation is about, and what a discovery pass
  makes of all rows.
* `configure`, `addManual`, `createVirtual`, `updateVirtual`, `remove` — the operations: each checks
  its input against the rows and answers with a `Plan`, the rows to store and what has to follow.

The texts of errors stand here as they are before they are sanitised.
-/

namespace Oppa

/-- The text of an identifier error. -/
def IdentifierError.display : IdentifierError → String
  | empty => "identifier must not be empty"
  | tooLong actual maximum =>
      "identifier is " ++ toString actual ++ " bytes; the maximum is " ++ toString maximum
  | controlCharacter => "identifier must not contain control characters"
  | surroundingWhitespace => "identifier must not have leading or trailing whitespace"

/-- `Uuid::hyphenated`, the form in which an identifier is displayed. -/
def Uuid.hyphenated (uuid : Uuid) : String :=
  String.ofList (uuid.digits.take 8 ++ '-' :: ((uuid.digits.drop 8).take 4 ++ '-' ::
    ((uuid.digits.drop 12).take 4 ++ '-' :: ((uuid.digits.drop 16).take 4 ++ '-' ::
      uuid.digits.drop 20))))

end Oppa

namespace Oppa.Desktop

open Printer Discovery

/-! ## Rows -/

/-- The printer connections a product build allows. -/
structure ProductFeatures where
  systemPrinterDiscovery : Bool
  networkPrinterDiscovery : Bool
  usbPrinterDiscovery : Bool
  virtualPrinter : Bool
  deriving DecidableEq, Repr

/-- A virtual printer's simulation policy. -/
inductive VirtualPrinterMode
  | alwaysSucceed
  | failNext
  | alwaysFail
  | delay
  | offline
  deriving DecidableEq, Repr

/-- Persisted host-owned printer metadata. -/
structure CatalogPrinter where
  reference : PrinterRef
  sourceName : String
  availability : PrinterAvailability
  capabilities : Option PrinterCapabilities
  fingerprint : PrinterFingerprint
  providers : List ProviderMetadata
  virtualWidth : Option UInt16
  virtualMode : VirtualPrinterMode
  virtualDelayMs : UInt64
  deriving DecidableEq, Repr

namespace CatalogPrinter

variable (printer : CatalogPrinter)

/-- The id of a row. -/
abbrev id : PrinterId := printer.reference.id

/-- How the printer of a row is connected. -/
abbrev kind : ConnectionKind := printer.reference.connection.kind

/-- `CatalogPrinter::is_virtual`. -/
def isVirtual : Bool := printer.kind = .virtual

end CatalogPrinter

/-- Durable desktop printer catalog. -/
structure PersistedCatalog where
  printers : List CatalogPrinter
  suppressedSystemIds : List String
  deriving DecidableEq, Repr

/-- `PersistedCatalog::default`. -/
def PersistedCatalog.default : PersistedCatalog := { printers := [], suppressedSystemIds := [] }

/-- The ids of the rows. -/
abbrev PersistedCatalog.ids (catalog : PersistedCatalog) : List PrinterId :=
  catalog.printers.map CatalogPrinter.id

/-- A failure returned across the command boundary. -/
structure CommandError where
  code : String
  message : String
  deriving DecidableEq, Repr

namespace CommandError

/-- `CommandError::internal`. -/
def internal (message : String) : CommandError := ⟨"internal", message⟩

/-- `CommandError::not_found`. -/
def notFound (entity : String) : CommandError := ⟨"not_found", entity ++ " was not found"⟩

/-- `CommandError::invalid`. -/
def invalid (message : String) : CommandError := ⟨"invalid_input", message⟩

/-- An operation that the product build does not allow. -/
def featureUnavailable (message : String) : CommandError := ⟨"feature_unavailable", message⟩

end CommandError

/-! ## Helpers -/

/-- `feature_allows_printer`. -/
def featureAllowsPrinter (features : ProductFeatures) (printer : CatalogPrinter) : Bool :=
  match printer.kind with
  | .systemQueue => features.systemPrinterDiscovery
  | .network => features.networkPrinterDiscovery
  | .usb => features.usbPrinterDiscovery
  | .virtual => features.virtualPrinter

/-- `persisted_virtual_mode`. -/
def persistedVirtualMode : VirtualPrinterMode → VirtualPrinterMode
  | .failNext => .alwaysSucceed
  | mode => mode

/-- `fingerprint_for_connection`. -/
def fingerprintForConnection : PrinterConnection → PrinterFingerprint
  | .systemQueue queueName => { queueName := some queueName }
  | .network host port => { host := some host, port := some port }
  | .usb vendorId productId serialNumber =>
      { usbVendorId := some vendorId, usbProductId := some productId, serialNumber := serialNumber }
  | .virtual _ => {}

/-- `connection_fingerprint`. -/
def connectionFingerprint : PrinterConnection → String
  | .systemQueue queueName => "system:" ++ queueName
  | .network host port => "tcp:" ++ host ++ ":" ++ toString port.toNat
  | .usb vendorId productId serialNumber =>
      "usb:" ++ toString vendorId.toNat ++ ":" ++ toString productId.toNat ++ ":" ++
        serialNumber.getD ""
  | .virtual printerId => "virtual:" ++ printerId

/-- `fnv1a`. -/
def fnv1a (bytes : List ℕ) : UInt64 :=
  bytes.foldl (fun hash byte => (hash ^^^ UInt64.ofNat byte) * 0x100000001b3) 0xcbf29ce484222325

/-- `raster_pdf_capabilities`. -/
def rasterPdfCapabilities : PdfCapabilities where
  native := false
  duplex := false
  customPaper := true
  paperSizes := [.a4, .a5, .letter, .legal]

/-- `receipt_capabilities` of the catalog. -/
def receiptCapabilities : PrinterCapabilities where
  receiptWidthsMm := [58, 80]
  escPos := true
  systemDriver := false
  raster := false
  cut := true
  qrCode := true
  barcode := true
  cancellation := true
  pdf := none

/-- `virtual_capabilities`. -/
def virtualCapabilities (width : UInt16) : PrinterCapabilities where
  receiptWidthsMm := [width]
  escPos := true
  systemDriver := false
  raster := false
  cut := true
  qrCode := true
  barcode := true
  cancellation := true
  pdf := none

/-- `system_driver_capabilities` of the catalog. -/
def systemDriverCapabilities : PrinterCapabilities where
  receiptWidthsMm := [58, 80]
  escPos := false
  systemDriver := true
  raster := true
  cut := false
  qrCode := true
  barcode := true
  cancellation := true
  pdf := some rasterPdfCapabilities

/-- `virtual_capabilities_for_profile`. -/
def virtualCapabilitiesForProfile : Option VirtualPrinterProfile → PrinterCapabilities
  | some (.escPosReceipt widthMm) => virtualCapabilities widthMm
  | some (.systemDriverPage _ _ _) | none => systemDriverCapabilities

/-- `mode_for_virtual_profile`. -/
def modeForVirtualProfile : VirtualPrinterProfile → SubmissionMode
  | .escPosReceipt _ => .raw .escPos
  | .systemDriverPage _ _ _ => .driver

/-- The receipt width of an emulated printer. -/
def virtualWidthOf : VirtualPrinterProfile → Option UInt16
  | .escPosReceipt widthMm => some widthMm
  | .systemDriverPage _ _ _ => none

/-- `new_printer_submission_mode`. -/
def newPrinterSubmissionMode (connection : PrinterConnection)
    (capabilities : Option PrinterCapabilities) : SubmissionMode :=
  match connection with
  | .systemQueue _ | .usb _ _ _ => .driver
  | .network _ _ => if capabilities.any (·.escPos) then .raw .escPos else .driver
  | .virtual _ => .raw .escPos

/-! ## The ids of discovered printers -/

/-- A text of visible ASCII characters is an identifier, unless it is too long. -/
lemma validateIdentifier_of_visible {cs : List Char}
    (hvisible : ∀ c ∈ cs, 0x21 ≤ c.toNat ∧ c.toNat ≤ 0x7e) (hne : cs ≠ [])
    (hlength : cs.length ≤ maxIdentifierLen) :
    validateIdentifier (String.ofList cs) = .ok () := by
  have hwhite : ∀ c ∈ cs, Text.isWhitespace c = false := by
    intro c hc
    have hrange := hvisible c hc
    simp only [Text.isWhitespace, Bool.or_eq_false_iff, Bool.and_eq_false_iff,
      decide_eq_false_iff_not, beq_eq_false_iff_ne]
    omega
  have hcontrol : ∀ c ∈ cs, Text.isControl c = false := by
    intro c hc
    have hrange := hvisible c hc
    simp only [Text.isControl, Bool.or_eq_false_iff, Bool.and_eq_false_iff,
      decide_eq_false_iff_not]
    omega
  have hbytes : (String.ofList cs).utf8ByteSize = cs.length := by
    have hone : cs.map Char.utf8Size = cs.map fun _ => 1 := by
      refine List.map_congr_left fun c hc => ?_
      have hrange := hvisible c hc
      rw [Text.utf8Size_eq, if_pos (by omega)]
    rw [Text.utf8ByteSize_ofList, hone]
    simp
  have htrim : Text.trim (String.ofList cs) = String.ofList cs :=
    Text.trim_of_forall (by simpa using hwhite)
  have hempty : (String.ofList cs).isEmpty = false := by
    rw [Bool.eq_false_iff, ne_eq, String.isEmpty_iff]
    intro heq
    exact hne (by simpa using congrArg String.toList heq)
  rw [validateIdentifier, htrim, hempty, if_neg (by simp), if_neg (by omega), if_neg (by simp),
    if_neg (by simpa using hcontrol)]

lemma visible_hexDigit (n : ℕ) : 0x21 ≤ (hexDigit (n % 16)).toNat ∧
    (hexDigit (n % 16)).toNat ≤ 0x7e := by
  have hall : ∀ digit : Fin 16, 0x21 ≤ (hexDigit digit).toNat ∧ (hexDigit digit).toNat ≤ 0x7e := by
    decide
  exact hall ⟨n % 16, Nat.mod_lt _ (by decide)⟩

/-- The text of the id of a discovered printer. -/
def discoveredIdText (source : String) : String :=
  "printer_discovered_" ++ hex 16 (fnv1a (Protocol.utf8Bytes source)).toNat

lemma visible_hex {width n : ℕ} {c : Char} (hc : c ∈ (hex width n).toList) :
    0x21 ≤ c.toNat ∧ c.toNat ≤ 0x7e := by
  rw [hex, String.toList_ofList, List.mem_map] at hc
  rcases hc with ⟨place, _, rfl⟩
  exact visible_hexDigit _

lemma length_hex (width n : ℕ) : (hex width n).toList.length = width := by
  rw [hex, String.toList_ofList, List.length_map, List.length_reverse, List.length_range]

/-- The name of a family of ids with drawn or computed characters behind it is an identifier. -/
lemma validateIdentifier_family {family rest : String} {n : ℕ} (hlength : rest.toList.length = n)
    (hfamily : ∀ c ∈ family.toList, 0x21 ≤ c.toNat ∧ c.toNat ≤ 0x7e)
    (hrest : ∀ c ∈ rest.toList, 0x21 ≤ c.toNat ∧ c.toNat ≤ 0x7e)
    (hne : 0 < family.toList.length) (hbound : family.toList.length + n ≤ maxIdentifierLen) :
    validateIdentifier (family ++ rest) = .ok () := by
  have htext : family ++ rest = String.ofList (family.toList ++ rest.toList) := by
    rw [String.ofList_append, String.ofList_toList, String.ofList_toList]
  rw [htext]
  refine validateIdentifier_of_visible ?_ ?_ ?_
  · intro c hc
    rcases List.mem_append.mp hc with hc | hc
    · exact hfamily c hc
    · exact hrest c hc
  · intro hnil
    rw [(List.append_eq_nil_iff.mp hnil).1] at hne
    cases hne
  · rw [List.length_append, hlength]
    exact hbound

lemma validateIdentifier_discoveredIdText (source : String) :
    validateIdentifier (discoveredIdText source) = .ok () :=
  validateIdentifier_family (length_hex 16 _) (List.forall_iff_forall_mem.mp (by decide))
    (fun _ hc => visible_hex hc) (by decide) (by decide)

section Evidence

variable (lowercase : String → String)

/-- The strongest evidence of a printer, or what a provider calls it. -/
def strongestEvidence (fingerprint : PrinterFingerprint) (providers : List ProviderMetadata) :
    Option String :=
  (fingerprint.identityKeys lowercase).head? <|>
    providers.findSome? fun metadata =>
      metadata.providerId.map fun providerId => metadata.provider ++ ":" ++ providerId

/-- `discovered_printer_id`. -/
def discoveredPrinterId (printer : DiscoveredPrinter) : PrinterId :=
  let source := (strongestEvidence lowercase printer.fingerprint printer.providers).getD
    (connectionFingerprint printer.connection)
  ⟨discoveredIdText source, validateIdentifier_discoveredIdText source⟩

/-- The id under which a discovery pass looks for an observation. -/
def observedId (observation : DiscoveredPrinter) : PrinterId :=
  observation.id.getD (discoveredPrinterId lowercase observation)

/-! ## Discovery -/

/-- Whether two records name the same printer of the same provider. -/
def sameRecord (stored observed : ProviderMetadata) : Bool :=
  stored.provider = observed.provider && stored.providerId.isSome &&
    stored.providerId = observed.providerId

/-- Whether a row shares evidence with an observation. -/
def sharesEvidence (observation : DiscoveredPrinter) (printer : CatalogPrinter) : Bool :=
  (printer.fingerprint.identityKeys lowercase).any
      (· ∈ observation.fingerprint.identityKeys lowercase) ||
    printer.providers.any fun stored => observation.providers.any (sameRecord stored)

/-- `matching_printer_index`. -/
def matchingPrinterIndex (printers : List CatalogPrinter) (observedId : PrinterId)
    (observation : DiscoveredPrinter) : Option ℕ :=
  match printers.findIdx? fun printer => printer.id = observedId with
  | some index => some index
  | none => printers.findIdx? (sharesEvidence lowercase observation)

/-- A system queue counts as offline until it is observed. -/
def CatalogPrinter.unseen (printer : CatalogPrinter) : CatalogPrinter :=
  match printer.reference.connection with
  | .systemQueue _ => { printer with availability := .offline }
  | _ => printer

/-- A row after an observation of its printer. -/
def CatalogPrinter.observed (observation : DiscoveredPrinter) (existing : CatalogPrinter) :
    CatalogPrinter :=
  { existing with
    sourceName := observation.name
    reference := { existing.reference with connection := observation.connection }
    availability := observation.availability
    capabilities :=
      if observation.connection.kind = .virtual then
        some (virtualCapabilitiesForProfile existing.reference.virtualProfile)
      else observation.capabilities
    fingerprint := observation.fingerprint.mergeMissing existing.fingerprint
    providers := observation.providers }

/-- The capabilities of the row of a new printer. -/
def newPrinterCapabilities (observation : DiscoveredPrinter) : Option PrinterCapabilities :=
  match observation.connection, observation.capabilities with
  | .virtual _, _ => some (virtualCapabilitiesForProfile (some (.escPosReceipt 80)))
  | .systemQueue _, none => some systemDriverCapabilities
  | _, capabilities => capabilities

/-- The row of a printer that no row was about. -/
def newPrinter (id : PrinterId) (observation : DiscoveredPrinter) : CatalogPrinter :=
  let virtualProfile : Option VirtualPrinterProfile :=
    if observation.connection.kind = .virtual then some (.escPosReceipt 80) else none
  { reference :=
      { id := id
        displayName := observation.name
        connection := observation.connection
        submissionMode := newPrinterSubmissionMode observation.connection observation.capabilities
        virtualProfile := virtualProfile
        enabled := true }
    sourceName := observation.name
    availability := observation.availability
    capabilities := newPrinterCapabilities observation
    fingerprint := observation.fingerprint
    providers := observation.providers
    virtualWidth := virtualProfile.bind virtualWidthOf
    virtualMode := .alwaysSucceed
    virtualDelayMs := 0 }

/-- One round of the loop of `refresh`. -/
def reconcileObservation (suppressed : List String) (printers : List CatalogPrinter)
    (observation : DiscoveredPrinter) : List CatalogPrinter :=
  if (observedId lowercase observation).value ∈ suppressed then printers
  else
    match matchingPrinterIndex lowercase printers (observedId lowercase observation)
        observation with
    | some index => printers.modify index (·.observed observation)
    | none => printers ++ [newPrinter (observedId lowercase observation) observation]

/-- The rows that `refresh` stores. -/
def reconcile (catalog : PersistedCatalog) (discovered : List DiscoveredPrinter) :
    PersistedCatalog :=
  { catalog with
    printers := discovered.foldl (reconcileObservation lowercase catalog.suppressedSystemIds)
      (catalog.printers.map CatalogPrinter.unseen) }

end Evidence

/-! ## Operations -/

/-- What an operation does after its rows are stored, one await point each. -/
inductive Effect
  /-- The rows in memory are replaced. -/
  | write (next : PersistedCatalog)
  /-- `PerPrinterVirtualSpooler::register`. -/
  | register (id : PrinterId) (mode : VirtualPrinterMode) (delayMs : UInt64)
  /-- `PerPrinterVirtualSpooler::remove`. -/
  | unregister (id : PrinterId)
  /-- `StaticPrinterResolver::upsert`. -/
  | upsert (reference : PrinterRef)
  /-- `StaticPrinterResolver::remove`. -/
  | withdraw (id : PrinterId)
  | bumpRevision
  /-- `summary`. -/
  | summarize (printer : CatalogPrinter)
  /-- `list`. -/
  | list
  deriving DecidableEq, Repr

/-- What an operation that has checked its input wants stored, and what follows. -/
structure Plan where
  next : PersistedCatalog
  effects : List Effect
  deriving DecidableEq, Repr

/-- Partial printer changes accepted by `configure`. -/
structure ConfigurePrinterChanges where
  displayName : Option String
  enabled : Option Bool
  submissionMode : Option SubmissionMode
  deriving DecidableEq, Repr

/-- Input for a raw TCP printer. -/
structure ManualPrinterInput where
  displayName : String
  host : String
  port : UInt16
  deriving DecidableEq, Repr

/-- Input for a virtual printer. -/
structure VirtualPrinterInput where
  displayName : String
  profile : VirtualPrinterProfile
  deriving DecidableEq, Repr

/-- The id a caller names. -/
def callerId (printerId : String) : Except CommandError PrinterId :=
  (TypedIdentifier.new .printer printerId).mapError fun e => .invalid e.display

/-- An id the catalog draws. -/
def drawnId (family : String) (uuid : Uuid) : Except CommandError PrinterId :=
  (TypedIdentifier.new .printer (family ++ uuid.hyphenated)).mapError fun e => .internal e.display

/-- The row with an id, and where it stands. -/
def PersistedCatalog.find (catalog : PersistedCatalog) (id : PrinterId) :
    Except CommandError (ℕ × CatalogPrinter) :=
  match catalog.printers.findIdx? fun printer => printer.id = id with
  | some index =>
      match catalog.printers[index]? with
      | some printer => .ok (index, printer)
      | none => .error (.notFound "Printer")
  | none => .error (.notFound "Printer")

/-- The rows with one of them replaced. -/
def PersistedCatalog.set (catalog : PersistedCatalog) (index : ℕ) (printer : CatalogPrinter) :
    PersistedCatalog :=
  { catalog with printers := catalog.printers.modify index fun _ => printer }

/-- The rows with one more. -/
def PersistedCatalog.push (catalog : PersistedCatalog) (printer : CatalogPrinter) :
    PersistedCatalog :=
  { catalog with printers := catalog.printers ++ [printer] }

/-- Whether an operation may go on. -/
def ensure (condition : Bool) (failure : CommandError) : Except CommandError Unit :=
  if condition then .ok () else .error failure

/-- The row after `configure`. -/
def CatalogPrinter.configured (changes : ConfigurePrinterChanges) (printer : CatalogPrinter) :
    CatalogPrinter :=
  { printer with
    reference :=
      { printer.reference with
        displayName := changes.displayName.getD printer.reference.displayName
        enabled := changes.enabled.getD printer.reference.enabled
        submissionMode := changes.submissionMode.getD printer.reference.submissionMode } }

section Operations

variable (features : ProductFeatures) (catalog : PersistedCatalog)

/-- What follows `refresh` for one row. -/
def syncEffect (printer : CatalogPrinter) : Effect :=
  if featureAllowsPrinter features printer then .upsert printer.reference else .withdraw printer.id

/-- `PrinterCatalog::refresh` from the point where it has the lock. -/
def refresh (lowercase : String → String) (discovered : List DiscoveredPrinter) : Plan :=
  let next := reconcile lowercase catalog discovered
  { next := next
    effects := .write next :: (next.printers.map (syncEffect features) ++ [.bumpRevision, .list]) }

/-- `PrinterCatalog::configure`. -/
def configure (printerId : String) (changes : ConfigurePrinterChanges) :
    Except CommandError Plan := do
  let id ← callerId printerId
  let (index, printer) ← catalog.find id
  ensure (featureAllowsPrinter features printer)
    (.featureUnavailable
      "This printer connection is disabled in the current product build.")
  ensure (changes.submissionMode.isNone || printer.kind = .systemQueue)
    (.invalid "Only system queues can switch between driver and raw ESC/POS mode.")
  let updated := printer.configured changes
  updated.reference.validate.mapError fun e => .invalid e.display
  let next := catalog.set index updated
  pure
    { next := next
      effects := [.write next, .upsert updated.reference, .bumpRevision, .summarize updated] }

/-- The row of a network printer that is added by hand. -/
def manualPrinter (id : PrinterId) (input : ManualPrinterInput) : CatalogPrinter where
  reference :=
    { id := id
      displayName := input.displayName
      connection := .network input.host input.port
      submissionMode := .raw .escPos
      virtualProfile := none
      enabled := true }
  sourceName := "Raw TCP printer"
  availability := .unknown
  capabilities := some receiptCapabilities
  fingerprint := fingerprintForConnection (.network input.host input.port)
  providers := [{ provider := "manual-network", providerId := some id.value, attributes := [] }]
  virtualWidth := none
  virtualMode := .alwaysSucceed
  virtualDelayMs := 0

/-- `PrinterCatalog::add_manual`. -/
def addManual (input : ManualPrinterInput) (uuid : Uuid) : Except CommandError Plan := do
  ensure features.networkPrinterDiscovery
    (.featureUnavailable "Manual network printers are disabled in this product build.")
  let id ← drawnId "printer_network_" uuid
  let printer := manualPrinter id input
  printer.reference.validate.mapError fun e => .invalid e.display
  let next := catalog.push printer
  pure
    { next := next
      effects := [.write next, .upsert printer.reference, .bumpRevision, .summarize printer] }

/-- The row of a virtual printer that is created. -/
def virtualPrinter (id : PrinterId) (input : VirtualPrinterInput) : CatalogPrinter where
  reference :=
    { id := id
      displayName := input.displayName
      connection := .virtual id.value
      submissionMode := modeForVirtualProfile input.profile
      virtualProfile := some input.profile
      enabled := true }
  sourceName := "Virtual printer"
  availability := .online
  capabilities := some (virtualCapabilitiesForProfile (some input.profile))
  fingerprint := fingerprintForConnection (.virtual id.value)
  providers := [{ provider := "virtual", providerId := some id.value, attributes := [] }]
  virtualWidth := virtualWidthOf input.profile
  virtualMode := .alwaysSucceed
  virtualDelayMs := 0

/-- The answer to every operation on virtual printers where there are none. -/
def virtualDisabled : CommandError :=
  .featureUnavailable "Virtual printers are disabled in this product build."

/-- `PrinterCatalog::create_virtual`. -/
def createVirtual (input : VirtualPrinterInput) (uuid : Uuid) : Except CommandError Plan := do
  ensure features.virtualPrinter virtualDisabled
  input.profile.validate.mapError fun e => .invalid e.display
  let id ← drawnId "printer_virtual_" uuid
  let printer := virtualPrinter id input
  printer.reference.validate.mapError fun e => .invalid e.display
  let next := catalog.push printer
  pure
    { next := next
      effects := [.write next, .register id .alwaysSucceed 0, .upsert printer.reference,
        .bumpRevision, .summarize printer] }

/-- `MAX_VIRTUAL_DELAY_MS`. -/
def maxVirtualDelayMs : UInt64 := 60000

/-- The row after `update_virtual`. -/
def CatalogPrinter.simulated (mode : VirtualPrinterMode) (delayMs : UInt64)
    (printer : CatalogPrinter) : CatalogPrinter :=
  { printer with
    virtualMode := persistedVirtualMode mode
    virtualDelayMs := delayMs
    availability := if mode = .offline then .offline else .online }

/-- `PrinterCatalog::update_virtual`. -/
def updateVirtual (printerId : String) (mode : VirtualPrinterMode) (delayMs : UInt64) :
    Except CommandError Plan := do
  ensure features.virtualPrinter virtualDisabled
  ensure (delayMs ≤ maxVirtualDelayMs)
    (.invalid "Virtual delay must not exceed 60000 milliseconds.")
  let id ← callerId printerId
  let (index, printer) ← catalog.find id
  ensure printer.isVirtual (.invalid "Printer is not virtual.")
  let updated := printer.simulated mode delayMs
  let next := catalog.set index updated
  pure
    { next := next
      effects := [.write next, .register id mode delayMs, .bumpRevision, .summarize updated] }

/-- The ids of removed queues after one more row is removed. -/
def suppress (printer : CatalogPrinter) : List String :=
  if printer.kind = .systemQueue ∧ printer.id.value ∉ catalog.suppressedSystemIds then
    catalog.suppressedSystemIds ++ [printer.id.value]
  else catalog.suppressedSystemIds

/-- The rows after one is removed. -/
def PersistedCatalog.without (index : ℕ) (printer : CatalogPrinter) : PersistedCatalog where
  printers := catalog.printers.eraseIdx index
  suppressedSystemIds := suppress catalog printer

/-- `PrinterCatalog::remove`. -/
def remove (printerId : String) : Except CommandError Plan := do
  let id ← callerId printerId
  let (index, printer) ← catalog.find id
  let next := catalog.without index printer
  pure
    { next := next
      effects := [.write next, .withdraw id] ++
        (if printer.isVirtual then [.unregister id] else []) ++ [.bumpRevision] }

end Operations

end Oppa.Desktop
