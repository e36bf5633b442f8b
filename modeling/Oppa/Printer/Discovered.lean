import Oppa.Printer.Reference

/-!
# Discovered printers

What the printer crate keeps about a printer that was found: its capabilities, the evidence by which
it is recognised again, and the providers that saw it.

* `PrinterCapabilities`, `PdfCapabilities` — what may be sent to a printer.
* `PrinterFingerprint.identityKeys` — normalised evidence keys, strongest first.
  `PrinterFingerprint.Fits` bounds the evidence by the way a printer is connected, and
  `Fits.kind_eq` says that printers which share a key are connected in the same way.
* `DiscoveredPrinter` — an observation of a provider.

How texts are folded to lower case is left open: nothing below depends on it.
-/

namespace Oppa.Printer

open Text

/-- Standard paper names understood by the document pipeline. -/
inductive StandardPaper
  | a4
  | a5
  | letter
  | legal
  deriving DecidableEq, Repr

/-- PDF support advertised by a printer backend. -/
structure PdfCapabilities where
  native : Bool
  duplex : Bool
  customPaper : Bool
  paperSizes : List StandardPaper
  deriving DecidableEq, Repr

/-- Printer features that OPPA can safely advertise. -/
structure PrinterCapabilities where
  receiptWidthsMm : List UInt16
  escPos : Bool
  systemDriver : Bool
  raster : Bool
  cut : Bool
  qrCode : Bool
  barcode : Bool
  cancellation : Bool
  /-- Present only when the backend can accept PDFs. -/
  pdf : Option PdfCapabilities
  deriving DecidableEq, Repr

/-- Broad printer purpose discovered or configured locally. -/
inductive PrinterKind
  | receipt
  | label
  | document
  | virtual
  | unknown
  deriving DecidableEq, Repr

/-- Current best-effort availability reported by local providers. -/
inductive PrinterAvailability
  | online
  | offline
  | degraded
  | unknown
  deriving DecidableEq, Repr

/-- One provider's observation retained during deduplication. -/
structure ProviderMetadata where
  provider : String
  providerId : Option String
  attributes : List (String × String)
  deriving DecidableEq, Repr

/-! ## Evidence -/

/-- Observed properties used to recognise a printer across discovery passes. -/
structure PrinterFingerprint where
  queueName : Option String := none
  driverName : Option String := none
  deviceUri : Option String := none
  host : Option String := none
  port : Option UInt16 := none
  usbVendorId : Option UInt16 := none
  usbProductId : Option UInt16 := none
  serialNumber : Option String := none
  macAddress : Option String := none
  deriving DecidableEq, Repr

/-- A digit of a number in base 16. -/
def hexDigit (n : ℕ) : Char := Char.ofNat (if n < 10 then 0x30 + n else 0x57 + n)

/-- A number in base 16 with leading zeros. -/
def hex (width n : ℕ) : String :=
  String.ofList ((List.range width).reverse.map fun place => hexDigit (n / 16 ^ place % 16))

section Evidence

variable (lowercase : String → String)

/-- `normalized`. -/
def normalized (value : Option String) : Option String :=
  ((value.map trim).filter fun value => !value.isEmpty).map lowercase

/-- The key of a USB device that tells its serial number. -/
def usbKey (vendor product : UInt16) (serial : String) : String :=
  "usb:" ++ hex 4 vendor.toNat ++ ":" ++ hex 4 product.toNat ++ ":" ++ serial

/-- `PrinterFingerprint::identity_keys`. -/
def PrinterFingerprint.identityKeys (fingerprint : PrinterFingerprint) : List String :=
  (match fingerprint.usbVendorId, fingerprint.usbProductId,
      normalized lowercase fingerprint.serialNumber with
    | some vendor, some product, some serial => [usbKey vendor product serial]
    | _, _, _ => []) ++
  ((normalized lowercase fingerprint.deviceUri).map fun uri => "uri:" ++ uri).toList ++
  ((normalized lowercase fingerprint.host).map fun host =>
    "network:" ++ host ++ ":" ++ toString (fingerprint.port.getD 9100)).toList ++
  ((normalized lowercase fingerprint.queueName).map fun queue => "queue:" ++ queue).toList ++
  ((normalized lowercase fingerprint.macAddress).map fun mac => "mac:" ++ mac).toList

end Evidence

/-- `PrinterFingerprint::merge_missing`. -/
def PrinterFingerprint.mergeMissing (fingerprint other : PrinterFingerprint) :
    PrinterFingerprint where
  queueName := fingerprint.queueName <|> other.queueName
  driverName := fingerprint.driverName <|> other.driverName
  deviceUri := fingerprint.deviceUri <|> other.deviceUri
  host := fingerprint.host <|> other.host
  port := fingerprint.port <|> other.port
  usbVendorId := fingerprint.usbVendorId <|> other.usbVendorId
  usbProductId := fingerprint.usbProductId <|> other.usbProductId
  serialNumber := fingerprint.serialNumber <|> other.serialNumber
  macAddress := fingerprint.macAddress <|> other.macAddress

/-- A discovered printer before or after local identity assignment. -/
structure DiscoveredPrinter where
  id : Option PrinterId
  name : String
  kind : PrinterKind
  connection : PrinterConnection
  fingerprint : PrinterFingerprint
  availability : PrinterAvailability
  capabilities : Option PrinterCapabilities
  providers : List ProviderMetadata
  deriving DecidableEq, Repr

/-- `DiscoveredPrinter::validate`. -/
def DiscoveredPrinter.validate (printer : DiscoveredPrinter) :
    Except PrinterValidationError Unit := do
  validateText "printer name" printer.name maxPrinterNameBytes
  printer.connection.validate
  if printer.providers.isEmpty then .error .missingProvider
  else printer.providers.forM fun provider => validateText "provider name" provider.provider 64

/-! ## What the evidence says about the connection -/

/-- How a printer is connected that shows a key. -/
def keyKind (key : String) : Option ConnectionKind :=
  match key.toList.take 4 with
  | ['u', 'r', 'i', ':'] => some .systemQueue
  | ['q', 'u', 'e', 'u'] => some .systemQueue
  | ['n', 'e', 't', 'w'] => some .network
  | ['v', 'i', 'r', 't'] => some .virtual
  | _ => none

/-- How a printer is connected that a provider reports. -/
def providerKind (provider : String) : Option ConnectionKind :=
  if provider = "system-queue" then some .systemQueue
  else if provider = "manual-network" then some .network
  else if provider = "virtual" then some .virtual
  else none

/-- Evidence that a printer of a kind may leave: only a system queue has the name and the URI of a
queue, and only a network printer has a host. -/
structure PrinterFingerprint.Fits (fingerprint : PrinterFingerprint) (kind : ConnectionKind) :
    Prop where
  queue : kind ≠ .systemQueue → fingerprint.queueName = none ∧ fingerprint.deviceUri = none
  host : kind ≠ .network → fingerprint.host = none

/-- Evidence without a USB device and without a hardware address. -/
structure PrinterFingerprint.Plain (fingerprint : PrinterFingerprint) : Prop where
  usbVendorId : fingerprint.usbVendorId = none
  macAddress : fingerprint.macAddress = none

/-- A provider that may have reported a printer of a kind. -/
def ProviderMetadata.Fits (metadata : ProviderMetadata) (kind : ConnectionKind) : Prop :=
  ∀ reported, providerKind metadata.provider = some reported → reported = kind

section Kinds

variable {lowercase : String → String} {fingerprint other : PrinterFingerprint}
  {kind : ConnectionKind}

@[simp] lemma normalized_none : normalized lowercase none = none := rfl

example : keyKind "usb" = none := by
  rw [keyKind]
  rfl

lemma keyKind_uri (text : String) : keyKind ("uri:" ++ text) = some .systemQueue := by
  rw [keyKind, String.toList_append]
  rfl

lemma keyKind_queue (text : String) : keyKind ("queue:" ++ text) = some .systemQueue := by
  rw [keyKind, String.toList_append]
  rfl

lemma keyKind_network (text : String) : keyKind ("network:" ++ text) = some .network := by
  rw [keyKind, String.toList_append]
  rfl

lemma keyKind_virtual (text : String) : keyKind ("virtual:" ++ text) = some .virtual := by
  rw [keyKind, String.toList_append]
  rfl

lemma keyKind_usb (text : String) : keyKind ("usb:" ++ text) = none := by
  rw [keyKind, String.toList_append]
  rfl

lemma keyKind_mac (text : String) : keyKind ("mac:" ++ text) = none := by
  rw [keyKind, String.toList_append]
  rfl

/-- Every evidence key, by what it is made of. -/
lemma keyKind_of_mem {key : String} (hkey : key ∈ fingerprint.identityKeys lowercase) :
    (fingerprint.deviceUri ≠ none ∧ keyKind key = some .systemQueue) ∨
    (fingerprint.queueName ≠ none ∧ keyKind key = some .systemQueue) ∨
    (fingerprint.host ≠ none ∧ keyKind key = some .network) ∨
    ((fingerprint.usbVendorId ≠ none ∨ fingerprint.macAddress ≠ none) ∧ keyKind key = none) := by
  have hsome : ∀ {value : Option String} {text : String},
      normalized lowercase value = some text → value ≠ none := by
    rintro value text htext rfl
    cases htext
  simp only [PrinterFingerprint.identityKeys, List.mem_append, Option.mem_toList,
    Option.map_eq_some_iff] at hkey
  rcases hkey with (((husb | ⟨uri, huri, rfl⟩) | ⟨host, hhost, rfl⟩) | ⟨queue, hqueue, rfl⟩) |
    ⟨mac, hmac, rfl⟩
  · split at husb
    · rename_i vendor _ _ hvendor _ _
      rw [List.mem_singleton] at husb
      refine .inr (.inr (.inr ⟨.inl (by simp [hvendor]), ?_⟩))
      rw [husb, usbKey, String.append_assoc, String.append_assoc, String.append_assoc,
        String.append_assoc]
      exact keyKind_usb _
    · cases husb
  · exact .inl ⟨hsome huri, keyKind_uri _⟩
  · refine .inr (.inr (.inl ⟨hsome hhost, ?_⟩))
    rw [String.append_assoc, String.append_assoc]
    exact keyKind_network _
  · exact .inr (.inl ⟨hsome hqueue, keyKind_queue _⟩)
  · exact .inr (.inr (.inr ⟨.inr (hsome hmac), keyKind_mac _⟩))

/-- A key of fitting evidence tells no other kind. -/
lemma PrinterFingerprint.Fits.kind_eq (hfits : fingerprint.Fits kind) {key : String}
    (hkey : key ∈ fingerprint.identityKeys lowercase) {shown : ConnectionKind}
    (hshown : keyKind key = some shown) : shown = kind := by
  by_contra hne
  rcases keyKind_of_mem hkey with ⟨huri, hkind⟩ | ⟨hqueue, hkind⟩ | ⟨hhost, hkind⟩ | ⟨_, hkind⟩
  · rw [hkind, Option.some.injEq] at hshown
    exact huri (hfits.queue fun h => hne (hshown.symm.trans h.symm)).2
  · rw [hkind, Option.some.injEq] at hshown
    exact hqueue (hfits.queue fun h => hne (hshown.symm.trans h.symm)).1
  · rw [hkind, Option.some.injEq] at hshown
    exact hhost (hfits.host fun h => hne (hshown.symm.trans h.symm))
  · rw [hkind] at hshown
    cases hshown

/-- A key of fitting evidence without a device or an address tells the kind. -/
lemma PrinterFingerprint.Fits.keyKind_eq (hfits : fingerprint.Fits kind)
    (hplain : fingerprint.Plain) {key : String}
    (hkey : key ∈ fingerprint.identityKeys lowercase) : keyKind key = some kind := by
  rcases keyKind_of_mem hkey with ⟨_, hkind⟩ | ⟨_, hkind⟩ | ⟨_, hkind⟩ | ⟨hdevice, _⟩
  · rw [hkind, hfits.kind_eq hkey hkind]
  · rw [hkind, hfits.kind_eq hkey hkind]
  · rw [hkind, hfits.kind_eq hkey hkind]
  · rcases hdevice with hvendor | hmac
    · exact absurd hplain.usbVendorId hvendor
    · exact absurd hplain.macAddress hmac

lemma PrinterFingerprint.Fits.mergeMissing (hfits : fingerprint.Fits kind)
    (hother : other.Fits kind) : (fingerprint.mergeMissing other).Fits kind where
  queue hkind := by
    have hfirst := hfits.queue hkind
    have hsecond := hother.queue hkind
    simp [PrinterFingerprint.mergeMissing, hfirst, hsecond]
  host hkind := by
    have hfirst := hfits.host hkind
    have hsecond := hother.host hkind
    simp [PrinterFingerprint.mergeMissing, hfirst, hsecond]

lemma PrinterFingerprint.Plain.mergeMissing (hplain : fingerprint.Plain) (hother : other.Plain) :
    (fingerprint.mergeMissing other).Plain where
  usbVendorId := by
    simp [PrinterFingerprint.mergeMissing, hplain.usbVendorId, hother.usbVendorId]
  macAddress := by simp [PrinterFingerprint.mergeMissing, hplain.macAddress, hother.macAddress]

end Kinds

end Oppa.Printer
