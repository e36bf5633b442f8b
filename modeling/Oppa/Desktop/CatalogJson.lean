import Oppa.Foundation.Serde
import Oppa.Desktop.Catalog

/-!
# The stored catalog

How the rows of the catalog are serialized, read back, and brought up to date when an older version
wrote them.

* `PersistedCatalog.toValue`, `readCatalog` — what is stored and how it is read.
* `migrateLegacyPrinterConfig` — adds submission modes and device profiles to older rows.
* **`readCatalog_toValue`** — what the catalog stores, it reads back; the migration leaves it alone
  (`migrate_toValue`).
* `storedCatalog`, `checkRows` — what `load` makes of the stored setting before it takes the printers
  into use.
-/

namespace Oppa.Desktop

open Printer Json

/-! ## Names -/

/-- The names of printer availabilities. -/
def availabilityNames : List (String × PrinterAvailability) :=
  [("online", .online), ("offline", .offline), ("degraded", .degraded), ("unknown", .unknown)]

/-- The serialized name of an availability. -/
def availabilityName : PrinterAvailability → String
  | .online => "online"
  | .offline => "offline"
  | .degraded => "degraded"
  | .unknown => "unknown"

/-- The names of paper sizes. -/
def paperNames : List (String × StandardPaper) :=
  [("a4", .a4), ("a5", .a5), ("letter", .letter), ("legal", .legal)]

/-- The serialized name of a paper size. -/
def paperName : StandardPaper → String
  | .a4 => "a4"
  | .a5 => "a5"
  | .letter => "letter"
  | .legal => "legal"

/-- The names of simulation policies. -/
def virtualModeNames : List (String × VirtualPrinterMode) :=
  [("always_succeed", .alwaysSucceed), ("fail_next", .failNext), ("always_fail", .alwaysFail),
    ("delay", .delay), ("offline", .offline)]

/-- The serialized name of a simulation policy. -/
def virtualModeName : VirtualPrinterMode → String
  | .alwaysSucceed => "always_succeed"
  | .failNext => "fail_next"
  | .alwaysFail => "always_fail"
  | .delay => "delay"
  | .offline => "offline"

/-! ## What is stored -/

/-- A serialized number of 16 bits. -/
def uint16Value (n : UInt16) : Value := .number n.toNat

/-- A serialized connection. -/
def connectionValue : PrinterConnection → Value
  | .systemQueue queueName =>
      .object [("queue_name", .string queueName), ("type", .string "system-queue")]
  | .network host port =>
      .object [("host", .string host), ("port", uint16Value port), ("type", .string "network")]
  | .usb vendorId productId serialNumber =>
      .object [("product_id", uint16Value productId),
        ("serial_number", Serde.nullValue .string serialNumber), ("type", .string "usb"),
        ("vendor_id", uint16Value vendorId)]
  | .virtual printerId =>
      .object [("printer_id", .string printerId), ("type", .string "virtual")]

/-- A serialized submission mode. -/
def submissionModeValue : SubmissionMode → Value
  | .driver => .object [("type", .string "driver")]
  | .raw .escPos => .object [("language", .string "esc-pos"), ("type", .string "raw")]

/-- A serialized device profile. -/
def profileValue : VirtualPrinterProfile → Value
  | .escPosReceipt widthMm =>
      .object [("type", .string "esc-pos-receipt"), ("widthMm", uint16Value widthMm)]
  | .systemDriverPage pageWidthMm pageHeightMm dpi =>
      .object [("dpi", uint16Value dpi), ("pageHeightMm", uint16Value pageHeightMm),
        ("pageWidthMm", uint16Value pageWidthMm), ("type", .string "system-driver-page")]

/-- A serialized printer reference. -/
def referenceValue (reference : PrinterRef) : Value :=
  .object [("connection", connectionValue reference.connection),
    ("displayName", .string reference.displayName), ("enabled", .bool reference.enabled),
    ("id", .string reference.id.value),
    ("submissionMode", submissionModeValue reference.submissionMode),
    ("virtualProfile", Serde.nullValue profileValue reference.virtualProfile)]

/-- Serialized PDF capabilities. -/
def pdfValue (pdf : PdfCapabilities) : Value :=
  .object [("customPaper", .bool pdf.customPaper), ("duplex", .bool pdf.duplex),
    ("native", .bool pdf.native),
    ("paperSizes", .array (pdf.paperSizes.map fun size => .string (paperName size)))]

/-- Serialized capabilities. -/
def capabilitiesValue (capabilities : PrinterCapabilities) : Value :=
  .object ([("barcode", .bool capabilities.barcode),
    ("cancellation", .bool capabilities.cancellation), ("cut", .bool capabilities.cut),
    ("escPos", .bool capabilities.escPos)] ++
    optionalMember "pdf" (capabilities.pdf.map pdfValue) ++
    [("qrCode", .bool capabilities.qrCode), ("raster", .bool capabilities.raster),
      ("receiptWidthsMm", .array (capabilities.receiptWidthsMm.map uint16Value)),
      ("systemDriver", .bool capabilities.systemDriver)])

/-- Serialized evidence. -/
def fingerprintValue (fingerprint : PrinterFingerprint) : Value :=
  .object [("deviceUri", Serde.nullValue .string fingerprint.deviceUri),
    ("driverName", Serde.nullValue .string fingerprint.driverName),
    ("host", Serde.nullValue .string fingerprint.host),
    ("macAddress", Serde.nullValue .string fingerprint.macAddress),
    ("port", Serde.nullValue uint16Value fingerprint.port),
    ("queueName", Serde.nullValue .string fingerprint.queueName),
    ("serialNumber", Serde.nullValue .string fingerprint.serialNumber),
    ("usbProductId", Serde.nullValue uint16Value fingerprint.usbProductId),
    ("usbVendorId", Serde.nullValue uint16Value fingerprint.usbVendorId)]

/-- A serialized provider record. -/
def providerValue (metadata : ProviderMetadata) : Value :=
  .object [("attributes", Serde.textMapValue metadata.attributes),
    ("provider", .string metadata.provider),
    ("providerId", Serde.nullValue .string metadata.providerId)]

/-- A serialized row. -/
def CatalogPrinter.toValue (printer : CatalogPrinter) : Value :=
  .object [("availability", .string (availabilityName printer.availability)),
    ("capabilities", Serde.nullValue capabilitiesValue printer.capabilities),
    ("fingerprint", fingerprintValue printer.fingerprint),
    ("providers", .array (printer.providers.map providerValue)),
    ("reference", referenceValue printer.reference),
    ("sourceName", .string printer.sourceName),
    ("virtualDelayMs", .number printer.virtualDelayMs.toNat),
    ("virtualMode", .string (virtualModeName printer.virtualMode)),
    ("virtualWidth", Serde.nullValue uint16Value printer.virtualWidth)]

/-- The serialized catalog. -/
def PersistedCatalog.toValue (catalog : PersistedCatalog) : Value :=
  .object [("printers", .array (catalog.printers.map CatalogPrinter.toValue)),
    ("suppressedSystemIds", .array (catalog.suppressedSystemIds.map .string))]

/-! ## How it is read -/

/-- Reads an id. -/
def readId : Serde.Decoder PrinterId := fun content =>
  (Serde.string content).bind fun text => (TypedIdentifier.new .printer text).toOption

/-- Reads a connection. -/
def readConnection : Serde.Decoder PrinterConnection :=
  Serde.tagged "type" fun
    | "system-queue" => Serde.record ["queue_name"] 1 fun members => do
        some (.systemQueue (← Serde.required members "queue_name" Serde.string))
    | "network" => Serde.record ["host", "port"] 2 fun members => do
        some (.network (← Serde.required members "host" Serde.string)
          (← Serde.required members "port" Serde.uint16))
    | "usb" => Serde.record ["vendor_id", "product_id", "serial_number"] 3 fun members => do
        some (.usb (← Serde.required members "vendor_id" Serde.uint16)
          (← Serde.required members "product_id" Serde.uint16)
          (← Serde.optional members "serial_number" Serde.string))
    | "virtual" => Serde.record ["printer_id"] 1 fun members => do
        some (.virtual (← Serde.required members "printer_id" Serde.string))
    | _ => fun _ => none

/-- Reads a submission mode. -/
def readSubmissionMode : Serde.Decoder SubmissionMode :=
  Serde.adjacent "type" "language" fun
    | "driver", none => some .driver
    | "driver", some .null => some .driver
    | "raw", some language =>
        (Serde.variant [("esc-pos", PrinterLanguage.escPos)] language).map .raw
    | _, _ => none

/-- Reads a device profile. -/
def readProfile : Serde.Decoder VirtualPrinterProfile :=
  Serde.tagged "type" fun
    | "esc-pos-receipt" => Serde.record ["widthMm"] 1 fun members => do
        some (.escPosReceipt (← Serde.required members "widthMm" Serde.uint16))
    | "system-driver-page" =>
        Serde.record ["pageWidthMm", "pageHeightMm", "dpi"] 3 fun members => do
          some (.systemDriverPage (← Serde.required members "pageWidthMm" Serde.uint16)
            (← Serde.required members "pageHeightMm" Serde.uint16)
            (← Serde.required members "dpi" Serde.uint16))
    | _ => fun _ => none

/-- Reads a printer reference. -/
def readReference : Serde.Decoder PrinterRef :=
  Serde.record ["id", "displayName", "connection", "submissionMode", "virtualProfile", "enabled"] 6
    fun members => do
      let id ← Serde.required members "id" readId
      let displayName ← Serde.required members "displayName" Serde.string
      let connection ← Serde.required members "connection" readConnection
      let submissionMode ← Serde.defaulted members "submissionMode" .driver readSubmissionMode
      let virtualProfile ←
        Serde.defaulted members "virtualProfile" none (Serde.nullable readProfile)
      let enabled ← Serde.required members "enabled" Serde.bool
      some
        { id := id
          displayName := displayName
          connection := connection
          submissionMode := submissionMode
          virtualProfile := virtualProfile
          enabled := enabled }

/-- Reads PDF capabilities. -/
def readPdf : Serde.Decoder PdfCapabilities :=
  Serde.record ["native", "duplex", "customPaper", "paperSizes"] 3 fun members => do
    let native ← Serde.required members "native" Serde.bool
    let duplex ← Serde.required members "duplex" Serde.bool
    let customPaper ← Serde.required members "customPaper" Serde.bool
    let paperSizes ← Serde.defaulted members "paperSizes" []
      (Serde.array (Serde.variant paperNames))
    some
      { native := native
        duplex := duplex
        customPaper := customPaper
        paperSizes := paperSizes }

/-- Reads capabilities. -/
def readCapabilities : Serde.Decoder PrinterCapabilities :=
  Serde.record ["receiptWidthsMm", "escPos", "systemDriver", "raster", "cut", "qrCode", "barcode",
    "cancellation", "pdf"] 8 fun members => do
    let receiptWidthsMm ← Serde.required members "receiptWidthsMm" (Serde.array Serde.uint16)
    let escPos ← Serde.required members "escPos" Serde.bool
    let systemDriver ← Serde.defaulted members "systemDriver" false Serde.bool
    let raster ← Serde.required members "raster" Serde.bool
    let cut ← Serde.required members "cut" Serde.bool
    let qrCode ← Serde.required members "qrCode" Serde.bool
    let barcode ← Serde.required members "barcode" Serde.bool
    let cancellation ← Serde.required members "cancellation" Serde.bool
    let pdf ← Serde.defaulted members "pdf" none (Serde.nullable readPdf)
    some
      { receiptWidthsMm := receiptWidthsMm
        escPos := escPos
        systemDriver := systemDriver
        raster := raster
        cut := cut
        qrCode := qrCode
        barcode := barcode
        cancellation := cancellation
        pdf := pdf }

/-- Reads evidence. -/
def readFingerprint : Serde.Decoder PrinterFingerprint :=
  Serde.record ["queueName", "driverName", "deviceUri", "host", "port", "usbVendorId",
    "usbProductId", "serialNumber", "macAddress"] 9 fun members => do
    let queueName ← Serde.optional members "queueName" Serde.string
    let driverName ← Serde.optional members "driverName" Serde.string
    let deviceUri ← Serde.optional members "deviceUri" Serde.string
    let host ← Serde.optional members "host" Serde.string
    let port ← Serde.optional members "port" Serde.uint16
    let usbVendorId ← Serde.optional members "usbVendorId" Serde.uint16
    let usbProductId ← Serde.optional members "usbProductId" Serde.uint16
    let serialNumber ← Serde.optional members "serialNumber" Serde.string
    let macAddress ← Serde.optional members "macAddress" Serde.string
    some
      { queueName := queueName
        driverName := driverName
        deviceUri := deviceUri
        host := host
        port := port
        usbVendorId := usbVendorId
        usbProductId := usbProductId
        serialNumber := serialNumber
        macAddress := macAddress }

/-- Reads a provider record. -/
def readProvider : Serde.Decoder ProviderMetadata :=
  Serde.record ["provider", "providerId", "attributes"] 2 fun members => do
    let provider ← Serde.required members "provider" Serde.string
    let providerId ← Serde.optional members "providerId" Serde.string
    let attributes ← Serde.defaulted members "attributes" [] Serde.textMap
    some { provider := provider, providerId := providerId, attributes := attributes }

/-- Reads a row. -/
def readPrinter : Serde.Decoder CatalogPrinter :=
  Serde.record ["reference", "sourceName", "availability", "capabilities", "fingerprint",
    "providers", "virtualWidth", "virtualMode", "virtualDelayMs"] 4 fun members => do
    let reference ← Serde.required members "reference" readReference
    let sourceName ← Serde.required members "sourceName" Serde.string
    let availability ←
      Serde.required members "availability" (Serde.variant availabilityNames)
    let capabilities ← Serde.optional members "capabilities" readCapabilities
    let fingerprint ← Serde.defaulted members "fingerprint" {} readFingerprint
    let providers ← Serde.defaulted members "providers" [] (Serde.array readProvider)
    let virtualWidth ←
      Serde.defaulted members "virtualWidth" none (Serde.nullable Serde.uint16)
    let virtualMode ← Serde.defaulted members "virtualMode" VirtualPrinterMode.alwaysSucceed
      (Serde.variant virtualModeNames)
    let virtualDelayMs ← Serde.defaulted members "virtualDelayMs" 0 Serde.uint64
    some
      { reference := reference
        sourceName := sourceName
        availability := availability
        capabilities := capabilities
        fingerprint := fingerprint
        providers := providers
        virtualWidth := virtualWidth
        virtualMode := virtualMode
        virtualDelayMs := virtualDelayMs }

/-- Reads the catalog. -/
def readCatalog : Serde.Decoder PersistedCatalog :=
  Serde.record ["printers", "suppressedSystemIds"] 1 fun members => do
    let printers ← Serde.required members "printers" (Serde.array readPrinter)
    let suppressedSystemIds ←
      Serde.defaulted members "suppressedSystemIds" [] (Serde.array Serde.string)
    some { printers := printers, suppressedSystemIds := suppressedSystemIds }

/-! ## What is stored is read back -/

section RoundTrip

attribute [local simp] Serde.tagged Serde.record Serde.required Serde.optional Serde.defaulted
  Serde.adjacent Serde.variant List.lookup_nil List.lookup_cons uint16Value

@[simp] lemma readId_read (id : PrinterId) : readId (.string id.value) = some id := by
  rw [readId, Serde.string_read, Option.bind_some, TypedIdentifier.new_of_valid id.valid]
  rfl

@[simp] lemma nullable_string (text : Option String) :
    Serde.nullable Serde.string (Serde.content (Serde.nullValue .string text)) = some text :=
  Serde.nullable_content rfl fun found _ => Serde.string_read found

@[simp] lemma nullable_uint16 (n : Option UInt16) :
    Serde.nullable Serde.uint16 (Serde.content (Serde.nullValue uint16Value n)) = some n :=
  Serde.nullable_content rfl fun found _ => Serde.uint16_read found

@[simp] lemma readConnection_content (connection : PrinterConnection) :
    readConnection (Serde.content (connectionValue connection)) = some connection := by
  cases connection <;> simp [readConnection, connectionValue]

@[simp] lemma readSubmissionMode_content (mode : SubmissionMode) :
    readSubmissionMode (Serde.content (submissionModeValue mode)) = some mode := by
  cases mode with
  | driver => rfl
  | raw language => cases language; rfl

@[simp] lemma readProfile_content (profile : VirtualPrinterProfile) :
    readProfile (Serde.content (profileValue profile)) = some profile := by
  cases profile <;> simp [readProfile, profileValue]

@[simp] lemma nullable_readProfile (profile : Option VirtualPrinterProfile) :
    Serde.nullable readProfile (Serde.content (Serde.nullValue profileValue profile)) =
      some profile :=
  Serde.nullable_content rfl fun found _ => readProfile_content found

@[simp] lemma readReference_content (reference : PrinterRef) :
    readReference (Serde.content (referenceValue reference)) = some reference := by
  simp [readReference, referenceValue]

@[simp] lemma array_papers (sizes : List StandardPaper) :
    Serde.array (Serde.variant paperNames)
      (.array (sizes.map fun size => .string (paperName size))) = some sizes := by
  refine Serde.array_content (fun size => .string (paperName size)) fun size _ => ?_
  cases size <;> rfl

@[simp] lemma array_uint16 (ns : List UInt16) :
    Serde.array Serde.uint16 (.array (ns.map fun n => .number (.int n.toNat))) = some ns :=
  Serde.array_content uint16Value fun n _ => Serde.uint16_read n

@[simp] lemma array_string (texts : List String) :
    Serde.array Serde.string (.array (texts.map Tree.string)) = some texts :=
  Serde.array_content .string fun text _ => Serde.string_read text

@[simp] lemma readPdf_content (pdf : PdfCapabilities) :
    readPdf (Serde.content (pdfValue pdf)) = some pdf := by
  simp [readPdf, pdfValue, Function.comp_def]

@[simp] lemma nullable_readPdf (pdf : PdfCapabilities) :
    Serde.nullable readPdf (Serde.content (pdfValue pdf)) = some (some pdf) := by
  show Serde.nullable readPdf (Serde.content (Serde.nullValue pdfValue (some pdf))) = _
  exact Serde.nullable_content rfl fun found _ => readPdf_content found

@[simp] lemma readCapabilities_content (capabilities : PrinterCapabilities) :
    readCapabilities (Serde.content (capabilitiesValue capabilities)) = some capabilities := by
  rcases capabilities with ⟨_, _, _, _, _, _, _, _, pdf⟩
  cases pdf <;> simp [readCapabilities, capabilitiesValue, optionalMember, Function.comp_def]

@[simp] lemma nullable_readCapabilities (capabilities : Option PrinterCapabilities) :
    Serde.nullable readCapabilities
      (Serde.content (Serde.nullValue capabilitiesValue capabilities)) = some capabilities :=
  Serde.nullable_content rfl fun found _ => readCapabilities_content found

@[simp] lemma readFingerprint_content (fingerprint : PrinterFingerprint) :
    readFingerprint (Serde.content (fingerprintValue fingerprint)) = some fingerprint := by
  simp [readFingerprint, fingerprintValue]

@[simp] lemma readProvider_content (metadata : ProviderMetadata) :
    readProvider (Serde.content (providerValue metadata)) = some metadata := by
  simp [readProvider, providerValue]

@[simp] lemma array_readProvider (providers : List ProviderMetadata) :
    Serde.array readProvider (.array (providers.map fun metadata =>
      Serde.content (providerValue metadata))) = some providers :=
  Serde.array_content providerValue fun metadata _ => readProvider_content metadata

@[simp] lemma readPrinter_content (printer : CatalogPrinter) :
    readPrinter (Serde.content printer.toValue) = some printer := by
  have havailability : availabilityNames.lookup (availabilityName printer.availability) =
      some printer.availability := by
    cases printer.availability <;> rfl
  have hmode : virtualModeNames.lookup (virtualModeName printer.virtualMode) =
      some printer.virtualMode := by
    cases printer.virtualMode <;> rfl
  simp [readPrinter, CatalogPrinter.toValue, Function.comp_def, havailability, hmode]

@[simp] lemma array_readPrinter (printers : List CatalogPrinter) :
    Serde.array readPrinter (.array (printers.map fun printer =>
      Serde.content printer.toValue)) = some printers :=
  Serde.array_content CatalogPrinter.toValue fun printer _ => readPrinter_content printer

/-- **The catalog reads back what it stores.** -/
theorem readCatalog_toValue (catalog : PersistedCatalog) :
    readCatalog (Serde.content catalog.toValue) = some catalog := by
  simp [readCatalog, PersistedCatalog.toValue, Function.comp_def]

end RoundTrip

/-! ## Older rows -/

/-- `Value::get`. -/
def field (key : String) : Serde.Content → Option Serde.Content
  | .object members => members.lookup key
  | _ => none

/-- `Value::as_str`. -/
def asText : Serde.Content → Option String
  | .string text => some text
  | _ => none

/-- `Map::insert`. -/
def insertMember (key : String) (value : Serde.Content) :
    List (String × Serde.Content) → List (String × Serde.Content)
  | [] => [(key, value)]
  | (first, old) :: members =>
      if key = first then (key, value) :: members
      else if key < first then (key, value) :: (first, old) :: members
      else (first, old) :: insertMember key value members

/-- Replaces or adds a member of an object. -/
def setField (key : String) (value : Serde.Content) : Serde.Content → Serde.Content
  | .object members => .object (insertMember key value members)
  | content => content

/-- A number in a JSON literal of the program. -/
def literal (n : ℕ) : Serde.Content := .number (.int n)

/-- The receipt width of an older virtual printer. -/
def legacyWidth (printer : Serde.Content) : ℕ :=
  match field "virtualWidth" printer with
  | some (.number (.int (.ofNat width))) => if width = 58 ∨ width = 80 then width else 80
  | _ => 80

/-- The type of the connection in a stored reference. -/
def connectionType (reference : List (String × Serde.Content)) : Option String :=
  ((reference.lookup "connection").bind (field "type")).bind asText

/-- The submission mode an older reference is given. -/
def legacySubmissionMode : Option String → Option Serde.Content
  | some "system-queue" => some (.object [("type", .string "driver")])
  | some "network" | some "usb" | some "virtual" =>
      some (.object [("language", .string "esc-pos"), ("type", .string "raw")])
  | _ => none

/-- Adds the submission mode, if there is none and the connection tells it. -/
def addSubmissionMode (reference : List (String × Serde.Content)) :
    Option (List (String × Serde.Content)) :=
  if (reference.lookup "submissionMode").isSome then none
  else
    (legacySubmissionMode (connectionType reference)).map fun mode =>
      insertMember "submissionMode" mode reference

/-- The device profile an older virtual printer is given. -/
def legacyProfile (width : ℕ) (reference : List (String × Serde.Content)) : Serde.Content :=
  if ((reference.lookup "submissionMode").bind (field "type")).bind asText = some "driver" then
    .object [("dpi", literal 300), ("pageHeightMm", literal 297), ("pageWidthMm", literal 210),
      ("type", .string "system-driver-page")]
  else .object [("type", .string "esc-pos-receipt"), ("widthMm", literal width)]

/-- Adds the device profile of a virtual printer, if there is none. -/
def addVirtualProfile (width : ℕ) (reference : List (String × Serde.Content)) :
    Option (List (String × Serde.Content)) :=
  if connectionType reference = some "virtual" ∧ (reference.lookup "virtualProfile").isNone then
    some (insertMember "virtualProfile" (legacyProfile width reference) reference)
  else none

/-- The capabilities that `migrate_legacy_system_queue_capabilities` leaves. -/
def legacyQueueCapabilities (capabilities : List (String × Serde.Content)) : Serde.Content :=
  let widths := (capabilities.lookup "receiptWidthsMm").getD (.array [literal 58, literal 80])
  .object (insertMember "cancellation" (.bool true) (insertMember "barcode" (.bool true)
    (insertMember "qrCode" (.bool true) (insertMember "cut" (.bool false)
      (insertMember "raster" (.bool true) (insertMember "escPos" (.bool false)
        (insertMember "systemDriver" (.bool true)
          (insertMember "receiptWidthsMm" widths capabilities))))))))

/-- `migrate_legacy_system_queue_capabilities`. -/
def migrateQueueCapabilities (printer : Serde.Content) : Serde.Content :=
  match field "capabilities" printer with
  | none | some .null => setField "capabilities" (legacyQueueCapabilities []) printer
  | some (.object capabilities) =>
      setField "capabilities" (legacyQueueCapabilities capabilities) printer
  | some _ => printer

/-- One round of `migrate_legacy_printer_config`: the row, if it was changed. -/
def migratePrinter (printer : Serde.Content) : Option Serde.Content :=
  match field "reference" printer with
  | some (.object reference) =>
      let moded := addSubmissionMode reference
      let profiled := addVirtualProfile (legacyWidth printer) (moded.getD reference)
      (profiled <|> moded).map fun migrated =>
        let updated := setField "reference" (.object migrated) printer
        if moded.isSome ∧ connectionType reference = some "system-queue" then
          migrateQueueCapabilities updated
        else updated
  | _ => none

/-- `migrate_legacy_printer_config`: the setting, if it was changed. -/
def migrateLegacyPrinterConfig (setting : Serde.Content) : Option Serde.Content :=
  match field "printers" setting with
  | some (.array printers) =>
      if printers.any fun printer => (migratePrinter printer).isSome then
        some (setField "printers"
          (.array (printers.map fun printer => (migratePrinter printer).getD printer)) setting)
      else none
  | _ => none

/-- The migration leaves a row alone that the catalog has stored. -/
lemma migratePrinter_toValue (printer : CatalogPrinter) :
    migratePrinter (Serde.content printer.toValue) = none := by
  have hreference : field "reference" (Serde.content printer.toValue) =
      some (Serde.content (referenceValue printer.reference)) := rfl
  have hmembers : ∃ members, Serde.content (referenceValue printer.reference) = .object members ∧
      (members.lookup "submissionMode").isSome = true ∧
      (members.lookup "virtualProfile").isNone = false := ⟨_, rfl, rfl, rfl⟩
  rcases hmembers with ⟨members, hobject, hmode, hprofile⟩
  rw [migratePrinter, hreference, hobject]
  simp only [addSubmissionMode, hmode, if_true, Option.getD_none, addVirtualProfile, hprofile,
    Bool.false_eq_true, and_false, if_false]
  rfl

/-- The migration leaves alone what the catalog has stored. -/
lemma migrate_toValue (catalog : PersistedCatalog) :
    migrateLegacyPrinterConfig (Serde.content catalog.toValue) = none := by
  have hprinters : field "printers" (Serde.content catalog.toValue) =
      some (.array (catalog.printers.map fun printer => Serde.content printer.toValue)) := by
    show some (Serde.content (.array (catalog.printers.map CatalogPrinter.toValue))) = _
    rw [Serde.content, Value.tree_array, List.map_map]
    rfl
  have hnone : (catalog.printers.map fun printer => Serde.content printer.toValue).any
      (fun printer => (migratePrinter printer).isSome) = false := by
    simp [migratePrinter_toValue]
  rw [migrateLegacyPrinterConfig, hprinters]
  simp only [hnone, Bool.false_eq_true, if_false]

/-! ## Loading -/

/-- The rows of the stored setting, and whether they were brought up to date. -/
def storedCatalog : Option Serde.Content → Except CommandError (PersistedCatalog × Bool)
  | none => .ok (.default, false)
  | some setting =>
      match readCatalog ((migrateLegacyPrinterConfig setting).getD setting) with
      | some catalog => .ok (catalog, (migrateLegacyPrinterConfig setting).isSome)
      | none => .error (.internal "printer catalog is invalid")

/-- The check of every stored row, which also looks for an id that was seen before. -/
def checkRows : List PrinterId → List CatalogPrinter → Except CommandError Unit
  | _, [] => .ok ()
  | seen, printer :: printers => do
      printer.reference.validate.mapError fun e =>
        .internal ("stored printer is invalid: " ++ e.display)
      ensure (printer.id ∉ seen)
        (.internal ("stored printer id " ++ printer.id.value ++ " is duplicated"))
      checkRows (printer.id :: seen) printers

@[simp] lemma storedCatalog_toValue (catalog : PersistedCatalog) :
    storedCatalog (some (Serde.content catalog.toValue)) = .ok (catalog, false) := by
  rw [storedCatalog, migrate_toValue, Option.getD_none, readCatalog_toValue]
  rfl

lemma ensure_eq_ok {condition : Bool} {failure : CommandError} {u : Unit} :
    ensure condition failure = .ok u ↔ condition = true := by
  rw [ensure]
  split_ifs with h <;> simp [h]

lemma checkRows_eq_ok {seen : List PrinterId} {printers : List CatalogPrinter} :
    checkRows seen printers = .ok () ↔
      (∀ printer ∈ printers, printer.reference.validate = .ok ()) ∧
        (printers.map CatalogPrinter.id).Nodup ∧ ∀ printer ∈ printers, printer.id ∉ seen := by
  induction printers generalizing seen with
  | nil => simp [checkRows]
  | cons printer printers ih =>
      simp only [checkRows, Result.bind_eq_ok, Result.mapError_eq_ok, ensure_eq_ok,
        decide_eq_true_eq, ih, List.forall_mem_cons, List.map_cons, List.nodup_cons]
      constructor
      · rintro ⟨_, hvalid, _, hseen, hrest, hnodup, hnew⟩
        refine ⟨⟨hvalid, hrest⟩, ⟨?_, hnodup⟩, hseen, fun other hother hmem => ?_⟩
        · intro hid
          rcases List.mem_map.mp hid with ⟨other, hother, heq⟩
          exact hnew other hother (heq ▸ List.mem_cons_self)
        · exact hnew other hother (List.mem_cons_of_mem _ hmem)
      · rintro ⟨⟨hvalid, hrest⟩, ⟨hid, hnodup⟩, hseen, hnew⟩
        refine ⟨(), hvalid, (), hseen, hrest, hnodup, fun other hother hmem => ?_⟩
        rcases List.mem_cons.mp hmem with heq | hmem
        · exact hid (List.mem_map.mpr ⟨other, hother, heq⟩)
        · exact hnew other hother hmem

end Oppa.Desktop
