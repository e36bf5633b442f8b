import Oppa.Desktop.CatalogRun

/-!
# How the catalog is advertised

The descriptors that the rows of the catalog are sent to a server as.

* `protocolDescriptor` — the descriptor of one row; `protocolDescriptors` — those of all rows that
  the product build allows and the protocol can describe.
* `projectInventory` — what a peer of the selected protocol version may see of them.
* `protocolDescriptors_ok` — describing the rows cannot fail, as the rows that cannot be described
  are left out.
-/

namespace Oppa.Protocol

/-- `project_inventory`. -/
def projectInventory (printers : List PrinterDescriptor) (version : ProtocolVersion) :
    List PrinterDescriptor :=
  printers.map fun printer =>
    match version with
    | .v1 => printer.withoutExtendedCapabilities
    | .v2 => printer

end Oppa.Protocol

namespace Oppa.Desktop

open Printer Discovery

/-! ## One row -/

/-- The receipt width the protocol knows for a width in millimetres. -/
def protocolWidth : UInt16 → Option Protocol.ReceiptWidth
  | 58 => some .mm58
  | 80 => some .mm80
  | _ => none

/-- The widths of a printer, in order and each once. -/
def protocolWidths (widths : List UInt16) : List Protocol.ReceiptWidth :=
  ((widths.filterMap protocolWidth).insertionSort fun a b =>
    a.millimetres ≤ b.millimetres).destutter (· ≠ ·)

/-- `protocol_paper_size`. -/
def protocolPaperSize : StandardPaper → Protocol.StandardPaperSize
  | .a4 => .a4
  | .a5 => .a5
  | .letter => .letter
  | .legal => .legal

/-- `protocol_document_formats`. -/
def protocolDocumentFormats (capabilities : PrinterCapabilities) : List Protocol.DocumentFormat :=
  .receipt :: (if capabilities.pdf.isSome then [.pdf] else [])

/-- `protocol_capabilities`. -/
def protocolCapabilities (capabilities : PrinterCapabilities) (submissionMode : SubmissionMode) :
    Option Protocol.PrinterCapabilities :=
  if (protocolWidths capabilities.receiptWidthsMm).isEmpty then none
  else some
    { mediaWidths := protocolWidths capabilities.receiptWidthsMm
      systemDriver := some capabilities.systemDriver
      escPos := some (capabilities.escPos || submissionMode = .raw .escPos)
      raster := capabilities.raster
      cut := capabilities.cut
      qr := capabilities.qrCode
      barcode := capabilities.barcode
      documentFormats := some (protocolDocumentFormats capabilities)
      paperSizes := (capabilities.pdf.filter fun pdf => !pdf.paperSizes.isEmpty).map fun pdf =>
        pdf.paperSizes.map protocolPaperSize
      customPaperSize := capabilities.pdf.map PdfCapabilities.customPaper
      printOptions := capabilities.pdf.map fun pdf =>
        { copies := true
          duplex := pdf.duplex
          orientation := true
          scaling := true
          pageRanges := true } }

/-- How the protocol names the way a printer is connected. -/
def protocolConnection : PrinterConnection →
    Option (Protocol.PrinterKind × Protocol.PrinterConnection)
  | .systemQueue queueName => some (.local, .system queueName)
  | .network host port => some (.network, .tcp host port)
  | .virtual _ => some (.virtual, .virtual)
  | .usb _ _ _ => none

/-- The reachability that is sent to a server. -/
def protocolAvailability : PrinterAvailability → Protocol.PrinterAvailability
  | .online => .online
  | .offline => .offline
  | .unknown | .degraded => .unknown

section Descriptors

variable (lowercase : String → String)

/-- `protocol_fingerprint`, or the text of the connection where there is no evidence. -/
def protocolFingerprint (printer : CatalogPrinter) : String :=
  (strongestEvidence lowercase printer.fingerprint printer.providers).getD
    (connectionFingerprint printer.reference.connection)

/-- The descriptor of a row that is connected in a way the protocol knows. -/
def described (printer : CatalogPrinter) (kind : Protocol.PrinterKind)
    (connection : Protocol.PrinterConnection) : Protocol.PrinterDescriptor where
  id := printer.id.value
  fingerprint := protocolFingerprint lowercase printer
  name := printer.reference.displayName
  kind := kind
  connection := connection
  capabilities := printer.capabilities.bind fun capabilities =>
    protocolCapabilities capabilities printer.reference.submissionMode
  enabled := printer.reference.enabled
  availability := protocolAvailability printer.availability

/-- `protocol_descriptor`. -/
def protocolDescriptor (printer : CatalogPrinter) :
    Except CommandError Protocol.PrinterDescriptor :=
  match protocolConnection printer.reference.connection with
  | some (kind, connection) => .ok (described lowercase printer kind connection)
  | none =>
      .error (.featureUnavailable
        "The current wire protocol cannot advertise USB printer descriptors.")

/-- Whether a row is sent to servers. -/
def advertised (features : ProductFeatures) (printer : CatalogPrinter) : Bool :=
  featureAllowsPrinter features printer && printer.kind ≠ .usb

/-- `protocol_descriptors`. -/
def protocolDescriptors (features : ProductFeatures) (state : PersistedCatalog) :
    Except CommandError (List Protocol.PrinterDescriptor) :=
  (state.printers.filter (advertised features)).mapM (protocolDescriptor lowercase)

/-! ## All rows -/

variable {lowercase}

/-- The descriptor of a row that is not a USB printer. -/
lemma protocolDescriptor_eq_ok {printer : CatalogPrinter} {descriptor : Protocol.PrinterDescriptor} :
    protocolDescriptor lowercase printer = .ok descriptor ↔
      ∃ kind connection, protocolConnection printer.reference.connection = some (kind, connection) ∧
        descriptor = described lowercase printer kind connection := by
  rw [protocolDescriptor]
  constructor
  · intro hdescribed
    split at hdescribed
    · rename_i kind connection hconnection
      cases hdescribed
      exact ⟨kind, connection, hconnection, rfl⟩
    · cases hdescribed
  · rintro ⟨kind, connection, hconnection, rfl⟩
    rw [hconnection]

/-- **Describing the rows cannot fail.** -/
theorem protocolDescriptors_ok (features : ProductFeatures) (state : PersistedCatalog) :
    ∃ descriptors, protocolDescriptors lowercase features state = .ok descriptors := by
  refine Result.exists_mapM_eq_ok ?_
  intro printer hprinter
  have hadvertised := (List.mem_filter.mp hprinter).2
  rw [advertised, Bool.and_eq_true, decide_eq_true_eq] at hadvertised
  cases hconnection : protocolConnection printer.reference.connection with
  | some found => exact ⟨_, protocolDescriptor_eq_ok.mpr ⟨found.1, found.2, hconnection, rfl⟩⟩
  | none =>
      refine absurd ?_ hadvertised.2
      rw [CatalogPrinter.kind]
      cases hkind : printer.reference.connection <;> rw [hkind] at hconnection <;>
        first | rfl | cases hconnection

end Descriptors

end Oppa.Desktop
