import Mathlib.Data.List.Nodup
import Oppa.Protocol.Document
import Oppa.Printer.Discovered

/-!
# Discovery providers

What the providers of the discovery crate observe: the queues of the operating system, the network
printers that were configured by hand, and the virtual printers.

* `CupsQueueOptions.parse` — the media and duplex options of one queue.  No paper size is listed
  twice, which the options carry as a field.
* `QueueReport.observation`, `ManualNetworkPrinter.observation`, `VirtualPrinterDefinition.observation`
  — the observation each provider makes of a printer.
* `Credible` — what holds of all of them: the evidence and the providers are those of a printer that
  is connected as the observation says, and only a queue has no identity yet.
-/

namespace Oppa.Discovery

open Printer Text

/-! ## The options of a queue -/

/-- `str::to_ascii_lowercase`. -/
def toAsciiLowercase (cs : List Char) : List Char := cs.map Char.toLower

/-- `str::lines`. -/
def lines (cs : List Char) : List (List Char) :=
  let pieces := cs.splitOn '\n'
  (pieces.dropLast.map fun line => if line.getLast? = some '\r' then line.dropLast else line) ++
    pieces.getLast?.toList.filter fun line => !line.isEmpty

/-- `str::split_whitespace`. -/
def splitWhitespace (cs : List Char) : List (List Char) :=
  (cs.splitOnP isWhitespace).filter fun word => !word.isEmpty

/-- `str::starts_with`. -/
def startsWith (cs : List Char) (start : String) : Bool := start.toList.isPrefixOf cs

/-- `standard_paper`. -/
def standardPaper (token : List Char) : Option StandardPaper :=
  match String.ofList (toAsciiLowercase token) with
  | "a4" | "iso_a4_210x297mm" => some .a4
  | "a5" | "iso_a5_148x210mm" => some .a5
  | "letter" | "na_letter_8.5x11in" => some .letter
  | "legal" | "na_legal_8.5x14in" => some .legal
  | _ => none

/-- The order in which paper sizes are listed. -/
def paperRank : StandardPaper → ℕ
  | .a4 => 0
  | .a5 => 1
  | .letter => 2
  | .legal => 3

/-- Media and duplex options reported by one CUPS queue. -/
structure CupsQueueOptions where
  paperSizes : List StandardPaper
  customPaper : Bool
  duplex : Bool
  distinct : paperSizes.Nodup

namespace CupsQueueOptions

/-- What is known of a queue whose options could not be read. -/
def default : CupsQueueOptions where
  paperSizes := []
  customPaper := false
  duplex := false
  distinct := List.nodup_nil

variable (options : CupsQueueOptions)

/-- A token of a line about media. -/
def offer (token : List Char) : CupsQueueOptions :=
  match standardPaper token with
  | some size =>
      if hsize : size ∈ options.paperSizes then options
      else
        { options with
          paperSizes := options.paperSizes.concat size
          distinct := options.distinct.concat hsize }
  | none =>
      if startsWith (toAsciiLowercase token) "custom" then { options with customPaper := true }
      else options

/-- A line of the output. -/
def readLine (line : List Char) : CupsQueueOptions :=
  match Protocol.splitOnce ':' line with
  | none => options
  | some (label, values) =>
      let key := toAsciiLowercase (trimChars label)
      let tokens := (splitWhitespace values).map (List.dropWhile (· = '*'))
      if startsWith key "pagesize" ∨ startsWith key "media/" ∨ key = "media".toList then
        tokens.foldl offer options
      else if contains "duplex".toList key ∨ startsWith key "sides" then
        { options with
          duplex := options.duplex || tokens.any fun token =>
            startsWith (toAsciiLowercase token) "duplex" ||
              startsWith (toAsciiLowercase token) "two-sided" }
      else options

/-- Lists the paper sizes in a stable order. -/
def sorted : CupsQueueOptions :=
  { options with
    paperSizes := options.paperSizes.mergeSort fun a b => paperRank a ≤ paperRank b
    distinct := (List.mergeSort_perm _ _).nodup_iff.mpr options.distinct }

/-- `parse_cups_options`. -/
def parse (output : String) : CupsQueueOptions :=
  ((lines output.toList).foldl readLine default).sorted

/-- `CupsQueueOptions::pdf_capabilities`. -/
def pdfCapabilities : PdfCapabilities where
  native := true
  duplex := options.duplex
  customPaper := options.customPaper
  paperSizes := options.paperSizes

end CupsQueueOptions

/-! ## Observations -/

/-- `receipt_capabilities`. -/
def receiptCapabilities : PrinterCapabilities where
  receiptWidthsMm := [58, 80]
  escPos := true
  systemDriver := false
  raster := true
  cut := true
  qrCode := true
  barcode := true
  cancellation := true
  pdf := none

/-- `system_driver_capabilities`, with the route for PDFs that is described later. -/
def systemDriverCapabilities (pdf : PdfCapabilities) : PrinterCapabilities where
  receiptWidthsMm := [58, 80]
  escPos := false
  systemDriver := true
  raster := true
  cut := false
  qrCode := true
  barcode := true
  cancellation := true
  pdf := some pdf

/-- The route of `windows_queue_capabilities`. -/
def windowsPdfCapabilities : PdfCapabilities where
  native := false
  duplex := false
  customPaper := true
  paperSizes := [.a4, .a5, .letter, .legal]

/-- A queue as the query of a platform lists it. -/
inductive QueueReport
  /-- A queue of `lpstat`, and what `lpoptions` printed for it. -/
  | cups (name : String) (uri : Option String) (availability : PrinterAvailability)
      (options : Option String)
  /-- A queue of `Get-Printer`. -/
  | windows (name driver port status : String) (availability : PrinterAvailability)

/-- An observation of the provider of system queues. -/
def queueObservation (name : String) (driverName deviceUri : Option String)
    (availability : PrinterAvailability) (pdf : PdfCapabilities)
    (attributes : List (String × String)) : DiscoveredPrinter where
  id := none
  name := name
  kind := .unknown
  connection := .systemQueue name
  fingerprint := { queueName := some name, driverName := driverName, deviceUri := deviceUri }
  availability := availability
  capabilities := some (systemDriverCapabilities pdf)
  providers :=
    [{ provider := "system-queue", providerId := some name, attributes := attributes }]

/-- The record of `parse_lpstat` with its route for PDFs, and that of `parse_windows_printers`. -/
def QueueReport.observation : QueueReport → DiscoveredPrinter
  | cups name uri availability options =>
      queueObservation name none uri availability
        ((options.map CupsQueueOptions.parse).getD .default).pdfCapabilities
        (uri.map fun uri => ("deviceUri", uri)).toList
  | windows name driver port status availability =>
      queueObservation name (some driver) (some port) availability windowsPdfCapabilities
        [("driverName", driver), ("portName", port), ("printerStatus", status)]

/-- One manually configured raw TCP printer. -/
structure ManualNetworkPrinter where
  id : PrinterId
  name : String
  host : String
  port : UInt16
  deriving DecidableEq, Repr

/-- The observation of a network printer, by whether a probe could connect. -/
def ManualNetworkPrinter.observation (printer : ManualNetworkPrinter) (connected : Bool) :
    DiscoveredPrinter where
  id := some printer.id
  name := printer.name
  kind := .receipt
  connection := .network printer.host printer.port
  fingerprint := { host := some printer.host, port := some printer.port }
  availability := if connected then .online else .offline
  capabilities := some receiptCapabilities
  providers :=
    [{ provider := "manual-network", providerId := some printer.id.value, attributes := [] }]

/-- `ManualNetworkProvider::discover`: one observation that is not valid fails the provider. -/
def discoverManual (connected : ManualNetworkPrinter → Bool)
    (printers : List ManualNetworkPrinter) :
    Except PrinterValidationError (List DiscoveredPrinter) :=
  printers.mapM fun printer => do
    (printer.observation (connected printer)).validate
    pure (printer.observation (connected printer))

/-- Configured virtual printer exposed through discovery. -/
structure VirtualPrinterDefinition where
  id : PrinterId
  name : String
  availability : PrinterAvailability
  deriving DecidableEq, Repr

/-- The observation of a virtual printer. -/
def VirtualPrinterDefinition.observation (printer : VirtualPrinterDefinition) :
    DiscoveredPrinter where
  id := some printer.id
  name := printer.name
  kind := .virtual
  connection := .virtual printer.id.value
  fingerprint := {}
  availability := printer.availability
  capabilities := some receiptCapabilities
  providers := [{ provider := "virtual", providerId := some printer.id.value, attributes := [] }]

/-! ## What the observations have in common -/

/-- The paper sizes of a route for PDFs are distinct. -/
def PapersDistinct (capabilities : Option PrinterCapabilities) : Prop :=
  ∀ found, capabilities = some found → ∀ pdf, found.pdf = some pdf → pdf.paperSizes.Nodup

/-- Capabilities of a receipt printer that takes ESC/POS and no PDFs. -/
def ReceiptOnly (capabilities : Option PrinterCapabilities) : Prop :=
  ∃ found, capabilities = some found ∧ found.escPos = true ∧ found.pdf = none

/-- An observation shows the evidence of a printer that is connected as it says, and it names the
printer it is about exactly when that is a configured one.  `assigned` says which identities are
those of configured printers of a kind. -/
structure Credible (assigned : PrinterId → ConnectionKind → Prop) (printer : DiscoveredPrinter) :
    Prop where
  fits : printer.fingerprint.Fits printer.connection.kind
  plain : printer.fingerprint.Plain
  reported : ∀ metadata ∈ printer.providers,
    providerKind metadata.provider = some printer.connection.kind
  papers : PapersDistinct printer.capabilities
  queue : printer.id = none → printer.connection.kind = .systemQueue
  configured : ∀ id, printer.id = some id → assigned id printer.connection.kind
  physical : printer.connection.kind ≠ .usb
  network : printer.connection.kind = .network → ReceiptOnly printer.capabilities
  described : printer.capabilities ≠ none

section Credible

variable {assigned : PrinterId → ConnectionKind → Prop}

lemma credible_queueObservation {name : String} {driverName deviceUri : Option String}
    {availability : PrinterAvailability} {pdf : PdfCapabilities}
    {attributes : List (String × String)} (hpapers : pdf.paperSizes.Nodup) :
    Credible assigned
      (queueObservation name driverName deviceUri availability pdf attributes) where
  fits := ⟨fun hkind => absurd rfl hkind, fun _ => rfl⟩
  plain := ⟨rfl, rfl⟩
  reported := by
    intro metadata hmetadata
    rw [List.mem_singleton.mp hmetadata]
    rfl
  papers := by
    rintro _ ⟨⟩ _ ⟨⟩
    exact hpapers
  queue _ := rfl
  configured _ hid := nomatch hid
  physical := nofun
  network := nofun
  described := nofun

/-- **Whatever a queue reports of itself, the observation of it is credible.** -/
theorem QueueReport.credible (report : QueueReport) : Credible assigned report.observation := by
  cases report with
  | cups name uri availability options =>
      exact credible_queueObservation (CupsQueueOptions.distinct _)
  | windows name driver port status availability =>
      exact credible_queueObservation (by decide)

lemma ManualNetworkPrinter.credible {printer : ManualNetworkPrinter} {connected : Bool}
    (hassigned : assigned printer.id .network) :
    Credible assigned (printer.observation connected) where
  fits := ⟨fun _ => ⟨rfl, rfl⟩, fun hkind => absurd rfl hkind⟩
  plain := ⟨rfl, rfl⟩
  reported := by
    intro metadata hmetadata
    rw [List.mem_singleton.mp hmetadata]
    rfl
  papers := by
    rintro _ ⟨⟩ _ ⟨⟩
  queue hid := nomatch hid
  configured := by
    rintro id ⟨⟩
    exact hassigned
  physical := nofun
  network _ := ⟨_, rfl, rfl, rfl⟩
  described := nofun

lemma VirtualPrinterDefinition.credible {printer : VirtualPrinterDefinition}
    (hassigned : assigned printer.id .virtual) : Credible assigned printer.observation where
  fits := ⟨fun _ => ⟨rfl, rfl⟩, fun _ => rfl⟩
  plain := ⟨rfl, rfl⟩
  reported := by
    intro metadata hmetadata
    rw [List.mem_singleton.mp hmetadata]
    rfl
  papers := by
    rintro _ ⟨⟩ _ ⟨⟩
  queue hid := nomatch hid
  configured := by
    rintro id ⟨⟩
    exact hassigned
  physical := nofun
  network := nofun
  described := nofun

end Credible

end Oppa.Discovery
