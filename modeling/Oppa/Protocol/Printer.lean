import Oppa.Protocol.Document

/-!
# Printer descriptors

How an agent describes its printers to a server.

* `PrinterConnection`, `PrinterCapabilities`, `PrinterDescriptor` — the description, its checks and
  its serialized form.
* `usesExtendedProtocol`, `withoutExtendedCapabilities` — which capabilities only the extended
  protocol knows.
-/

namespace Oppa.Protocol

open Json

/-- Maximum number of printers in an inventory. -/
def maxPrintersPerInventory : ℕ := 512

/-- How OPPA addresses a printer locally. -/
inductive PrinterConnection
  | system (systemName : String)
  | tcp (host : String) (port : UInt16)
  | virtual
  deriving DecidableEq, Repr

namespace PrinterConnection

/-- `PrinterConnection::validate`. -/
def validate : PrinterConnection → Validity
  | system systemName => validateString systemName "systemName" 1 256
  | tcp host port => do
      validateString host "host" 1 253
      if port = 0 then refuse "port" "must be between 1 and 65535"
  | virtual => .ok ()

/-- The serialized connection, tagged with its type. -/
def toValue : PrinterConnection → Value
  | system systemName =>
      .object [("systemName", .string systemName), ("type", .string "system")]
  | tcp host port =>
      .object [("host", .string host), ("port", .number port.toNat), ("type", .string "tcp")]
  | virtual => .object [("type", .string "virtual")]

end PrinterConnection

/-- High-level printer origin. -/
inductive PrinterKind
  | local
  | network
  | virtual
  deriving DecidableEq, Repr

/-- The serialized name of an origin. -/
def PrinterKind.name : PrinterKind → String
  | .local => "local"
  | .network => "network"
  | .virtual => "virtual"

/-- Current reachability state. -/
inductive PrinterAvailability
  | online
  | offline
  | unknown
  deriving DecidableEq, Repr

/-- The serialized name of a reachability state. -/
def PrinterAvailability.name : PrinterAvailability → String
  | .online => "online"
  | .offline => "offline"
  | .unknown => "unknown"

/-- Document families that a printer backend can accept. -/
inductive DocumentFormat
  | receipt
  | pdf
  deriving DecidableEq, Repr

/-- The serialized name of a document family. -/
def DocumentFormat.name : DocumentFormat → String
  | .receipt => "receipt"
  | .pdf => "pdf"

/-- PDF print options a backend can honour. -/
structure PrintOptionsCapability where
  copies : Bool
  duplex : Bool
  orientation : Bool
  scaling : Bool
  pageRanges : Bool
  deriving DecidableEq, Repr

/-- The serialized options. -/
def PrintOptionsCapability.toValue (options : PrintOptionsCapability) : Value :=
  .object [("copies", .bool options.copies), ("duplex", .bool options.duplex),
    ("orientation", .bool options.orientation), ("pageRanges", .bool options.pageRanges),
    ("scaling", .bool options.scaling)]

/-- Rendering and submission features reported by a printer backend. -/
structure PrinterCapabilities where
  mediaWidths : List ReceiptWidth
  systemDriver : Option Bool
  escPos : Option Bool
  raster : Bool
  cut : Bool
  qr : Bool
  barcode : Bool
  documentFormats : Option (List DocumentFormat)
  paperSizes : Option (List StandardPaperSize)
  customPaperSize : Option Bool
  printOptions : Option PrintOptionsCapability
  deriving DecidableEq, Repr

/-- Refuses the first item that equals one before it. -/
def validateDistinct {α : Type} [DecidableEq α] (path : ℕ → String) (message : String)
    (items : List α) : Validity :=
  validateEach (fun index item =>
    if item ∈ items.take index then refuse (path index) message else .ok ()) 0 items

namespace PrinterCapabilities

variable (capabilities : PrinterCapabilities)

/-- Whether any capability introduced by the extended protocol is present. -/
def usesExtendedProtocol : Bool :=
  capabilities.documentFormats.isSome || capabilities.paperSizes.isSome ||
    capabilities.customPaperSize.isSome || capabilities.printOptions.isSome

/-- The check of a list of one or two distinct members. -/
def validatePair {α : Type} [DecidableEq α] (path bounds duplicates : String) (items : List α) :
    Validity :=
  if items.isEmpty || 2 < items.length then refuse path bounds
  else if items.length = 2 && items[0]? = items[1]? then refuse path duplicates
  else .ok ()

/-- `PrinterCapabilities::validate`. -/
def validate : Validity := do
  validatePair "mediaWidths" "must contain between 1 and 2 widths"
    "must not contain duplicate widths" capabilities.mediaWidths
  validateOptional (validatePair "documentFormats" "must contain between 1 and 2 formats"
    "must not contain duplicate formats") capabilities.documentFormats
  validateOptional (fun sizes =>
    if 4 < sizes.length then refuse "paperSizes" "must contain at most 4 standard sizes"
    else
      validateDistinct (fun index => "paperSizes." ++ toString index)
        "must not contain duplicate sizes" sizes) capabilities.paperSizes

/-- The serialized capabilities. -/
def toValue : Value :=
  .object ([("barcode", .bool capabilities.barcode)] ++
    optionalMember "customPaperSize" (capabilities.customPaperSize.map .bool) ++
    [("cut", .bool capabilities.cut)] ++
    optionalMember "documentFormats"
      (capabilities.documentFormats.map fun formats =>
        .array (formats.map fun format => .string format.name)) ++
    optionalMember "escPos" (capabilities.escPos.map .bool) ++
    [("mediaWidths",
      .array (capabilities.mediaWidths.map fun width => .number width.millimetres))] ++
    optionalMember "paperSizes"
      (capabilities.paperSizes.map fun sizes => .array (sizes.map fun size => .string size.name)) ++
    optionalMember "printOptions"
      (capabilities.printOptions.map PrintOptionsCapability.toValue) ++
    [("qr", .bool capabilities.qr), ("raster", .bool capabilities.raster)] ++
    optionalMember "systemDriver" (capabilities.systemDriver.map .bool))

end PrinterCapabilities

/-- A physical or virtual printer exposed by one agent. -/
structure PrinterDescriptor where
  id : String
  fingerprint : String
  name : String
  kind : PrinterKind
  connection : PrinterConnection
  capabilities : Option PrinterCapabilities
  enabled : Bool
  availability : PrinterAvailability
  deriving DecidableEq, Repr

namespace PrinterDescriptor

variable (printer : PrinterDescriptor)

/-- Whether the connection is one of the printer's kind. -/
def kindMatchesConnection : Bool :=
  match printer.kind, printer.connection with
  | .local, .system _ => true
  | .network, .tcp _ _ => true
  | .virtual, .virtual => true
  | _, _ => false

/-- `PrinterDescriptor::validate`. -/
def validate : Validity := do
  validateIdentifier printer.id "id" 128
  validateString printer.fingerprint "fingerprint" 1 256
  validateString printer.name "name" 1 256
  printer.connection.validate.within "connection"
  validateOptional (fun capabilities => capabilities.validate.within "capabilities")
    printer.capabilities
  if printer.kindMatchesConnection then .ok ()
  else refuse "connection" "must match the printer kind"

/-- Whether the descriptor carries a capability introduced by the extended protocol. -/
def usesExtendedProtocol : Bool :=
  printer.capabilities.any PrinterCapabilities.usesExtendedProtocol

/-- The descriptor as a peer of the base protocol may see it. -/
def withoutExtendedCapabilities : PrinterDescriptor :=
  { printer with
    capabilities := printer.capabilities.map fun capabilities =>
      { capabilities with
        documentFormats := none
        paperSizes := none
        customPaperSize := none
        printOptions := none } }

@[simp] lemma usesExtendedProtocol_withoutExtendedCapabilities :
    printer.withoutExtendedCapabilities.usesExtendedProtocol = false := by
  cases h : printer.capabilities <;>
    simp [withoutExtendedCapabilities, usesExtendedProtocol, h,
      PrinterCapabilities.usesExtendedProtocol]

/-- The serialized descriptor. -/
def toValue : Value :=
  .object ([("availability", .string printer.availability.name)] ++
    optionalMember "capabilities" (printer.capabilities.map PrinterCapabilities.toValue) ++
    [("connection", printer.connection.toValue), ("enabled", .bool printer.enabled),
      ("fingerprint", .string printer.fingerprint), ("id", .string printer.id),
      ("kind", .string printer.kind.name), ("name", .string printer.name)])

end PrinterDescriptor

end Oppa.Protocol
