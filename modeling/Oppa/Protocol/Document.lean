import Oppa.Foundation.Json
import Oppa.Protocol.Validation

/-!
# Print documents and print jobs

What a server asks to have printed: a structured receipt or a reference to a PDF.

* `PrintSection`, `PrintDocument` — the primitives of a receipt.
* `PdfSource`, `PrintSettings`, `PdfDocument` — where a PDF is fetched and how it is printed.
* `JobDocument`, `PrintJob` — the content of a job and the delivery request around it.

Each type has its check (`validate`) and the JSON value it is serialized as (`toValue`); members
stand in key order, as the maps of the serializer keep them.
-/

namespace Oppa.Protocol

open Json Text

/-- Maximum number of sections in a structured document. -/
def maxDocumentSections : ℕ := 256

/-- Maximum base64 text of one image. -/
def maxImageBase64Length : ℕ := 1398104

/-- Maximum bytes of a PDF a job may refer to. -/
def maxPdfDocumentBytes : ℕ := 20 * 1024 * 1024

/-- Maximum UTF-8 length of a PDF retrieval URL. -/
def maxPdfUrlBytes : ℕ := 2048

/-! ## Receipts -/

/-- Supported receipt media width in millimetres. -/
inductive ReceiptWidth
  | mm58
  | mm80
  deriving DecidableEq, Repr

/-- `ReceiptWidth::millimetres`. -/
def ReceiptWidth.millimetres : ReceiptWidth → ℕ
  | .mm58 => 58
  | .mm80 => 80

/-- Horizontal alignment for a text primitive. -/
inductive TextAlignment
  | left
  | center
  | right
  deriving DecidableEq, Repr

/-- The serialized name of an alignment. -/
def TextAlignment.name : TextAlignment → String
  | .left => "left"
  | .center => "center"
  | .right => "right"

/-- Supported encoded raster image media type. -/
inductive ImageMediaType
  | png
  | jpeg
  deriving DecidableEq, Repr

/-- The serialized name of a media type. -/
def ImageMediaType.name : ImageMediaType → String
  | .png => "image/png"
  | .jpeg => "image/jpeg"

/-- Supported linear barcode symbology. -/
inductive BarcodeFormat
  | code128
  | code39
  | ean13
  | upca
  deriving DecidableEq, Repr

/-- The serialized name of a symbology. -/
def BarcodeFormat.name : BarcodeFormat → String
  | .code128 => "code128"
  | .code39 => "code39"
  | .ean13 => "ean13"
  | .upca => "upca"

/-- Printer-independent structured document primitive. -/
inductive PrintSection
  | text (value : String) (align : Option TextAlignment) (bold : Option Bool)
  | row (left right : String)
  | divider
  | image (mediaType : ImageMediaType) (data : String)
  | qr (value : String)
  | barcode (format : BarcodeFormat) (value : String)
  | feed (lines : UInt8)
  | cut
  deriving DecidableEq, Repr

namespace PrintSection

/-- `PrintSection::validate`. -/
def validate : PrintSection → Validity
  | text value _ _ => validateString value "value" 0 16384
  | row left right => do
      validateString left "left" 0 4096
      validateString right "right" 0 4096
  | divider | cut => .ok ()
  | image _ data => do
      validateString data "data" 4 maxImageBase64Length
      validateBase64 data "data"
  | qr value => validateString value "value" 1 4096
  | barcode _ value => do
      validateString value "value" 1 256
      if (utf8Bytes value).all (fun byte => 32 ≤ byte && byte ≤ 126) then .ok ()
      else refuse "value" "must contain printable ASCII only"
  | feed lines => if lines = 0 then refuse "lines" "must be between 1 and 255" else .ok ()

/-- The serialized section, tagged with its type. -/
def toValue : PrintSection → Value
  | text value align bold =>
      .object (optionalMember "align" (align.map fun a => .string a.name) ++
        optionalMember "bold" (bold.map .bool) ++
        [("type", .string "text"), ("value", .string value)])
  | row left right =>
      .object [("left", .string left), ("right", .string right), ("type", .string "row")]
  | divider => .object [("type", .string "divider")]
  | image mediaType data =>
      .object [("data", .string data), ("mediaType", .string mediaType.name),
        ("type", .string "image")]
  | qr value => .object [("type", .string "qr"), ("value", .string value)]
  | barcode format value =>
      .object [("format", .string format.name), ("type", .string "barcode"),
        ("value", .string value)]
  | feed lines => .object [("lines", .number lines.toNat), ("type", .string "feed")]
  | cut => .object [("type", .string "cut")]

end PrintSection

/-- Printer-independent structured receipt content. -/
structure PrintDocument where
  width : ReceiptWidth
  sections : List PrintSection
  deriving DecidableEq, Repr

namespace PrintDocument

variable (document : PrintDocument)

/-- `PrintDocument::validate`. -/
def validate : Validity :=
  if document.sections.isEmpty || maxDocumentSections < document.sections.length then
    refuse "sections"
      ("must contain between 1 and " ++ toString maxDocumentSections ++ " sections")
  else
    validateEach (fun index item => item.validate.within ("sections." ++ toString index)) 0
      document.sections

/-- The serialized receipt. -/
def toValue : Value :=
  .object [("sections", .array (document.sections.map PrintSection.toValue)),
    ("width", .number document.width.millimetres)]

end PrintDocument

/-! ## PDF documents -/

/-- The text before the first `separator` and the text after it, if there is one:
`str::split_once`. -/
def splitOnce (separator : Char) (cs : List Char) : Option (List Char × List Char) :=
  match cs.dropWhile (· ≠ separator) with
  | [] => none
  | _ :: rest => some (cs.takeWhile (· ≠ separator), rest)

/-- `validate_document_url`. -/
def validateDocumentUrl (value path : String) : Validity :=
  if maxPdfUrlBytes < value.utf8ByteSize then
    refuse path ("must contain at most " ++ toString maxPdfUrlBytes ++ " bytes")
  else do
    let rest ←
      match value.toList.dropPrefix? "https://".toList with
      | some rest => .ok rest
      | none =>
        match value.toList.dropPrefix? "http://".toList with
        | some rest =>
          let host := (rest.takeWhile (· ≠ '/')).takeWhile (· ≠ ':')
          if host ≠ "localhost".toList ∧ host ≠ "127.0.0.1".toList then
            .error
              { path := path, message := "plain HTTP is allowed only for loopback hosts" }
          else .ok rest
        | none => .error { path := path, message := "must be an absolute HTTPS URL" }
    let authority := rest.takeWhile fun c => c ≠ '/' && c ≠ '?'
    let (host, port) :=
      match splitOnce ':' authority with
      | some (host, port) => (host, some port)
      | none => (authority, none)
    let hostValid := !host.isEmpty && host.all fun c => isAsciiAlphanumeric c || c = '-' || c = '.'
    let portValid := port.all fun port =>
      !port.isEmpty && (String.ofList port).utf8ByteSize ≤ 5 && port.all Char.isDigit
    if !hostValid || !portValid then
      refuse path "must contain a plain host name or IPv4 address without credentials"
    else if (utf8Bytes value).any (fun byte => byte ≤ 32 || byte = 127 || byte = 35) then
      refuse path "must not contain whitespace, control characters, or a fragment"
    else validateString value path 1 maxPdfUrlBytes

/-- Where the agent retrieves a PDF from, with integrity metadata. -/
inductive PdfSource
  | url (url sha256 : String) (byteLength : UInt64)
  deriving DecidableEq, Repr

namespace PdfSource

/-- `PdfSource::validate`. -/
def validate : PdfSource → Validity
  | url address sha256 byteLength => do
      validateDocumentUrl address "url"
      validateSha256 sha256 "sha256"
      if byteLength = 0 || maxPdfDocumentBytes < byteLength.toNat then
        refuse "byteLength" ("must be between 1 and " ++ toString maxPdfDocumentBytes ++ " bytes")

/-- The serialized reference, tagged with its type. -/
def toValue : PdfSource → Value
  | url address sha256 byteLength =>
      .object [("byteLength", .number byteLength.toNat), ("sha256", .string sha256),
        ("type", .string "url"), ("url", .string address)]

end PdfSource

/-- Standard paper names with reliable meaning in every backend. -/
inductive StandardPaperSize
  | a4
  | a5
  | letter
  | legal
  deriving DecidableEq, Repr

/-- The serialized name of a paper size. -/
def StandardPaperSize.name : StandardPaperSize → String
  | .a4 => "a4"
  | .a5 => "a5"
  | .letter => "letter"
  | .legal => "legal"

/-- Custom media dimensions in millimetres. -/
structure CustomPaperSize where
  widthMm : UInt16
  heightMm : UInt16
  deriving DecidableEq, Repr

/-- Requested paper size: a standard name or explicit millimetre dimensions. -/
inductive PaperSize
  | standard (size : StandardPaperSize)
  | custom (size : CustomPaperSize)
  deriving DecidableEq, Repr

/-- Minimum custom paper dimension in millimetres. -/
def minCustomPaperMm : ℕ := 10

/-- Maximum custom paper dimension in millimetres. -/
def maxCustomPaperMm : ℕ := 1000

/-- `validate_custom_mm`. -/
def validateCustomMm (value : UInt16) (path : String) : Validity :=
  if minCustomPaperMm ≤ value.toNat && value.toNat ≤ maxCustomPaperMm then .ok ()
  else
    refuse path ("must be between " ++ toString minCustomPaperMm ++ " and " ++
      toString maxCustomPaperMm ++ " millimetres")

namespace PaperSize

/-- `PaperSize::validate`. -/
def validate : PaperSize → Validity
  | standard _ => .ok ()
  | custom size => do
      validateCustomMm size.widthMm "widthMm"
      validateCustomMm size.heightMm "heightMm"

/-- The serialized size: untagged. -/
def toValue : PaperSize → Value
  | standard size => .string size.name
  | custom size =>
      .object [("heightMm", .number size.heightMm.toNat), ("widthMm", .number size.widthMm.toNat)]

end PaperSize

/-- Page orientation applied before physical placement. -/
inductive Orientation
  | portrait
  | landscape
  deriving DecidableEq, Repr

/-- The serialized name of an orientation. -/
def Orientation.name : Orientation → String
  | .portrait => "portrait"
  | .landscape => "landscape"

/-- How a page is scaled to the selected paper. -/
inductive Scaling
  | fit
  | actual
  | percent (value : UInt16)
  deriving DecidableEq, Repr

/-- Minimum explicit scale percentage. -/
def minScalePercent : ℕ := 10

/-- Maximum explicit scale percentage. -/
def maxScalePercent : ℕ := 400

namespace Scaling

/-- `Scaling::validate`. -/
def validate : Scaling → Validity
  | fit | actual => .ok ()
  | percent value =>
      if minScalePercent ≤ value.toNat && value.toNat ≤ maxScalePercent then .ok ()
      else
        refuse "percent" ("must be between " ++ toString minScalePercent ++ " and " ++
          toString maxScalePercent ++ " percent")

/-- The serialized scaling mode. -/
def toValue : Scaling → Value
  | fit => .string "fit"
  | actual => .string "actual"
  | percent value => .object [("percent", .number value.toNat)]

end Scaling

/-- Requested duplex mode. -/
inductive Duplex
  | simplex
  | longEdge
  | shortEdge
  deriving DecidableEq, Repr

/-- The serialized name of a duplex mode. -/
def Duplex.name : Duplex → String
  | .simplex => "simplex"
  | .longEdge => "long-edge"
  | .shortEdge => "short-edge"

/-- Minimum copies accepted for one job. -/
def minCopies : ℕ := 1

/-- Maximum copies accepted for one job. -/
def maxCopies : ℕ := 99

/-- Maximum UTF-8 length of a page-range expression. -/
def maxPageRangeBytes : ℕ := 256

/-- `parse_page_number`. -/
def parsePageNumber (value : List Char) : Except ValidationError ℕ :=
  if value.isEmpty || 5 < (String.ofList value).utf8ByteSize || !value.all Char.isDigit then
    .error
      { path := "pageRanges"
        message := "must contain comma-separated page numbers or ascending dash ranges" }
  else
    let number := value.foldl (fun n c => 10 * n + (c.toNat - 48)) 0
    if number = 0 then
      .error { path := "pageRanges", message := "page numbers start at 1" }
    else .ok number

/-- One comma-separated part of a page-range expression. -/
def validatePageRange (part : List Char) : Validity := do
  let (start, stop) := (splitOnce '-' part).getD (part, part)
  let start ← parsePageNumber start
  let stop ← parsePageNumber stop
  if stop < start then
    refuse "pageRanges" "ranges must ascend from the first page to the last page"

/-- `validate_page_ranges`. -/
def validatePageRanges (value : String) : Validity :=
  if value.isEmpty || maxPageRangeBytes < value.utf8ByteSize then
    refuse "pageRanges"
      ("must contain between 1 and " ++ toString maxPageRangeBytes ++ " bytes")
  else validateEach (fun _ part => validatePageRange part) 0 (value.toList.splitOn ',')

/-- Print settings for a document; every omitted field uses its documented default. -/
structure PrintSettings where
  copies : Option UInt16
  paper : Option PaperSize
  orientation : Option Orientation
  scaling : Option Scaling
  pageRanges : Option String
  duplex : Option Duplex
  deriving DecidableEq, Repr

/-- Checks a field that may be absent. -/
def validateOptional {α : Type} (check : α → Validity) : Option α → Validity
  | some value => check value
  | none => .ok ()

namespace PrintSettings

variable (settings : PrintSettings)

/-- `PrintSettings::validate`. -/
def validate : Validity := do
  validateOptional (fun copies : UInt16 =>
    if minCopies ≤ copies.toNat && copies.toNat ≤ maxCopies then .ok ()
    else
      refuse "copies"
        ("must be between " ++ toString minCopies ++ " and " ++ toString maxCopies))
    settings.copies
  validateOptional (fun paper => paper.validate.within "paper") settings.paper
  validateOptional (fun scaling => scaling.validate.within "scaling") settings.scaling
  validateOptional validatePageRanges settings.pageRanges

/-- The serialized settings. -/
def toValue : Value :=
  .object (optionalMember "copies" (settings.copies.map fun n => .number n.toNat) ++
    optionalMember "duplex" (settings.duplex.map fun d => .string d.name) ++
    optionalMember "orientation" (settings.orientation.map fun o => .string o.name) ++
    optionalMember "pageRanges" (settings.pageRanges.map .string) ++
    optionalMember "paper" (settings.paper.map PaperSize.toValue) ++
    optionalMember "scaling" (settings.scaling.map Scaling.toValue))

end PrintSettings

/-- A PDF document reference plus print settings; its `format` can only be `pdf`. -/
structure PdfDocument where
  source : PdfSource
  settings : Option PrintSettings
  deriving DecidableEq, Repr

namespace PdfDocument

variable (document : PdfDocument)

/-- `PdfDocument::validate`. -/
def validate : Validity := do
  document.source.validate.within "source"
  validateOptional (fun settings => settings.validate.within "settings") document.settings

/-- The serialized reference. -/
def toValue : Value :=
  .object ([("format", .string "pdf")] ++
    optionalMember "settings" (document.settings.map PrintSettings.toValue) ++
    [("source", document.source.toValue)])

end PdfDocument

/-! ## Jobs -/

/-- Document content carried by a print job. -/
inductive JobDocument
  | receipt (document : PrintDocument)
  | pdf (document : PdfDocument)
  deriving DecidableEq, Repr

namespace JobDocument

/-- Whether this document needs the extended protocol. -/
def isPdf : JobDocument → Bool
  | receipt _ => false
  | pdf _ => true

/-- `JobDocument::validate`. -/
def validate : JobDocument → Validity
  | receipt document => document.validate
  | pdf document => document.validate

/-- The serialized document: untagged. -/
def toValue : JobDocument → Value
  | receipt document => document.toValue
  | pdf document => document.toValue

end JobDocument

/-- A concrete, idempotent delivery request for one printer. -/
structure PrintJob where
  jobId : String
  idempotencyKey : String
  printerId : String
  createdAt : String
  document : JobDocument
  metadata : Option Metadata
  deriving DecidableEq, Repr

namespace PrintJob

variable (job : PrintJob)

/-- `PrintJob::validate`. -/
def validate : Validity := do
  validateIdentifier job.jobId "jobId" 128
  validateString job.idempotencyKey "idempotencyKey" 1 256
  validateIdentifier job.printerId "printerId" 128
  validateTimestamp job.createdAt "createdAt"
  job.document.validate.within "document"
  validateOptional (validateMetadata · "metadata") job.metadata

/-- The serialized job. -/
def toValue : Value :=
  .object ([("createdAt", .string job.createdAt), ("document", job.document.toValue),
      ("idempotencyKey", .string job.idempotencyKey), ("jobId", .string job.jobId)] ++
    optionalMember "metadata"
      (job.metadata.map fun entries => .object (entries.map fun e => (e.1, .string e.2))) ++
    [("printerId", .string job.printerId)])

end PrintJob

end Oppa.Protocol
