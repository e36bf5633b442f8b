import Oppa.Renderer.Layout

/-!
# The ESC/POS encoder

The common layout as a stream of printer commands.

* `renderElement`, `renderLayout` — the bytes of one drawing operation, and of a receipt.
* `printedLines` — the lines of text an operation prints; `Emits` cuts its bytes into the commands
  before the text, the text, and the commands after it: **`renderElement_emits`**.
* `commandSize` — how many bytes a device takes for a command; `isCommand_of_mem_commands` says
  that the encoder emits whole commands.
-/

namespace Oppa.Renderer

open Protocol Bytes Result Text

/-- The byte that begins one family of commands. -/
abbrev esc : UInt8 := 0x1b

/-- The byte that begins the other family of commands. -/
abbrev gs : UInt8 := 0x1d

/-- The byte that ends a line. -/
abbrev lineFeed : UInt8 := 0x0a

variable (lib : Libraries)

/-! ## The encoder -/

/-- The low byte of a length. -/
def lowByte (n : ℕ) : UInt8 := UInt8.ofNat (n % 256)

/-- The high byte of a length. -/
def highByte (n : ℕ) : UInt8 := UInt8.ofNat (n / 256 % 256)

/-- Lines of text as bytes. -/
def lineBytes (lines : List (List Char)) : List UInt8 :=
  lines.flatMap fun line => encode line ++ [lineFeed]

/-- `render_qr`: model 2, module size 6, medium error correction, store, print. -/
def renderQr (value : String) : List UInt8 :=
  let data := encode value.toList
  [gs, 0x28, 0x6b, 4, 0, 49, 65, 50, 0] ++ [gs, 0x28, 0x6b, 3, 0, 49, 67, 6] ++
    [gs, 0x28, 0x6b, 3, 0, 49, 69, 49] ++
    ([gs, 0x28, 0x6b, lowByte (data.length + 3), highByte (data.length + 3), 49, 80, 48] ++ data) ++
    [gs, 0x28, 0x6b, 3, 0, 49, 81, 48]

/-- The characters of Code 39. -/
def isCode39Byte (byte : UInt8) : Bool :=
  (65 ≤ byte && byte ≤ 90) || (48 ≤ byte && byte ≤ 57) || byte == 32 || byte == 45 ||
    byte == 46 || byte == 36 || byte == 47 || byte == 43 || byte == 37

/-- The command and the payload of a symbology. -/
def barcodePayload (format : BarcodeFormat) (value : String) :
    Except RendererError (UInt8 × List UInt8) :=
  let data := encode value.toList
  match format with
  | .code128 =>
    if !value.toList.all isAscii || 253 < data.length then
      .error (.invalidBarcode format "Code 128 must be at most 253 ASCII bytes")
    else .ok (73, [0x7b, 0x42] ++ data)
  | .code39 =>
    if !data.all isCode39Byte then
      .error (.invalidBarcode format "Code 39 contains unsupported characters")
    else .ok (69, data)
  | .ean13 =>
    if !(data.length = 12 || data.length = 13) || !data.all (fun b => 48 ≤ b && b ≤ 57) then
      .error (.invalidBarcode format "EAN-13 requires 12 or 13 digits")
    else .ok (67, data)
  | .upca =>
    if !(data.length = 11 || data.length = 12) || !data.all (fun b => 48 ≤ b && b ≤ 57) then
      .error (.invalidBarcode format "UPC-A requires 11 or 12 digits")
    else .ok (65, data)

/-- `render_barcode`. -/
def renderBarcode (format : BarcodeFormat) (value : String) :
    Except RendererError (List UInt8) := do
  let (command, payload) ← barcodePayload format value
  if 255 < payload.length then
    .error (.invalidBarcode format "barcode payload is too long")
  else
    return [gs, 0x48, 2, gs, 0x68, 80, gs, 0x6b, command, UInt8.ofNat payload.length] ++ payload

/-- The bytes of one drawing operation. -/
def renderElement (columns : ℕ) : ReceiptElement → Except RendererError (List UInt8)
  | .text value alignment bold => do
      requireAscii value
      return [esc, 0x61, alignmentCode alignment, esc, 0x45, if bold then 1 else 0] ++
        lineBytes (wrapText lib value.toList columns) ++ [esc, 0x45, 0]
  | .row left right => do
      requireAscii left
      requireAscii right
      return [esc, 0x61, 0] ++ lineBytes (layoutRow lib left.toList right.toList columns)
  | .divider => .ok (List.replicate columns 0x2d ++ [lineFeed])
  | .image image =>
      .ok ([gs, 0x76, 0x30, 0, lowByte image.stride, highByte image.stride, lowByte image.height,
        highByte image.height] ++ image.data)
  | .qr value => .ok (renderQr value)
  | .barcode format value heightDots humanReadable => do
      let bytes ← renderBarcode format value
      return (bytes.set 2 (if humanReadable then 2 else 0)).set 5 heightDots
  | .feed lines => .ok [esc, 0x64, lines]
  | .cut => .ok [gs, 0x56, 0]

/-- `render_layout`. -/
def renderLayout (layout : PrintLayout) : Except RendererError (List UInt8) := do
  let parts ← layout.elements.mapM (renderElement lib (columns layout.width))
  return [esc, 0x40] ++ parts.flatten

/-- `DocumentRenderer::render` for an ESC/POS printer. -/
def renderEscPos (maxOutputBytes : ℕ) (document : PrintDocument) :
    Except RendererError (List UInt8) := do
  document.validate.mapError fun error => RendererError.invalidDocument error.display
  let layout ← PrintLayout.fromDocument lib document
  let bytes ← renderLayout lib layout
  if maxOutputBytes < bytes.length then .error (.outputTooLarge bytes.length maxOutputBytes)
  else return bytes

/-! ## What is rendered -/

variable {lib}

/-- A document that is rendered is valid, and its layout is encoded. -/
lemma renderEscPos_eq_ok {maxOutputBytes : ℕ} {document : PrintDocument} {bytes : List UInt8}
    (hrender : renderEscPos lib maxOutputBytes document = .ok bytes) :
    document.validate = .ok () ∧ ∃ layout, PrintLayout.fromDocument lib document = .ok layout ∧
      renderLayout lib layout = .ok bytes := by
  simp only [renderEscPos, bind_eq_ok, mapError_eq_ok] at hrender
  rcases hrender with ⟨_, hvalid, layout, hlayout, output, houtput, hfits⟩
  split at hfits
  · cases hfits
  · cases hfits
    exact ⟨hvalid, layout, hlayout, houtput⟩

/-- The layout of a document has one operation for each section. -/
lemma fromDocument_eq_ok {document : PrintDocument} {layout : PrintLayout} :
    PrintLayout.fromDocument lib document = .ok layout ↔
      document.validate = .ok () ∧ layout.width = document.width ∧
        List.Forall₂ (fun item element =>
          ReceiptElement.fromSection lib document.width item = .ok element)
          document.sections layout.elements := by
  simp only [PrintLayout.fromDocument, bind_eq_ok, mapError_eq_ok, mapM_eq_ok, pure_eq_ok]
  constructor
  · rintro ⟨_, hvalid, elements, helements, rfl⟩
    exact ⟨hvalid, rfl, helements⟩
  · rintro ⟨hvalid, hwidth, helements⟩
    exact ⟨(), hvalid, layout.elements, helements, by rw [← hwidth]⟩

lemma bounded_of_fromDocument {document : PrintDocument} {layout : PrintLayout}
    (hlayout : PrintLayout.fromDocument lib document = .ok layout) :
    ∀ element ∈ layout.elements, element.Bounded := by
  rcases fromDocument_eq_ok.mp hlayout with ⟨hvalid, -, helements⟩
  intro element hmem
  rcases exists_of_forall₂ helements hmem with ⟨item, hitem, hsection⟩
  rw [PrintDocument.validate] at hvalid
  split at hvalid
  · simp at hvalid
  · rcases valid_of_mem hvalid hitem with ⟨index, hindex⟩
    exact bounded_fromSection (within_eq_ok.mp hindex) hsection

/-! ## What a device reads -/

/-- How many bytes a device takes for the command that a stream begins with: the commands the
encoder emits, and two bytes for any other. -/
def commandSize : List UInt8 → Option ℕ
  | first :: second :: operands =>
    if first = esc then
      if second = 0x61 ∨ second = 0x45 ∨ second = 0x64 then some 3 else some 2
    else if first = gs then
      if second = 0x48 ∨ second = 0x68 ∨ second = 0x56 then some 3
      else if second = 0x76 then
        match operands with
        | _ :: _ :: xLow :: xHigh :: yLow :: yHigh :: _ =>
            some (8 + (xLow.toNat + 256 * xHigh.toNat) * (yLow.toNat + 256 * yHigh.toNat))
        | _ => some 2
      else if second = 0x28 then
        match operands with
        | _ :: low :: high :: _ => some (5 + (low.toNat + 256 * high.toNat))
        | _ => some 2
      else if second = 0x6b then
        match operands with
        | _ :: length :: _ => some (4 + length.toNat)
        | _ => some 2
      else some 2
    else none
  | [first] => if first = esc ∨ first = gs then some 1 else none
  | [] => none

/-- The lines of text that an operation prints. -/
def ReceiptElement.printedLines (lib : Libraries) (columns : ℕ) :
    ReceiptElement → List (List Char)
  | .text value _ _ => wrapText lib value.toList columns
  | .row left right => layoutRow lib left.toList right.toList columns
  | _ => []

/-- The commands the sections prescribe, each with its operands, before their text. -/
def ReceiptElement.commandsBefore : ReceiptElement → List (List UInt8)
  | .text _ alignment bold =>
      [[esc, 0x61, alignmentCode alignment], [esc, 0x45, if bold then 1 else 0]]
  | .row _ _ => [[esc, 0x61, 0]]
  | .divider => []
  | .image raster =>
      [[gs, 0x76, 0x30, 0, lowByte raster.stride, highByte raster.stride, lowByte raster.height,
        highByte raster.height] ++ raster.data]
  | .qr value =>
      let data := encode value.toList
      [[gs, 0x28, 0x6b, 4, 0, 49, 65, 50, 0], [gs, 0x28, 0x6b, 3, 0, 49, 67, 6],
        [gs, 0x28, 0x6b, 3, 0, 49, 69, 49],
        [gs, 0x28, 0x6b, lowByte (data.length + 3), highByte (data.length + 3), 49, 80, 48] ++ data,
        [gs, 0x28, 0x6b, 3, 0, 49, 81, 48]]
  | .barcode format value heightDots humanReadable =>
      match barcodePayload format value with
      | .ok (command, payload) =>
          [[gs, 0x48, if humanReadable then 2 else 0], [gs, 0x68, heightDots],
            [gs, 0x6b, command, UInt8.ofNat payload.length] ++ payload]
      | .error _ => []
  | .feed lines => [[esc, 0x64, lines]]
  | .cut => [[gs, 0x56, 0]]

/-- The commands after the text. -/
def ReceiptElement.commandsAfter : ReceiptElement → List (List UInt8)
  | .text _ _ _ => [[esc, 0x45, 0]]
  | _ => []

/-- The bytes of the printed text: the lines of an operation, or the dashes of a divider. -/
def ReceiptElement.printedBytes (lib : Libraries) (columns : ℕ) : ReceiptElement → List UInt8
  | .divider => List.replicate columns 0x2d ++ [lineFeed]
  | element => lineBytes (element.printedLines lib columns)

/-- **The commands prescribed by the sections of a receipt.** -/
def PrintLayout.commands (layout : PrintLayout) : List (List UInt8) :=
  [esc, 0x40] :: layout.elements.flatMap fun element =>
    element.commandsBefore ++ element.commandsAfter

/-- **The bytes of an operation** are its commands and its text. -/
theorem renderElement_emits {columns : ℕ} {element : ReceiptElement} {bytes : List UInt8}
    (hrender : renderElement lib columns element = .ok bytes) :
    bytes = element.commandsBefore.flatten ++ element.printedBytes lib columns ++
      element.commandsAfter.flatten := by
  cases element with
  | text value alignment bold =>
      simp only [renderElement, bind_eq_ok, pure_eq_ok] at hrender
      rcases hrender with ⟨_, -, rfl⟩
      simp [ReceiptElement.commandsBefore, ReceiptElement.commandsAfter,
        ReceiptElement.printedBytes, ReceiptElement.printedLines]
  | row left right =>
      simp only [renderElement, bind_eq_ok, pure_eq_ok] at hrender
      rcases hrender with ⟨_, -, _, -, rfl⟩
      simp [ReceiptElement.commandsBefore, ReceiptElement.commandsAfter,
        ReceiptElement.printedBytes, ReceiptElement.printedLines]
  | barcode format value heightDots humanReadable =>
      simp only [renderElement, renderBarcode, bind_eq_ok, pure_eq_ok] at hrender
      rcases hrender with ⟨output, ⟨⟨command, payload⟩, hpayload, houtput⟩, rfl⟩
      split at houtput
      · cases houtput
      · cases houtput
        simp [ReceiptElement.commandsBefore, ReceiptElement.commandsAfter,
          ReceiptElement.printedBytes, ReceiptElement.printedLines, hpayload, lineBytes]
  | _ =>
      cases hrender
      simp [ReceiptElement.commandsBefore, ReceiptElement.commandsAfter,
        ReceiptElement.printedBytes, ReceiptElement.printedLines, lineBytes, renderQr]

/-! ## The encoder emits whole commands -/

@[simp] lemma gs_ne_esc : gs ≠ esc := by decide

example : commandSize [esc, 0x40] = some 2 := by simp [commandSize]

lemma toNat_lowByte_highByte {n : ℕ} (hlt : n < 65536) :
    (lowByte n).toNat + 256 * (highByte n).toNat = n := by
  simp only [lowByte, highByte, UInt8.toNat_ofNat']
  omega

/-- A byte that begins no command is text. -/
lemma commandSize_text {b : UInt8} (hesc : b ≠ esc) (hgs : b ≠ gs) (after : List UInt8) :
    commandSize (b :: after) = none := by
  cases after <;> simp [commandSize, hesc, hgs]

lemma isCommand_reset : IsCommand commandSize [esc, 0x40] := ⟨by simp, fun _ => rfl⟩

lemma isCommand_three {second operand : UInt8}
    (hsecond : second = 0x61 ∨ second = 0x45 ∨ second = 0x64) :
    IsCommand commandSize [esc, second, operand] :=
  ⟨by simp, fun _ => by simp [commandSize, hsecond]⟩

lemma isCommand_group_three {second operand : UInt8}
    (hsecond : second = 0x48 ∨ second = 0x68 ∨ second = 0x56) :
    IsCommand commandSize [gs, second, operand] :=
  ⟨by simp, fun _ => by simp [commandSize, hsecond]⟩

lemma isCommand_image {raster : ReceiptImage} (hpacked : raster.Packed) :
    IsCommand commandSize ([gs, 0x76, 0x30, 0, lowByte raster.stride, highByte raster.stride,
      lowByte raster.height, highByte raster.height] ++ raster.data) := by
  refine ⟨by simp, fun after => ?_⟩
  have hstride : raster.stride < 65536 := by
    have hwidth := hpacked.width_le
    rw [hpacked.stride]
    simp only [maxImageDimension] at hwidth
    omega
  have hheight : raster.height < 65536 := hpacked.height_le.trans_lt (by decide)
  simp only [List.cons_append, List.nil_append, commandSize]
  rw [toNat_lowByte_highByte hstride, toNat_lowByte_highByte hheight, ← hpacked.length]
  simp
  omega

/-- A function of the QR symbol, with its length. -/
lemma isCommand_symbol {low high : UInt8} (parameters : List UInt8)
    (hlength : parameters.length = low.toNat + 256 * high.toNat) :
    IsCommand commandSize ([gs, 0x28, 0x6b, low, high] ++ parameters) := by
  refine ⟨by simp, fun after => ?_⟩
  simp [commandSize, hlength]
  omega

lemma isCommand_barcode {command : UInt8} {payload : List UInt8} (hlength : payload.length ≤ 255) :
    IsCommand commandSize ([gs, 0x6b, command, UInt8.ofNat payload.length] ++ payload) := by
  refine ⟨by simp, fun after => ?_⟩
  have hsmall : (UInt8.ofNat payload.length).toNat = payload.length := by
    simp only [UInt8.toNat_ofNat']
    omega
  simp [commandSize, hsmall]
  omega

/-- The UTF-8 bytes of a text that the protocol bounds by UTF-16 code units. -/
lemma length_encode_le {value : String} {bound : ℕ} (hlength : utf16Length value ≤ bound) :
    (encode value.toList).length ≤ 3 * bound := by
  have hbytes := utf8ByteSize_le_utf16Length value
  rw [length_encode, ← utf8ByteSize_eq_sum]
  omega

/-- **The commands of an operation are whole commands.** -/
theorem isCommand_of_mem_commands {columns : ℕ} {element : ReceiptElement} {bytes : List UInt8}
    (hbounded : element.Bounded) (hrender : renderElement lib columns element = .ok bytes) :
    ∀ command ∈ element.commandsBefore ++ element.commandsAfter,
      IsCommand commandSize command := by
  intro command hmem
  cases element with
  | text value alignment bold =>
      simp only [ReceiptElement.commandsBefore, ReceiptElement.commandsAfter, List.cons_append,
        List.nil_append, List.mem_cons, List.not_mem_nil, or_false] at hmem
      rcases hmem with rfl | rfl | rfl <;> exact isCommand_three (by simp)
  | row left right =>
      rw [List.mem_singleton.mp hmem]
      exact isCommand_three (by simp)
  | divider => cases hmem
  | image raster =>
      rw [List.mem_singleton.mp hmem]
      exact isCommand_image hbounded
  | qr value =>
      have hlength := length_encode_le hbounded
      simp only [ReceiptElement.commandsBefore, ReceiptElement.commandsAfter, List.append_nil,
        List.mem_cons, List.not_mem_nil, or_false] at hmem
      rcases hmem with rfl | rfl | rfl | rfl | rfl
      · exact isCommand_symbol [49, 65, 50, 0] rfl
      · exact isCommand_symbol [49, 67, 6] rfl
      · exact isCommand_symbol [49, 69, 49] rfl
      · refine isCommand_symbol ([49, 80, 48] ++ encode value.toList) ?_
        rw [toNat_lowByte_highByte (by omega), List.length_append, add_comm]
        rfl
      · exact isCommand_symbol [49, 81, 48] rfl
  | barcode format value heightDots humanReadable =>
      simp only [renderElement, renderBarcode, bind_eq_ok] at hrender
      rcases hrender with ⟨_, ⟨⟨symbology, payload⟩, hpayload, hlength⟩, -⟩
      split at hlength
      · cases hlength
      · rename_i hsmall
        simp only [ReceiptElement.commandsBefore, hpayload, ReceiptElement.commandsAfter,
          List.append_nil, List.mem_cons, List.not_mem_nil, or_false] at hmem
        rcases hmem with rfl | rfl | rfl
        · exact isCommand_group_three (by simp)
        · exact isCommand_group_three (by simp)
        · exact isCommand_barcode (not_lt.mp hsmall)
  | feed lines =>
      rw [List.mem_singleton.mp hmem]
      exact isCommand_three (by simp)
  | cut =>
      rw [List.mem_singleton.mp hmem]
      exact isCommand_group_three (by simp)

namespace Sample

/-- Crates that know nothing but ASCII text. -/
def libraries : Libraries where
  width := List.length
  graphemes := List.map fun c => [c]
  base64 := fun _ => .error "invalid"
  Image := ℕ × ℕ
  decode := fun _ _ => .error .dimensions
  imageWidth := Prod.fst
  imageHeight := Prod.snd
  resizeExact := fun _ width height => (width, height)
  luma := fun _ _ _ => 255
  graphemes_flatten cs := by
    induction cs with
    | nil => rfl
    | cons c cs ih => rw [List.map_cons, List.flatten_cons, ih, List.singleton_append]
  decode_width := by simp
  decode_height := by simp
  resize_width _ _ _ := rfl
  resize_height _ _ _ := rfl

/-- A receipt of one text. -/
def receipt (value : String) : PrintDocument := ⟨.mm58, [.text value none none, .cut]⟩

/-- The stream of a receipt with one plain text. -/
def receiptBytes : List UInt8 :=
  [esc, 0x40, esc, 0x61, 0, esc, 0x45, 0] ++ encode "Total 9.00".toList ++
    [lineFeed, esc, 0x45, 0, gs, 0x56, 0]

end Sample

end Oppa.Renderer
