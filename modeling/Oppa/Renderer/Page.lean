import Oppa.Renderer.Fit
import Oppa.Renderer.Raster

/-!
# Rendering a layout on a page

The page renderer draws the operations of a layout one below the other on a canvas, and reports an
overflow when the next position lies below the canvas.  A receipt is drawn on a canvas whose height
is estimated from the layout first.

* `Graphics` — what is used of the crates for fonts, QR codes and barcodes.
* `drawText`, `renderElement`, `renderElements` — drawing.
* `estimateHeight` — the estimate.
* `renderLayoutPage`, `renderLayoutReceipt` — a page of a given size, and a receipt.
-/

namespace Oppa.Renderer.Page

open Protocol Text Loops

/-- Maximum image area allocated for one rendered page. -/
def maxPagePixels : ℕ := 42000000

/-- Maximum raster image height retained in a receipt layout. -/
def maxReceiptImageHeight : ℕ := 8192

/-- Bitmap glyph scale at 300 DPI. -/
def glyphScaleAt300Dpi : ℕ := 3

/-- Minimum page margin above the start of the receipt content. -/
def topMarginMm : ℕ := 12

/-- Human-readable barcode text is rendered at this scale. -/
def hriGlyphScale : ℕ := 2

/-- A QR code: its modules in a row, and which of them are dark. -/
structure QrCode where
  width : ℕ
  dark : ℕ → ℕ → Bool

/-- **What is used of other crates to draw**: a glyph has eight rows of eight bits, a QR code has at
most 177 modules in a row, and no barcode is without bars. -/
structure Graphics where
  /-- `BASIC_FONTS.get`. -/
  glyph : Char → Option (Fin 8 → UInt8)
  /-- `QrCode::new`. -/
  qrCode : List UInt8 → Except String QrCode
  /-- The encoders of the barcoders crate. -/
  barcode : BarcodeFormat → String → Except String (List UInt8)
  qrCode_width : ∀ bytes code, qrCode bytes = .ok code → code.width ≤ 177
  barcode_ne_nil : ∀ format value bars, barcode format value = .ok bars → bars ≠ []

/-! ## Sizes -/

/-- `glyph_scale`. -/
def glyphScale (dpi : ℕ) : ℕ := max (dpi * glyphScaleAt300Dpi / 300) 1

/-- The height of a line of text. -/
def lineHeight (dpi : ℕ) : ℕ := 9 * glyphScale dpi

/-- The characters that fit beside one another. -/
def maxChars (dpi receiptWidth : ℕ) : ℕ := max (receiptWidth / max (8 * glyphScale dpi) 1) 1

/-- `mm_to_px`, with its error. -/
def pagePixels (mm dpi : ℕ) : Except PageError ℕ :=
  match mmToPx mm dpi with
  | some pixels => .ok pixels
  | none => .error (.renderer (.invalidRasterPage "dimension overflow"))

/-- `validate_canvas_area`. -/
def validateCanvasArea (width height : ℕ) : Except PageError Unit :=
  if maxPagePixels < width * height then
    .error (.renderer (.outputTooLarge (width * height / 8) (maxPagePixels / 8)))
  else .ok ()

/-- The size of an image at the resolution of the canvas. -/
def imageSize (image : ReceiptImage) (dpi : ℕ) : ℕ × ℕ :=
  (max (satMul image.width dpi / max image.dpi 1) 1,
    max (satMul image.height dpi / max image.dpi 1) 1)

/-- The size a QR code has with its quiet zone, in modules. -/
def totalModules (code : QrCode) : ℕ := code.width + 8

/-- The side of a module of a QR code where the paper is wide enough. -/
def nominalModule (dpi : ℕ) : ℕ := max (dpi * 6 / 203) 1

/-- The side of a module of a QR code. -/
def moduleSide (dpi receiptWidth : ℕ) (code : QrCode) : ℕ :=
  max (min (nominalModule dpi) (receiptWidth / max (totalModules code) 1)) 1

/-- The height of the bars of a barcode. -/
def barHeight (dpi : ℕ) (heightDots : UInt8) : ℕ := max (dpi * heightDots.toNat / 203) 1

/-! ## Text -/

variable (gfx : Graphics) (build : Build)

/-- Where and how a line of text is drawn. -/
structure TextPlacement where
  alignment : TextAlignment
  bold : Bool
  left : ℕ
  y : ℕ
  maxWidth : ℕ
  scale : ℕ

/-- One dot of a glyph. -/
def drawDot (bold : Bool) (x y scale row column : ℕ) (canvas : MonoCanvas) :
    Except PageError MonoCanvas := do
  let px ← build.u32 (x + column * scale)
  let py ← build.u32 (y + row * scale)
  let canvas ← canvas.fillRect build px py scale scale
  if bold then canvas.fillRect build (satAdd px scale) py 1 scale else .ok canvas

/-- Whether a row of a glyph has a dot in a column. -/
def hasDot (bits : UInt8) (column : ℕ) : Bool := bits &&& (1 <<< UInt8.ofNat column) ≠ 0

/-- One glyph. -/
def drawGlyph (bold : Bool) (x y scale : ℕ) (glyph : Fin 8 → UInt8) (canvas : MonoCanvas) :
    Except PageError MonoCanvas :=
  (List.finRange 8).foldlM (fun canvas row =>
    (List.range 8).foldlM (fun canvas column =>
      if hasDot (glyph row) column then drawDot build bold x y scale row column canvas
      else .ok canvas) canvas) canvas

/-- The glyph of a character, or the one for a question mark. -/
def glyphOf (c : Char) : Option (Fin 8 → UInt8) := (gfx.glyph c).or (gfx.glyph '?')

/-- One character. -/
def drawChar (bold : Bool) (y scale : ℕ) (canvas : MonoCanvas) (x : ℕ) (c : Char) :
    Except PageError MonoCanvas :=
  match glyphOf gfx c with
  | some glyph => drawGlyph build bold x y scale glyph canvas
  | none => .ok canvas

/-- How far from the left edge a text of a width begins. -/
def TextPlacement.offset (placement : TextPlacement) (textWidth : ℕ) : ℕ :=
  match placement.alignment with
  | .left => 0
  | .center => (placement.maxWidth - textWidth) / 2
  | .right => placement.maxWidth - textWidth

/-- `draw_text`. -/
def drawText (canvas : MonoCanvas) (value : List Char) (placement : TextPlacement) :
    Except PageError MonoCanvas := do
  let glyphWidth := 8 * placement.scale
  let textWidth := satMul (lengthU32 value.length) glyphWidth
  let x := satAdd placement.left (placement.offset textWidth)
  let drawn ← value.foldlM (carry (drawChar gfx build placement.bold placement.y placement.scale)
    (satAdd · glyphWidth)) (canvas, x)
  return drawn.1

/-! ## Elements -/

variable (lib : Libraries)

/-- The columns of a row and the lines in them. -/
def rowLines (first right : List Char) (maxChars : ℕ) : List (List Char) × List (List Char) :=
  let leftChars := maxChars * 3 / 5
  let rightChars := max (maxChars - (leftChars + 1)) 1
  (wrapText lib first (max leftChars 1), wrapText lib right rightChars)

/-- A line of a column, if there is one. -/
def drawColumn (placement : TextPlacement) (line : Option (List Char)) (canvas : MonoCanvas) :
    Except PageError MonoCanvas :=
  match line with
  | some line => drawText gfx build canvas line placement
  | none => .ok canvas

/-- One line of a row. -/
def drawRowLine (lines : List (List Char) × List (List Char)) (left receiptWidth scale : ℕ)
    (canvas : MonoCanvas) (y index : ℕ) : Except PageError MonoCanvas := do
  let drawn ← drawColumn gfx build ⟨.left, false, left, y, receiptWidth, scale⟩ lines.1[index]? canvas
  drawColumn gfx build ⟨.right, false, left, y, receiptWidth, scale⟩ lines.2[index]? drawn

/-- What the encoder of a format is given: a code 128 begins with the character set. -/
def barcodeInput (format : BarcodeFormat) (value : String) : String :=
  match format with
  | .code128 => "\u0181" ++ value
  | .code39 | .ean13 | .upca => value

/-- `encode_barcode`. -/
def encodeBarcode (format : BarcodeFormat) (value : String) : Except PageError (List UInt8) :=
  (gfx.barcode format (barcodeInput format value)).mapError .barcodeRender

/-- `QrCode::new`, with its error. -/
def encodeQr (value : String) : Except PageError QrCode :=
  (gfx.qrCode (Bytes.encode value.toList)).mapError fun e => .renderer (.invalidImage e)

/-- The modules of a QR code that is `side` dots wide for each of them. -/
def drawQr (code : QrCode) (side x y : ℕ) (canvas : MonoCanvas) : Except PageError MonoCanvas :=
  let quiet := 4 * side
  (List.range code.width).foldlM (fun canvas moduleY =>
    (List.range code.width).foldlM (fun canvas moduleX =>
      if code.dark moduleX moduleY then do
        let px ← build.u32 (x + quiet + moduleX * side)
        let py ← build.u32 (y + quiet + moduleY * side)
        canvas.fillRect build px py side side
      else .ok canvas) canvas) canvas

/-- The bars of a barcode. -/
def drawBars (bars : List UInt8) (side x y height : ℕ) (canvas : MonoCanvas) :
    Except PageError MonoCanvas :=
  bars.zipIdx.foldlM (fun canvas (bar, index) =>
    if bar = 1 then do
      let px ← build.u32 (x + index * side)
      canvas.fillRect build px y side height
    else .ok canvas) canvas

/-- The dots between the quiet zones of a barcode. -/
def availableDots (receiptWidth : ℕ) : ℕ := max (receiptWidth - 10 * 2) 1

/-- The width of a bar. -/
def barSide (dpi receiptWidth count : ℕ) : ℕ :=
  min (max (availableDots receiptWidth / count) 1) (max (dpi / 100) 1)

/-- A barcode in the middle of the paper. -/
def drawBarcode (bars : List UInt8) (left receiptWidth y height : ℕ) (canvas : MonoCanvas) :
    Except PageError MonoCanvas := do
  let side := barSide canvas.dpi receiptWidth bars.length
  let barcodeWidth ← build.u32 (bars.length * side)
  drawBars build bars side (satAdd left ((receiptWidth - barcodeWidth) / 2)) y height canvas

/-- The text below a barcode, where it was asked for. -/
def drawLabel (humanReadable : Bool) (value : List Char) (left receiptWidth y : ℕ)
    (canvas : MonoCanvas) : Except PageError MonoCanvas :=
  if humanReadable then
    drawText gfx build canvas value
      ⟨.center, false, left, y, receiptWidth, min hriGlyphScale (glyphScale canvas.dpi)⟩
  else .ok canvas

/-- One operation, with the position below it. -/
def renderElement (left receiptWidth : ℕ) (canvas : MonoCanvas) (y : ℕ) :
    ReceiptElement → Except PageError (MonoCanvas × ℕ)
  | .text value alignment bold =>
      (wrapText lib value.toList (maxChars canvas.dpi receiptWidth)).foldlM
        (carry (fun canvas' y line => drawText gfx build canvas' line
          ⟨alignment, bold, left, y, receiptWidth, glyphScale canvas.dpi⟩)
          (satAdd · (lineHeight canvas.dpi))) (canvas, y)
  | .row first right =>
      let lines := rowLines lib first.toList right.toList (maxChars canvas.dpi receiptWidth)
      (List.range (max lines.1.length lines.2.length)).foldlM
        (carry (drawRowLine gfx build lines left receiptWidth (glyphScale canvas.dpi))
          (satAdd · (lineHeight canvas.dpi))) (canvas, y)
  | .divider => do
      let thickness := max (canvas.dpi / 150) 1
      let drawn ← canvas.fillRect build left (satAdd y (lineHeight canvas.dpi / 2)) receiptWidth
        thickness
      return (drawn, satAdd y (lineHeight canvas.dpi))
  | .image image => do
      let size := imageSize image canvas.dpi
      let target := fitDimensions size.1 size.2 receiptWidth
        (min maxReceiptImageHeight (canvas.height - y))
      let drawn ← canvas.blitReceiptImage build image left y target.1 target.2
      return (drawn, satAdd (satAdd y target.2) (satMul (glyphScale canvas.dpi) 2))
  | .qr value => do
      let code ← encodeQr gfx value
      let side := moduleSide canvas.dpi receiptWidth code
      let codeWidth := satMul (totalModules code) side
      let x := satAdd left ((receiptWidth - codeWidth) / 2)
      let drawn ← drawQr build code side x y canvas
      return (drawn, satAdd (satAdd y codeWidth) (glyphScale canvas.dpi * 2))
  | .barcode format value heightDots humanReadable => do
      let bars ← encodeBarcode gfx format value
      if availableDots receiptWidth < lengthU32 bars.length then
        .error (.barcodeRender "encoded barcode is wider than the receipt")
      else
        let height := barHeight canvas.dpi heightDots
        let below := satAdd (satAdd y height) (2 * glyphScale canvas.dpi)
        let drawn ← drawBarcode build bars left receiptWidth y height canvas
        let labelled ← drawLabel gfx build humanReadable value.toList left receiptWidth below drawn
        return (labelled, if humanReadable then satAdd below (lineHeight canvas.dpi) else below)
  | .feed lines => .ok (canvas, satAdd y (lines.toNat * lineHeight canvas.dpi))
  | .cut => .ok (canvas, y)

/-- One turn of the loop over the operations. -/
def renderNext (left receiptWidth : ℕ) (at' : MonoCanvas × ℕ) (element : ReceiptElement) :
    Except PageError (MonoCanvas × ℕ) := do
  let next ← renderElement gfx build lib left receiptWidth at'.1 at'.2 element
  if next.1.height < next.2 then .error .pageOverflow else .ok next

/-- `render_elements`. -/
def renderElements (layout : PrintLayout) (canvas : MonoCanvas) (left y receiptWidth : ℕ) :
    Except PageError (MonoCanvas × ℕ) :=
  layout.elements.foldlM (renderNext gfx build lib left receiptWidth) (canvas, y)

/-! ## The estimate -/

/-- The height of some lines in the estimate. -/
def estimateLines (dpi n : ℕ) : Except PageError ℕ :=
  build.u32 (lengthU32 (max n 1) * lineHeight dpi)

/-- The lines of a row in the estimate. -/
def estimatedRowLines (first right : List Char) (maxChars : ℕ) : ℕ :=
  max (wrapText lib first (max (maxChars * 3 / 5) 1)).length
    (wrapText lib right (max (maxChars * 2 / 5) 1)).length

/-- The height of one operation in the estimate. -/
def estimateElement (dpi width : ℕ) : ReceiptElement → Except PageError ℕ
  | .text value _ _ => estimateLines build dpi (wrapText lib value.toList (maxChars dpi width)).length
  | .row first right =>
      estimateLines build dpi
        (estimatedRowLines lib first.toList right.toList (maxChars dpi width))
  | .divider => .ok (lineHeight dpi)
  | .image image =>
      .ok (min (satMul image.height dpi / max image.dpi 1) maxReceiptImageHeight +
        glyphScale dpi * 2)
  | .qr value => do
      let code ← encodeQr gfx value
      return satAdd (satMul (totalModules code) (nominalModule dpi)) (glyphScale dpi * 2)
  | .barcode format value heightDots humanReadable => do
      let _ ← encodeBarcode gfx format value
      return dpi * heightDots.toNat / 203 + (if humanReadable then lineHeight dpi else 0) +
        glyphScale dpi * 2
  | .feed lines => .ok (lines.toNat * lineHeight dpi)
  | .cut => .ok 0

/-- `estimate_layout_height`. -/
def estimateHeight (layout : PrintLayout) (dpi : ℕ) : Except PageError ℕ := do
  let width := receiptPixelWidth layout.width dpi
  let height ← layout.elements.foldlM (fun height element => do
    return satAdd height (← estimateElement gfx build lib dpi width element)) (4 * glyphScale dpi)
  return max height 1

/-! ## Pages and receipts -/

/-- Page size and resolution for driver-based printing. -/
structure PageRenderOptions where
  widthMm : ℕ
  heightMm : ℕ
  dpi : ℕ
  deriving DecidableEq, Repr

namespace PageRenderOptions

/-- A4 portrait at 300 DPI. -/
def a4Portrait : PageRenderOptions := ⟨210, 297, 300⟩

/-- The sizes and resolutions that are accepted. -/
def Valid (options : PageRenderOptions) : Prop :=
  (100 ≤ options.widthMm ∧ options.widthMm ≤ 500) ∧
    (100 ≤ options.heightMm ∧ options.heightMm ≤ 500) ∧ (72 ≤ options.dpi ∧ options.dpi ≤ 600)

instance (options : PageRenderOptions) : Decidable options.Valid :=
  inferInstanceAs (Decidable (_ ∧ _ ∧ _))

/-- `PageRenderOptions::validate`. -/
def validate (options : PageRenderOptions) : Except PageError Unit :=
  if options.Valid then .ok () else .error .invalidPageOptions

end PageRenderOptions

/-- `render_layout_page`. -/
def renderLayoutPage (layout : PrintLayout) (options : PageRenderOptions) :
    Except PageError RasterDocument := do
  options.validate
  let width ← pagePixels options.widthMm options.dpi
  let height ← pagePixels options.heightMm options.dpi
  validateCanvasArea width height
  let receiptWidth := min (receiptPixelWidth layout.width options.dpi) width
  let x := (width - receiptWidth) / 2
  let y ← pagePixels topMarginMm options.dpi
  let drawn ← renderElements gfx build lib layout (.new width height options.dpi) x y receiptWidth
  return ⟨[drawn.1.intoPage options.dpi]⟩

/-- `render_layout_receipt`. -/
def renderLayoutReceipt (layout : PrintLayout) (dpi : ℕ) : Except PageError RasterDocument := do
  if 72 ≤ dpi ∧ dpi ≤ 600 then
    let width := receiptPixelWidth layout.width dpi
    let estimatedHeight ← estimateHeight gfx build lib layout dpi
    validateCanvasArea width estimatedHeight
    let drawn ← renderElements gfx build lib layout (.new width estimatedHeight dpi) 0 0 width
    let page := drawn.1.intoPage dpi
    let page ← (page.cropHeight (min (max drawn.2 1) page.height)).mapError .renderer
    return ⟨[page]⟩
  else .error .invalidPageOptions

/-! A font with one letter, and encoders that accept nothing. -/

namespace Sample

/-- The rows of a glyph. -/
def rows (bits : List UInt8) (row : Fin 8) : UInt8 := bits.getD row 0

def graphics : Graphics where
  glyph c :=
    if c = 'A' then some (rows [0x0c, 0x1e, 0x33, 0x33, 0x3f, 0x33, 0x33, 0x00])
    else if c = '?' then some (rows [0x1e, 0x33, 0x30, 0x18, 0x0c, 0x00, 0x0c, 0x00])
    else none
  qrCode _ := .error "data too long"
  barcode _ _ := .error "invalid character"
  qrCode_width _ _ h := nomatch h
  barcode_ne_nil _ _ _ h := nomatch h

end Sample

end Oppa.Renderer.Page
