import Mathlib.Data.Rat.Floor
import Oppa.Agent.Failure
import Oppa.Renderer.PageSelection
import Oppa.Renderer.Raster

/-!
# Rasterization of PDF documents

Validation of a PDF, the rendering of its pages to one-bit device pages, and the bitmaps that are
built on the way.  Sizes are rational numbers, rounded where the renderer rounds them.

* `RgbaImage`, `Engine` — bitmaps, and what is used of the PDF engine and of the image library.
* `targetPixels`, `scalingFactor`, `scaledDimension` — the geometry of a page.
* `renderPage` — one page, and every bitmap that is built for it, in order.
* `validatePdf`, `rasterizePdf` — a document.
-/

namespace Oppa.Renderer

open Protocol

/-- The renderer's errors, with those of PDF documents. -/
abbrev PdfError := Oppa.RendererError

/-! ## Limits -/

def maxPdfPages : ℕ := 2000

/-- `MAX_PDF_RASTER_OUTPUT_PAGES`. -/
def maxPdfRasterOutputPages : ℕ := 200

/-- `MAX_PDF_RASTER_BYTES`. -/
def maxPdfRasterBytes : ℕ := 64 * 1024 * 1024

/-- `MAX_PDF_PIXELS_PER_PAGE`. -/
def maxPdfPixelsPerPage : ℕ := 42000000

/-- `MAX_PAGE_DIMENSION_POINTS`. -/
def maxPageDimensionPoints : ℚ := 14400

/-- A limit that is exceeded. -/
def exceeded (limit : String) (actual maximum : ℕ) : PdfError :=
  .pdfLimitExceeded limit (UInt64.ofNat actual) (UInt64.ofNat maximum)

/-! ## Bitmaps -/

/-- A pixel. -/
structure Rgba where
  red : UInt8
  green : UInt8
  blue : UInt8
  alpha : UInt8
  deriving DecidableEq, Repr

def Rgba.white : Rgba := ⟨255, 255, 255, 255⟩

/-- `RgbaImage`: a pixel for each column and row. -/
structure RgbaImage where
  width : ℕ
  height : ℕ
  pixel : ℕ → ℕ → Rgba

namespace RgbaImage

variable (image : RgbaImage)

/-- How many pixels there are. -/
def pixels : ℕ := image.width * image.height

/-- `RgbaImage::from_pixel`. -/
def fromPixel (width height : ℕ) (color : Rgba) : RgbaImage := ⟨width, height, fun _ _ => color⟩

/-- `imageops::rotate90`, clockwise. -/
def rotate90 : RgbaImage where
  width := image.height
  height := image.width
  pixel x y := image.pixel y (image.height - 1 - x)

end RgbaImage

/-- What parsing a PDF comes to. -/
inductive Loaded (Page : Type)
  | panicked
  | decryption
  | invalid
  | pages (pages : List Page)

/-- What is used of the PDF engine, whose pages are of a type of their own, and of the image
library. -/
structure Engine (Page : Type) where
  load : List UInt8 → Loaded Page
  /-- `render_dimensions`, in points. -/
  dimensions : Page → ℚ × ℚ
  /-- The bitmap of a page at a scale; a failure is the text of a panic or of an invalid bitmap. -/
  render : Page → ℚ → Except String RgbaImage
  /-- The pixels of a bitmap that is resampled to a size. -/
  resample : RgbaImage → (width height : ℕ) → ℕ → ℕ → Rgba
  /-- A pixel drawn over another. -/
  blend : (bottom top : Rgba) → Rgba

section Pipeline

variable {Page : Type} (engine : Engine Page)

/-- `imageops::resize`. -/
def Engine.resize (image : RgbaImage) (width height : ℕ) : RgbaImage :=
  ⟨width, height, engine.resample image width height⟩

/-- `imageops::overlay`, at an offset. -/
def Engine.overlay (canvas content : RgbaImage) (offsetX offsetY : ℤ) : RgbaImage where
  width := canvas.width
  height := canvas.height
  pixel x y :=
    let column := (x : ℤ) - offsetX
    let row := (y : ℤ) - offsetY
    if 0 ≤ column ∧ column < content.width ∧ 0 ≤ row ∧ row < content.height then
      engine.blend (canvas.pixel x y) (content.pixel column.toNat row.toNat)
    else canvas.pixel x y

/-! ## Geometry -/

/-- `f32::round`, for a value that is not negative. -/
def roundHalfUp (value : ℚ) : ℕ := ⌊value + 1 / 2⌋₊

/-- `value as u32`, of a natural number. -/
def asU32 (n : ℕ) : ℕ := min n (2 ^ 32 - 1)

/-- `check_pixel_budget`. -/
def checkPixelBudget (width height : ℕ) : Except PdfError Unit :=
  if width = 0 ∨ height = 0 then .error .invalidPageOptions
  else if maxPdfPixelsPerPage < width * height then
    .error (exceeded "pixels per page" (width * height) maxPdfPixelsPerPage)
  else .ok ()

/-- `paper_millimetres`. -/
def paperMillimetres : PaperSize → ℚ × ℚ
  | .standard .a4 => (210, 297)
  | .standard .a5 => (148, 210)
  | .standard .letter => (2159 / 10, 2794 / 10)
  | .standard .legal => (2159 / 10, 3556 / 10)
  | .custom custom => (custom.widthMm.toNat, custom.heightMm.toNat)

/-- `millimetres_to_pixels`. -/
def millimetresToPixels (millimetres : ℚ) (dpi : ℕ) : ℕ :=
  asU32 (roundHalfUp (millimetres * dpi / (254 / 10)))

/-- `target_pixels`. -/
def targetPixels (paper : PaperSize) (orientation : Option Orientation) (dpi : ℕ) :
    Except PdfError (ℕ × ℕ) := do
  let (widthMm, heightMm) := paperMillimetres paper
  let swapped :=
    match orientation with
    | some .landscape => decide (widthMm < heightMm)
    | some .portrait => decide (heightMm < widthMm)
    | none => false
  let width := millimetresToPixels (if swapped then heightMm else widthMm) dpi
  let height := millimetresToPixels (if swapped then widthMm else heightMm) dpi
  checkPixelBudget width height
  pure (width, height)

/-- `scaling_factor`. -/
def scalingFactor (scaling : Option Scaling) (page : ℕ × ℕ) (target : Option (ℕ × ℕ)) : ℚ :=
  match scaling with
  | none | some .actual => 1
  | some (.percent percent) => (percent.toNat : ℚ) / 100
  | some .fit =>
      match target with
      | none => 1
      | some (width, height) => min (min ((width : ℚ) / page.1) ((height : ℚ) / page.2)) 1

/-- `scaled_dimension`. -/
def scaledDimension (value : ℕ) (factor : ℚ) : ℕ := max (asU32 (roundHalfUp (value * factor))) 1

/-- The size of a page in pixels. -/
def pagePixels (points scale : ℚ) : ℕ := asU32 (max (roundHalfUp (points * scale)) 1)

/-! ## One page -/

/-- `pack_monochrome`. -/
def packMonochrome (image : RgbaImage) : List UInt8 :=
  let bytesPerRow := (image.width + 7) / 8
  (List.range image.height).foldl (fun data y =>
    (List.range image.width).foldl (fun data x =>
      let pixel := image.pixel x y
      let luminance :=
        (pixel.red.toNat * 299 + pixel.green.toNat * 587 + pixel.blue.toNat * 114) / 1000
      if luminance < 140 then Bitmap.setBit data (y * bytesPerRow + x / 8) (x % 8) else data) data)
    (List.replicate (bytesPerRow * image.height) 0)

/-- The checks of a page before it is rendered. -/
def checkPage (points : ℚ × ℚ) (scale : ℚ) : Except PdfError Unit :=
  if 0 < points.1 ∧ 0 < points.2 ∧ points.1 ≤ maxPageDimensionPoints ∧
      points.2 ≤ maxPageDimensionPoints then
    checkPixelBudget (asU32 ⌈points.1 * scale⌉₊) (asU32 ⌈points.2 * scale⌉₊)
  else
    .error (exceeded "page dimension in points"
      (min ⌊max points.1 points.2⌋₊ (2 ^ 64 - 1)) 14400)

/-- A result, and every bitmap that was built for it. -/
abbrev Building (α : Type) := Except PdfError α × List RgbaImage

variable (settings : PrintSettings) (dpi : ℕ)

/-- Whether a page is turned. -/
def turns (width height : ℕ) : Bool :=
  match settings.orientation with
  | none => false
  | some orientation => decide (orientation = .landscape) != decide (height < width)

/-- The target of a page, when the settings name a paper. -/
def target : Except PdfError (Option (ℕ × ℕ)) :=
  match settings.paper with
  | none => .ok none
  | some paper => (targetPixels paper settings.orientation dpi).map some

/-- The content of a page is placed on its canvas. -/
def compose (content : RgbaImage) (target : Option (ℕ × ℕ)) : Building RasterPage :=
  let (width, height) := target.getD (content.width, content.height)
  match checkPixelBudget width height with
  | .error error => (.error error, [])
  | .ok () =>
      let canvas := RgbaImage.fromPixel width height .white
      let offset (canvas content : ℕ) : ℤ :=
        if target.isSome then (canvas : ℤ) / 2 - (content : ℤ) / 2 else 0
      let composed := engine.overlay canvas content (offset width content.width)
        (offset height content.height)
      (.ok
        { width := width
          height := height
          dpiX := dpi
          dpiY := dpi
          format := .mono1
          data := packMonochrome composed }, [canvas])

/-- The content of a page, brought to its size, is placed on its canvas. -/
def scaleContent (content : RgbaImage) (width height : ℕ) (target : Option (ℕ × ℕ)) :
    Building RasterPage :=
  if content.width = width ∧ content.height = height then compose engine dpi content target
  else
    let resized := engine.resize content width height
    let composed := compose engine dpi resized target
    (composed.1, resized :: composed.2)

/-- The rendered bitmap of a page becomes its raster. -/
def layOut (points : ℚ × ℚ) (scale : ℚ) (content : RgbaImage) : Building RasterPage :=
  let width := pagePixels points.1 scale
  let height := pagePixels points.2 scale
  let turned := turns settings width height
  let page := if turned then (height, width) else (width, height)
  let content := if turned then content.rotate90 else content
  let laidOut : Building RasterPage :=
    match target settings dpi with
    | .error error => (.error error, [])
    | .ok target =>
        let factor := scalingFactor settings.scaling page target
        scaleContent engine dpi content (scaledDimension page.1 factor)
          (scaledDimension page.2 factor) target
  (laidOut.1, if turned then content :: laidOut.2 else laidOut.2)

/-- `render_page`. -/
def renderPage (page : Page) : Building RasterPage :=
  let points := engine.dimensions page
  let scale := (dpi : ℚ) / 72
  match checkPage points scale with
  | .error error => (.error error, [])
  | .ok () =>
      match engine.render page scale with
      | .error text => (.error (.pdfRender text), [])
      | .ok content =>
          let laidOut := layOut engine settings dpi points scale content
          (laidOut.1, content :: laidOut.2)

/-! ## Documents -/

/-- `PrintSettings::copies`. -/
def copies (settings : PrintSettings) : ℕ := (settings.copies.map UInt16.toNat).getD minCopies

/-- `PdfPrintDocument`. -/
structure PdfPrintDocument where
  bytes : List UInt8
  settings : PrintSettings
  pageCount : ℕ
  selectedPages : List ℕ
  deriving DecidableEq, Repr

/-- `load_pdf`. -/
def loadPdf (bytes : List UInt8) : Except PdfError (List Page) :=
  match engine.load bytes with
  | .panicked => .error (.pdfRender "the PDF parser stopped unexpectedly")
  | .decryption => .error .encryptedPdf
  | .invalid => .error (.invalidPdf "the file could not be parsed")
  | .pages pages => .ok pages

/-- `PDF_HEADER`. -/
def pdfHeader : List UInt8 := [0x25, 0x50, 0x44, 0x46, 0x2d]

/-- Whether the header starts at one of the first 1024 places. -/
def hasHeader (bytes : List UInt8) : Bool :=
  (List.range 1024).any fun start => pdfHeader.isPrefixOf (bytes.drop start)

/-- `validate_pdf`. -/
def validatePdf (bytes : List UInt8) (settings : PrintSettings) :
    Except PdfError PdfPrintDocument :=
  if maxPdfDocumentBytes < bytes.length then
    .error (exceeded "size in bytes" bytes.length maxPdfDocumentBytes)
  else if hasHeader bytes = false then
    .error (.invalidPdf "the file does not start with a PDF header")
  else do
    let pages ← loadPdf engine bytes
    if pages.length = 0 then .error (.invalidPdf "the document contains no pages")
    else if maxPdfPages < pages.length then
      .error (exceeded "page count" pages.length maxPdfPages)
    else do
      let selected ← (resolvePageSelection settings.pageRanges pages.length).mapError
        fun error => .invalidPageRange error.text
      if maxPdfRasterOutputPages < selected.length * copies settings then
        .error (exceeded "output pages after copies" (selected.length * copies settings)
          maxPdfRasterOutputPages)
      else pure ⟨bytes, settings, pages.length, selected⟩

/-- `check_deadline`, when the deadline has passed or not. -/
def checkDeadline (passed : Bool) : Except PdfError Unit :=
  if passed then .error .rasterizationTimedOut else .ok ()

/-- `usize::saturating_add` and `saturating_mul` are the plain operations up to this. -/
def asUsize (n : ℕ) : ℕ := min n (2 ^ 64 - 1)

/-- The selected pages are rendered.  `passed` says at which check the deadline has passed. -/
def renderSelection (pages : List Page) (passed : ℕ → Bool) :
    (turn selectionBytes : ℕ) → List ℕ → Building (List RasterPage)
  | _, _, [] => (.ok [], [])
  | turn, selectionBytes, index :: selected =>
      match checkDeadline (passed turn), pages[index]? with
      | .error error, _ => (.error error, [])
      | .ok (), none =>
          (.error (.invalidPageRange ("page " ++ toString (index + 1) ++ " is missing")), [])
      | .ok (), some page =>
          let rendered := renderPage engine settings dpi page
          match rendered.1 with
          | .error error => (.error error, rendered.2)
          | .ok raster =>
              let selectionBytes := asUsize (selectionBytes + raster.data.length)
              let outputBytes := asUsize (selectionBytes * copies settings)
              if maxPdfRasterBytes < outputBytes then
                (.error (exceeded "raster bytes" outputBytes maxPdfRasterBytes), rendered.2)
              else
                let rest := renderSelection pages passed (turn + 1) selectionBytes selected
                (rest.1.map (raster :: ·), rendered.2 ++ rest.2)

/-- `rasterize_pdf`: the raster, and every bitmap that was built. -/
def rasterizePdf (document : PdfPrintDocument) (passed : ℕ → Bool) : Building RasterDocument :=
  if ¬ (72 ≤ dpi ∧ dpi ≤ 600) then (.error .invalidPageOptions, [])
  else
    match loadPdf engine document.bytes with
    | .error error => (.error error, [])
    | .ok pages =>
        let rendered := renderSelection engine document.settings dpi pages passed 0 0
          document.selectedPages
        let output : Except PdfError RasterDocument := do
          let selection ← rendered.1
          -- the deadline is checked before each copy
          (List.range (copies document.settings)).forM fun copy =>
            checkDeadline (passed (document.selectedPages.length + copy))
          pure ⟨(List.replicate (copies document.settings) selection).flatten⟩
        (output, rendered.2)

end Pipeline

end Oppa.Renderer
