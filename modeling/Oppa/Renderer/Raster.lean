import Oppa.Foundation.Bitmap
import Oppa.Foundation.Loops
import Oppa.Renderer.Layout

/-!
# Raster pages and the canvas they are drawn on

The pages a renderer hands on, and the black and white canvas of the page renderer.  Positions and
sizes are machine integers: some sums saturate, and the others either wrap or end the program, which
depends on the build.

* `Build` — how sums and products that do not fit are treated.
* `RasterPage` — a page of pixels with its check.
* `MonoCanvas` — the canvas, whose buffer always has the length its size asks for.
-/

namespace Oppa.Renderer

open Result Loops

/-! ## Arithmetic on 32 bits -/

/-- Why a page is not rendered. -/
inductive PageError
  | renderer (error : RendererError)
  | invalidPageOptions
  | pageOverflow
  | barcodeRender (text : String)
  /-- The panic of a sum or product that does not fit. -/
  | arithmeticOverflow
  deriving DecidableEq, Repr

/-- How the program was built: whether plain arithmetic is checked, as in a development build, or
wraps, as in a release. -/
structure Build where
  overflowChecks : Bool
  deriving DecidableEq, Repr

namespace Build

def development : Build := ⟨true⟩

def release : Build := ⟨false⟩

/-- The result of plain arithmetic on 32 bits. -/
def u32 (build : Build) (n : ℕ) : Except PageError ℕ :=
  if n < 2 ^ 32 then .ok n
  else if build.overflowChecks then .error .arithmeticOverflow
  else .ok (n % 2 ^ 32)

lemma u32_of_lt {build : Build} {n : ℕ} (h : n < 2 ^ 32) : build.u32 n = .ok n := if_pos h

lemma exists_u32_release (n : ℕ) : ∃ m, release.u32 n = .ok m := by
  rw [u32]
  split_ifs with hfits hchecked
  · exact ⟨n, rfl⟩
  · cases hchecked
  · exact ⟨_, rfl⟩

end Build

/-- `u32::saturating_add`. -/
def satAdd (a b : ℕ) : ℕ := min (a + b) (2 ^ 32 - 1)

/-- `u32::saturating_mul`. -/
def satMul (a b : ℕ) : ℕ := min (a * b) (2 ^ 32 - 1)

/-- A length as a `u32`, or the largest one. -/
def lengthU32 (n : ℕ) : ℕ := min n (2 ^ 32 - 1)

/-! ## Pages -/

/-- Pixel encodings supported by a raster page. -/
inductive PixelFormat
  | mono1
  | gray8
  | rgb24
  | rgba32
  deriving DecidableEq, Repr

/-- Raster page in one of the supported pixel formats. -/
structure RasterPage where
  width : ℕ
  height : ℕ
  dpiX : ℕ
  dpiY : ℕ
  format : PixelFormat
  data : List UInt8
  deriving DecidableEq, Repr

/-- Ordered pages or receipt segments. -/
structure RasterDocument where
  pages : List RasterPage
  deriving DecidableEq, Repr

namespace RasterPage

/-- The bytes of one row. -/
def bytesPerRow (page : RasterPage) : Except RendererError ℕ :=
  match page.format with
  | .mono1 => .ok ((page.width + 7) / 8)
  | .gray8 => .ok page.width
  | .rgb24 => checked (page.width * 3)
  | .rgba32 => checked (page.width * 4)
where
  /-- `checked_mul`. -/
  checked (n : ℕ) : Except RendererError ℕ :=
    if n < 2 ^ 32 then .ok n else .error (.invalidRasterPage "row size overflow")

/-- `RasterPage::validate`; a size always fits in 64 bits. -/
def validate (page : RasterPage) : Except RendererError Unit := do
  let row ← page.bytesPerRow
  if page.width = 0 ∨ page.height = 0 ∨ page.dpiX = 0 ∨ page.dpiY = 0 then
    .error (.invalidRasterPage "dimensions and resolution must be non-zero")
  else if page.data.length ≠ row * page.height then
    .error (.invalidRasterPage ("pixel buffer has " ++ toString page.data.length ++
      " bytes; expected " ++ toString (row * page.height)))
  else .ok ()

/-- `crop_page_height`. -/
def cropHeight (page : RasterPage) (height : ℕ) : Except RendererError RasterPage := do
  if page.height ≤ height then .ok page
  else
    let page := { page with data := page.data.take ((page.width + 7) / 8 * height), height }
    page.validate
    .ok page

/-- The black pixels of a page. -/
def pixels (page : RasterPage) : Set (ℕ × ℕ) :=
  Bitmap.pixels page.data ((page.width + 7) / 8) page.width page.height

end RasterPage

/-! ## The canvas -/

/-- The canvas of the page renderer. -/
structure MonoCanvas where
  width : ℕ
  height : ℕ
  dpi : ℕ
  stride : ℕ
  data : List UInt8
  stride_eq : stride = (width + 7) / 8
  length_eq : data.length = stride * height
  deriving DecidableEq

namespace MonoCanvas

/-- `MonoCanvas::new`; a size always fits in 64 bits. -/
def new (width height dpi : ℕ) : MonoCanvas where
  width := width
  height := height
  dpi := dpi
  stride := (width + 7) / 8
  data := List.replicate ((width + 7) / 8 * height) 0
  stride_eq := rfl
  length_eq := List.length_replicate

variable (build : Build)

/-- `set_packed_bit` on the bytes of the canvas. -/
def setPackedBit (canvas : MonoCanvas) (x y : ℕ) : Except PageError MonoCanvas := do
  let index ← build.u32 (y * canvas.stride + x / 8)
  return { canvas with
    data := Bitmap.setBit canvas.data index (x % 8)
    length_eq := Bitmap.length_setBit.trans canvas.length_eq }

/-- `fill_rect`. -/
def fillRect (canvas : MonoCanvas) (x y width height : ℕ) : Except PageError MonoCanvas :=
  let left := min x canvas.width
  let right := min (satAdd x width) canvas.width
  let top := min y canvas.height
  let bottom := min (satAdd y height) canvas.height
  (List.range' top (bottom - top)).foldlM (fun canvas py =>
    (List.range' left (right - left)).foldlM (fun canvas px =>
      canvas.setPackedBit build px py) canvas) canvas

/-- One pixel of `blit_receipt_image`. -/
def blitPixel (image : ReceiptImage) (x y targetWidth targetHeight : ℕ) (canvas : MonoCanvas)
    (targetY targetX : ℕ) : Except PageError MonoCanvas := do
  let sourceY := satMul targetY image.height / targetHeight
  let sourceX := satMul targetX image.width / targetWidth
  let index ← build.u32 (sourceY * image.stride + sourceX / 8)
  if Bitmap.testBit image.data index (sourceX % 8) then
    canvas.setPackedBit build (satAdd x targetX) (satAdd y targetY)
  else .ok canvas

/-- `blit_receipt_image`. -/
def blitReceiptImage (canvas : MonoCanvas) (image : ReceiptImage)
    (x y targetWidth targetHeight : ℕ) : Except PageError MonoCanvas :=
  if targetWidth = 0 ∨ targetHeight = 0 then .ok canvas
  else
    (List.range targetHeight).foldlM (fun canvas targetY =>
      (List.range targetWidth).foldlM (fun canvas targetX =>
        canvas.blitPixel build image x y targetWidth targetHeight targetY targetX) canvas) canvas

/-- `into_page`. -/
def intoPage (canvas : MonoCanvas) (dpi : ℕ) : RasterPage where
  width := canvas.width
  height := canvas.height
  dpiX := dpi
  dpiY := dpi
  format := .mono1
  data := canvas.data

/-- The black pixels of a canvas. -/
def pixels (canvas : MonoCanvas) : Set (ℕ × ℕ) :=
  Bitmap.pixels canvas.data canvas.stride canvas.width canvas.height

@[simp] lemma pixels_intoPage (canvas : MonoCanvas) (dpi : ℕ) :
    (canvas.intoPage dpi).pixels = canvas.pixels := by
  rw [RasterPage.pixels, pixels, canvas.stride_eq]
  rfl

@[simp] lemma pixels_new (width height dpi : ℕ) : (new width height dpi).pixels = ∅ :=
  Bitmap.pixels_replicate

/-- The size of a canvas, which drawing does not change. -/
structure HasSize (width height dpi : ℕ) (canvas : MonoCanvas) : Prop where
  width_eq : canvas.width = width
  height_eq : canvas.height = height
  dpi_eq : canvas.dpi = dpi

lemma hasSize_new {width height dpi : ℕ} : (new width height dpi).HasSize width height dpi :=
  ⟨rfl, rfl, rfl⟩

end MonoCanvas

end Oppa.Renderer
