import Oppa.Renderer.Advance
import Oppa.Renderer.EscPos
import Oppa.Spooler.RawTcp

/-!
# Virtual page devices

A virtual printer that emulates an office printer has a page of its own, and every job for it is
rendered as one bitmap of that page.  The size of the bitmap depends on the page alone, and has to
pass the limits of the renderer and of the virtual spooler.

* `renderForPage` — a document rendered for a page, within the limit of the renderer.
* `pageBytes` — the size of a page.
* `Usable` — the smallest document is rendered for a page and accepted by the spooler.

**`usable_iff`** says which of the pages that can be configured are usable.
-/

namespace Oppa.Renderer.Page

open Printer Protocol Spooler Result

/-- Default maximum number of bytes emitted for one rendered document. -/
def defaultMaxOutputBytes : ℕ := 4 * 1024 * 1024

/-- Default upper bound for one spooler submission payload. -/
def defaultMaxSubmissionBytes : ℕ := 4 * 1024 * 1024

/-- The bytes of all pages. -/
def byteLen (document : RasterDocument) : ℕ := (document.pages.map fun page => page.data.length).sum

variable (gfx : Graphics) (build : Build) (lib : Libraries)

/-- `DocumentRenderer::render` for a page. -/
def renderForPage (maxOutputBytes : ℕ) (document : PrintDocument) (options : PageRenderOptions) :
    Except PageError RasterDocument := do
  document.validate.mapError fun error => PageError.renderer (.invalidDocument error.display)
  let layout ← (PrintLayout.fromDocument lib document).mapError .renderer
  let rendered ← renderLayoutPage gfx build lib layout options
  if maxOutputBytes < byteLen rendered then
    .error (.renderer (.outputTooLarge (byteLen rendered) maxOutputBytes))
  else .ok rendered

/-- The options as the renderer reads them. -/
def ofAgent (options : Oppa.PageRenderOptions) : PageRenderOptions :=
  ⟨options.widthMm.toNat, options.heightMm.toNat, options.dpi.toNat⟩

/-- The pixels of a length, without the check for an overflow. -/
def pixelsOf (mm dpi : ℕ) : ℕ := (mm * dpi * 10 + 127) / 254

/-- The bytes of a page: whole bytes for each row. -/
def pageBytes (options : PageRenderOptions) : ℕ :=
  (pixelsOf options.widthMm options.dpi + 7) / 8 * pixelsOf options.heightMm options.dpi

/-- The smallest document: a paper without anything to print on it. -/
def smallestDocument (width : ReceiptWidth) : PrintDocument := ⟨width, [.cut]⟩

/-- The smallest document is rendered for a page with the default limits, and the virtual spooler
accepts its size. -/
def Usable (options : PageRenderOptions) (width : ReceiptWidth) : Prop :=
  ∃ rendered, renderForPage gfx build lib defaultMaxOutputBytes (smallestDocument width) options =
      .ok rendered ∧
    Spooler.enforceSize (byteLen rendered) defaultMaxSubmissionBytes = .ok ()

variable {gfx build lib}

lemma pagePixels_eq {mm dpi : ℕ} (hmm : mm ≤ 500) (hdpi : dpi ≤ 600) :
    pagePixels mm dpi = .ok (pixelsOf mm dpi) := by
  have hproduct : mm * dpi ≤ 500 * 600 := Nat.mul_le_mul hmm hdpi
  rw [pagePixels, mmToPx, if_pos (by omega)]
  rfl

/-- A page is higher than the margin above its content. -/
lemma topMargin_le {mm dpi : ℕ} (hmm : 100 ≤ mm) :
    pixelsOf topMarginMm dpi ≤ pixelsOf mm dpi := by
  have hproduct : topMarginMm * dpi ≤ mm * dpi := by
    refine Nat.mul_le_mul_right dpi (le_trans ?_ hmm)
    decide
  simp only [pixelsOf]
  omega

/-- A page whose bytes pass the limit is not too large to be drawn. -/
lemma area_le {options : PageRenderOptions} (hbytes : pageBytes options ≤ defaultMaxOutputBytes) :
    pixelsOf options.widthMm options.dpi * pixelsOf options.heightMm options.dpi ≤
      maxPagePixels := by
  have hrow : pixelsOf options.widthMm options.dpi ≤
      8 * ((pixelsOf options.widthMm options.dpi + 7) / 8) := by omega
  calc pixelsOf options.widthMm options.dpi * pixelsOf options.heightMm options.dpi
      ≤ 8 * ((pixelsOf options.widthMm options.dpi + 7) / 8) *
          pixelsOf options.heightMm options.dpi := Nat.mul_le_mul_right _ hrow
    _ = 8 * pageBytes options := by rw [Nat.mul_assoc]; rfl
    _ ≤ 8 * defaultMaxOutputBytes := Nat.mul_le_mul_left 8 hbytes
    _ ≤ maxPagePixels := by decide

/-- The page of a document without anything on it, unless it is too large to be drawn. -/
lemma renderLayoutPage_cut {options : PageRenderOptions} (hvalid : options.Valid)
    (width : ReceiptWidth) :
    renderLayoutPage gfx build lib ⟨width, [.cut]⟩ options =
      if maxPagePixels < pixelsOf options.widthMm options.dpi *
          pixelsOf options.heightMm options.dpi then
        .error (.renderer (.outputTooLarge (pixelsOf options.widthMm options.dpi *
          pixelsOf options.heightMm options.dpi / 8) (maxPagePixels / 8)))
      else .ok ⟨[(MonoCanvas.new (pixelsOf options.widthMm options.dpi)
        (pixelsOf options.heightMm options.dpi) options.dpi).intoPage options.dpi]⟩ := by
  obtain ⟨hwidth, hheight, hdpi⟩ := hvalid
  have hmargin : topMarginMm ≤ 500 := by decide
  have hbelow : pixelsOf topMarginMm options.dpi ≤ pixelsOf options.heightMm options.dpi :=
    topMargin_le hheight.1
  rw [renderLayoutPage, PageRenderOptions.validate, if_pos ⟨hwidth, hheight, hdpi⟩,
    pagePixels_eq hwidth.2 hdpi.2, pagePixels_eq hheight.2 hdpi.2, pagePixels_eq hmargin hdpi.2]
  simp only [bind, Except.bind, validateCanvasArea]
  split_ifs with hlarge
  · rfl
  · have hdrawn : ∀ x receiptWidth, renderElements gfx build lib ⟨width, [.cut]⟩
        (.new (pixelsOf options.widthMm options.dpi) (pixelsOf options.heightMm options.dpi)
          options.dpi) x (pixelsOf topMarginMm options.dpi) receiptWidth =
        .ok (.new (pixelsOf options.widthMm options.dpi) (pixelsOf options.heightMm options.dpi)
          options.dpi, pixelsOf topMarginMm options.dpi) := by
      intro x receiptWidth
      have hnext : ¬ pixelsOf options.heightMm options.dpi < pixelsOf topMarginMm options.dpi := by
        omega
      show (Except.bind _ _) = _
      rw [renderNext]
      simp only [renderElement, bind, Except.bind, MonoCanvas.new, if_neg hnext]
      rfl
    rw [hdrawn]
    rfl

/-- The agent renders for the page of the profile. -/
lemma printerRenderTarget_device {printer : PrinterRef} {printerId : String}
    {pageWidthMm pageHeightMm dpi : UInt16} (hconnection : printer.connection = .virtual printerId)
    (hmode : printer.submissionMode = .driver)
    (hprofile : printer.virtualProfile = some (.systemDriverPage pageWidthMm pageHeightMm dpi)) :
    printerRenderTarget printer = .ok (.page ⟨pageWidthMm, pageHeightMm, dpi⟩) := by
  rw [printerRenderTarget, hconnection, hmode, hprofile]

lemma valid_of_profile {pageWidthMm pageHeightMm dpi : UInt16}
    (h : (VirtualPrinterProfile.systemDriverPage pageWidthMm pageHeightMm dpi).validate = .ok ()) :
    (ofAgent ⟨pageWidthMm, pageHeightMm, dpi⟩).Valid := by
  rw [VirtualPrinterProfile.validate] at h
  split_ifs at h with hbounds
  exact hbounds

/-- **A page device is usable exactly when its bitmap has at most four mebibytes.** -/
theorem usable_iff {pageWidthMm pageHeightMm dpi : UInt16}
    (hprofile : (VirtualPrinterProfile.systemDriverPage pageWidthMm pageHeightMm dpi).validate =
      .ok ()) (width : ReceiptWidth) :
    Usable gfx build lib (ofAgent ⟨pageWidthMm, pageHeightMm, dpi⟩) width ↔
      pageBytes (ofAgent ⟨pageWidthMm, pageHeightMm, dpi⟩) ≤ 4 * 1024 * 1024 := by
  have hvalid := valid_of_profile hprofile
  generalize ofAgent ⟨pageWidthMm, pageHeightMm, dpi⟩ = options at hvalid ⊢
  have hlayout : renderForPage gfx build lib defaultMaxOutputBytes (smallestDocument width) options =
      (renderLayoutPage gfx build lib ⟨width, [.cut]⟩ options >>= fun rendered =>
        if defaultMaxOutputBytes < byteLen rendered then
          .error (.renderer (.outputTooLarge (byteLen rendered) defaultMaxOutputBytes))
        else .ok rendered) := by
    cases width <;> rfl
  rw [Usable, hlayout, renderLayoutPage_cut hvalid]
  have hbytes : byteLen ⟨[(MonoCanvas.new (pixelsOf options.widthMm options.dpi)
      (pixelsOf options.heightMm options.dpi) options.dpi).intoPage options.dpi]⟩ =
      pageBytes options := List.length_replicate
  constructor
  · rintro ⟨rendered, hrendered, haccepted⟩
    obtain ⟨page, hpage, hlimit⟩ := bind_eq_ok.mp hrendered
    split_ifs at hpage with hlarge
    cases hpage
    split_ifs at hlimit with hmore
    rw [hbytes] at hmore
    exact Nat.le_of_not_lt hmore
  · intro hle
    have harea := area_le hle
    rw [if_neg (Nat.not_lt.mpr harea)]
    refine ⟨_, bind_eq_ok.mpr ⟨_, rfl, if_neg ?_⟩, ?_⟩
    · rw [hbytes]
      exact Nat.not_lt.mpr hle
    · rw [hbytes, Spooler.enforceSize, if_neg]
      rintro (hzero | hmore)
      · cases hzero
      · exact absurd hle (Nat.not_le.mpr hmore)

theorem usable_a4 :
    Usable Sample.graphics .release Sample.libraries (ofAgent ⟨210, 297, 300⟩) .mm80 ↔
      pageBytes (ofAgent ⟨210, 297, 300⟩) ≤ 4 * 1024 * 1024 :=
  usable_iff (by decide) .mm80

/-- The largest page that can be configured is refused at the highest resolution, whatever is printed
on it: its bitmap is too large to be drawn. -/
theorem largest_page_refused :
    (VirtualPrinterProfile.systemDriverPage 500 500 600).validate = .ok () ∧
      renderForPage Sample.graphics .release Sample.libraries defaultMaxOutputBytes
          (smallestDocument .mm80) (ofAgent ⟨500, 500, 600⟩) =
        .error (.renderer (.outputTooLarge 17437465 5250000)) ∧
      ¬ Usable Sample.graphics .release Sample.libraries (ofAgent ⟨500, 500, 600⟩) .mm80 := by
  have hrefused : renderForPage Sample.graphics .release Sample.libraries defaultMaxOutputBytes
      (smallestDocument .mm80) (ofAgent ⟨500, 500, 600⟩) =
      .error (.renderer (.outputTooLarge 17437465 5250000)) := rfl
  refine ⟨by decide, hrefused, ?_⟩
  rintro ⟨rendered, hrendered, -⟩
  rw [hrefused] at hrendered
  cases hrendered

end Oppa.Renderer.Page
