import Mathlib.Algebra.Order.Field.Rat
import Oppa.Renderer.Pdf

/-!
# The pixel budget of PDF pages

How large the bitmaps are that are built for a page, and how large a raster can become.

* `checkPage_ok`, `pagePixels_le`, `scaledDimension_le` — the sizes that the checks bound.
* `Renders`, `WithinBudget`, `Moderate` — the engine, the budget, and the pages that keep it.
* `withinBudget_compose`, `withinBudget_renderPage` — the bitmaps of a page, stage by stage.
* `OutputBounded`, `outputBounded` — the limits of a raster, and the order of its pages.
* **`pdfBudget_iff`** — the pages whose bitmaps all keep the budget: an enlarged page is resized
  before its size is checked.
* `enlarged_page` — a page that is resized to more than half a billion pixels.
-/

namespace Oppa.Renderer

open Protocol Result

/-! ## Sizes -/

lemma checkPixelBudget_ok {width height : ℕ} (hok : checkPixelBudget width height = .ok ()) :
    0 < width ∧ 0 < height ∧ width * height ≤ maxPdfPixelsPerPage := by
  rw [checkPixelBudget] at hok
  split_ifs at hok with hzero hlarge
  rw [not_or] at hzero
  exact ⟨Nat.pos_of_ne_zero hzero.1, Nat.pos_of_ne_zero hzero.2, not_lt.mp hlarge⟩

/-- A size that the budget accepts has not been cut off. -/
lemma checkPixelBudget_asU32 {width height : ℕ}
    (hok : checkPixelBudget (asU32 width) (asU32 height) = .ok ()) :
    0 < width ∧ 0 < height ∧ width * height ≤ maxPdfPixelsPerPage := by
  rcases checkPixelBudget_ok hok with ⟨hwidth, hheight, hpixels⟩
  have hbudget : maxPdfPixelsPerPage = 42000000 := rfl
  have hexact {a b : ℕ} (hb : 0 < asU32 b) (hab : asU32 a * asU32 b ≤ maxPdfPixelsPerPage) :
      asU32 a = a := by
    have hle : asU32 a ≤ maxPdfPixelsPerPage := le_trans (Nat.le_mul_of_pos_right _ hb) hab
    rw [asU32] at hle ⊢
    omega
  have hw := hexact hheight hpixels
  have hh := hexact hwidth (by rwa [Nat.mul_comm])
  rw [hw, hh] at hpixels
  rw [hw] at hwidth
  rw [hh] at hheight
  exact ⟨hwidth, hheight, hpixels⟩

/-- The pages that pass the first check. -/
lemma checkPage_ok {points : ℚ × ℚ} {scale : ℚ} (hok : checkPage points scale = .ok ()) :
    0 < ⌈points.1 * scale⌉₊ ∧ 0 < ⌈points.2 * scale⌉₊ ∧
      ⌈points.1 * scale⌉₊ * ⌈points.2 * scale⌉₊ ≤ maxPdfPixelsPerPage := by
  rw [checkPage] at hok
  split_ifs at hok
  exact checkPixelBudget_asU32 hok

/-- A length is rounded to no more than it is rounded up to. -/
lemma roundHalfUp_le_ceil (value : ℚ) : roundHalfUp value ≤ ⌈value⌉₊ := by
  have hlt : value + 1 / 2 < (⌈value⌉₊ + 1 : ℕ) := by
    have hceil := Nat.le_ceil value
    push_cast
    linarith
  exact Nat.lt_succ_iff.mp ((Nat.floor_lt' (Nat.succ_ne_zero _)).mpr hlt)

lemma pagePixels_le {points scale : ℚ} (hpos : 0 < ⌈points * scale⌉₊) :
    pagePixels points scale ≤ ⌈points * scale⌉₊ := by
  refine le_trans (Nat.min_le_left _ _) ?_
  exact Nat.max_le.mpr ⟨roundHalfUp_le_ceil _, hpos⟩

lemma pagePixels_pos (points scale : ℚ) : 0 < pagePixels points scale := by
  rw [pagePixels, asU32]
  have hmax : 1 ≤ max (roundHalfUp (points * scale)) 1 := Nat.le_max_right _ _
  omega

/-- What is not enlarged does not grow. -/
lemma scaledDimension_le {value : ℕ} {factor : ℚ} (hvalue : 0 < value) (hfactor : factor ≤ 1) :
    scaledDimension value factor ≤ value := by
  have hround : roundHalfUp (value * factor) ≤ value := by
    have hle : (value : ℚ) * factor ≤ value :=
      mul_le_of_le_one_right (Nat.cast_nonneg value) hfactor
    refine le_trans (roundHalfUp_le_ceil _) ?_
    exact Nat.ceil_le.mpr hle
  exact Nat.max_le.mpr ⟨le_trans (Nat.min_le_left _ _) hround, hvalue⟩

/-- Only a percentage enlarges. -/
lemma scalingFactor_le_one {scaling : Option Scaling} {page : ℕ × ℕ} {target : Option (ℕ × ℕ)}
    (hscaling : ∀ percent, scaling ≠ some (.percent percent)) :
    scalingFactor scaling page target ≤ 1 := by
  cases scaling with
  | none => exact le_refl _
  | some scaling =>
      cases scaling with
      | actual => exact le_refl _
      | percent percent => exact absurd rfl (hscaling percent)
      | fit =>
          cases target with
          | none => exact le_refl _
          | some size => exact min_le_right _ _

section Bitmaps

variable {Page : Type} {engine : Engine Page} {settings : PrintSettings} {dpi : ℕ}

/-- The engine returns bitmaps of the size that is asked of it, up to the rounding. -/
def Renders (engine : Engine Page) : Prop :=
  ∀ page scale image, engine.render page scale = .ok image →
    image.width ≤ ⌈(engine.dimensions page).1 * scale⌉₊ ∧
      image.height ≤ ⌈(engine.dimensions page).2 * scale⌉₊

/-- No bitmap exceeds the budget. -/
def WithinBudget (built : List RgbaImage) : Prop :=
  ∀ image ∈ built, image.pixels ≤ maxPdfPixelsPerPage

/-- A page that is not enlarged beyond the budget. -/
def Moderate (engine : Engine Page) (settings : PrintSettings) (dpi : ℕ) (page : Page) : Prop :=
  ∀ percent image size, settings.scaling = some (.percent percent) →
    checkPage (engine.dimensions page) (dpi / 72) = .ok () →
    engine.render page (dpi / 72) = .ok image → target settings dpi = .ok size →
    scaledDimension (pagePixels (engine.dimensions page).1 (dpi / 72)) (percent.toNat / 100) *
      scaledDimension (pagePixels (engine.dimensions page).2 (dpi / 72)) (percent.toNat / 100) ≤
        maxPdfPixelsPerPage

/-! ## The bitmaps of a page -/

lemma pixels_rotate90 (image : RgbaImage) : image.rotate90.pixels = image.pixels :=
  Nat.mul_comm _ _

/-- The canvas is checked before it is built. -/
lemma withinBudget_compose (content : RgbaImage) (size : Option (ℕ × ℕ)) :
    WithinBudget (compose engine dpi content size).2 := by
  intro image himage
  simp only [compose] at himage
  split at himage
  · cases himage
  · rename_i hok
    rw [List.mem_singleton] at himage
    rw [himage]
    exact (checkPixelBudget_ok hok).2.2

/-- The content is resized without a check. -/
lemma withinBudget_scaleContent {content : RgbaImage}
    (hcontent : content.pixels ≤ maxPdfPixelsPerPage) (width height : ℕ)
    (size : Option (ℕ × ℕ)) :
    WithinBudget (scaleContent engine dpi content width height size).2 ↔
      width * height ≤ maxPdfPixelsPerPage := by
  rw [scaleContent]
  split_ifs with hsame
  · obtain ⟨rfl, rfl⟩ := hsame
    exact iff_of_true (withinBudget_compose _ _) hcontent
  · rw [WithinBudget, List.forall_mem_cons]
    exact and_iff_left (withinBudget_compose _ _)

/-- The page as it lies on its canvas, upright or turned. -/
lemma scaled_pixels_le {width height : ℕ} (hwidth : 0 < width) (hheight : 0 < height)
    (hpage : width * height ≤ maxPdfPixelsPerPage) (turned : Bool) (scaling : Option Scaling)
    (size : Option (ℕ × ℕ)) :
    (scaledDimension (if turned then (height, width) else (width, height)).1
        (scalingFactor scaling (if turned then (height, width) else (width, height)) size) *
      scaledDimension (if turned then (height, width) else (width, height)).2
        (scalingFactor scaling (if turned then (height, width) else (width, height)) size) ≤
          maxPdfPixelsPerPage) ↔
      ∀ percent, scaling = some (.percent percent) →
        scaledDimension width (percent.toNat / 100) * scaledDimension height (percent.toNat / 100) ≤
          maxPdfPixelsPerPage := by
  by_cases hpercent : ∃ percent, scaling = some (.percent percent)
  · obtain ⟨percent, rfl⟩ := hpercent
    simp only [scalingFactor, Option.some.injEq, Scaling.percent.injEq, forall_eq']
    cases turned with
    | false => exact Iff.rfl
    | true => rw [Nat.mul_comm]; exact Iff.rfl
  · have hnone : ∀ percent, scaling ≠ some (.percent percent) :=
      fun percent heq => hpercent ⟨percent, heq⟩
    refine iff_of_true ?_ fun percent heq => absurd heq (hnone percent)
    have hle (page : ℕ × ℕ) {value : ℕ} (hvalue : 0 < value) :
        scaledDimension value (scalingFactor scaling page size) ≤ value :=
      scaledDimension_le hvalue (scalingFactor_le_one hnone)
    cases turned with
    | false => exact le_trans (Nat.mul_le_mul (hle _ hwidth) (hle _ hheight)) hpage
    | true =>
        rw [Nat.mul_comm] at hpage
        exact le_trans (Nat.mul_le_mul (hle _ hheight) (hle _ hwidth)) hpage

/-- The bitmaps of a page that has been rendered. -/
lemma withinBudget_layOut {points : ℚ × ℚ} {scale : ℚ} {content : RgbaImage}
    (hcontent : content.pixels ≤ maxPdfPixelsPerPage)
    (hpage : pagePixels points.1 scale * pagePixels points.2 scale ≤ maxPdfPixelsPerPage) :
    WithinBudget (layOut engine settings dpi points scale content).2 ↔
      ∀ size, target settings dpi = .ok size →
        ∀ percent, settings.scaling = some (.percent percent) →
          scaledDimension (pagePixels points.1 scale) (percent.toNat / 100) *
            scaledDimension (pagePixels points.2 scale) (percent.toNat / 100) ≤
              maxPdfPixelsPerPage := by
  have hstage (turned : Bool) (built : List RgbaImage) :
      WithinBudget (if turned then (if turned then content.rotate90 else content) :: built
        else built) ↔ WithinBudget built := by
    cases turned with
    | false => exact Iff.rfl
    | true =>
        rw [if_pos rfl, if_pos rfl, WithinBudget, List.forall_mem_cons, pixels_rotate90]
        exact and_iff_right hcontent
  have hturned (turned : Bool) :
      (if turned then content.rotate90 else content).pixels ≤ maxPdfPixelsPerPage := by
    cases turned with
    | false => exact hcontent
    | true => exact (pixels_rotate90 content).trans_le hcontent
  simp only [layOut, hstage]
  cases target settings dpi with
  | error error => exact iff_of_true (fun image himage => nomatch himage) nofun
  | ok size =>
      simp only [Except.ok.injEq, forall_eq']
      rw [withinBudget_scaleContent (hturned _)]
      exact scaled_pixels_le (pagePixels_pos _ _) (pagePixels_pos _ _) hpage _ _ _

/-- **The bitmaps of a page** keep the budget exactly when the page is not enlarged beyond it. -/
lemma withinBudget_renderPage (hrenders : Renders engine) (page : Page) :
    WithinBudget (renderPage engine settings dpi page).2 ↔ Moderate engine settings dpi page := by
  rw [renderPage, Moderate]
  cases hcheck : checkPage (engine.dimensions page) (dpi / 72) with
  | error error => exact iff_of_true (fun image himage => nomatch himage) nofun
  | ok _ =>
      cases hrender : engine.render page (dpi / 72) with
      | error text => exact iff_of_true (fun image himage => nomatch himage) nofun
      | ok content =>
          obtain ⟨hwidth, hheight, hpixels⟩ := checkPage_ok hcheck
          obtain ⟨hcolumns, hrows⟩ := hrenders page _ content hrender
          have hcontent : content.pixels ≤ maxPdfPixelsPerPage :=
            le_trans (Nat.mul_le_mul hcolumns hrows) hpixels
          have hpage := le_trans (Nat.mul_le_mul (pagePixels_le hwidth) (pagePixels_le hheight))
            hpixels
          simp only [WithinBudget, List.forall_mem_cons, hcontent, true_and]
          refine (withinBudget_layOut hcontent hpage).trans ?_
          constructor
          · intro h percent image size hscaling _ _ hsize
            exact h size hsize percent hscaling
          · intro h size hsize percent hscaling
            exact h percent content size hscaling trivial rfl hsize

/-! ## The raster of a document -/

/-- What a raster contains, and how much. -/
structure OutputBounded (engine : Engine Page) (dpi : ℕ) (document : PdfPrintDocument)
    (output : RasterDocument) : Prop where
  pages : output.pages.length ≤ maxPdfRasterOutputPages
  bytes : (output.pages.map (·.data.length)).sum ≤ maxPdfRasterBytes
  order : document.selectedPages.Pairwise (· < ·)
  repeated : ∃ pages selection, loadPdf engine document.bytes = .ok pages ∧
    (resolvePageSelection document.settings.pageRanges pages.length) =
      .ok document.selectedPages ∧
    List.Forall₂ (fun index raster => ∃ page, pages[index]? = some page ∧
      (renderPage engine document.settings dpi page).1 = .ok raster)
        document.selectedPages selection ∧
    output.pages = (List.replicate (copies document.settings) selection).flatten

/-- A number below a limit has not been cut off. -/
lemma asUsize_le {n : ℕ} (hle : asUsize n ≤ maxPdfRasterBytes) : asUsize n = n := by
  have hlimit : maxPdfRasterBytes = 67108864 := rfl
  rw [asUsize] at hle ⊢
  omega

/-- One turn of the loop: the bytes of the selection are those of all copies. -/
lemma selectionBytes_step {bytes length copies : ℕ}
    (hle : ¬ maxPdfRasterBytes < asUsize (asUsize (bytes + length) * copies)) :
    (copies = 0 ∨ asUsize (bytes + length) = bytes + length) ∧
      asUsize (bytes + length) * copies ≤ maxPdfRasterBytes := by
  have hproduct := asUsize_le (not_lt.mp hle)
  rw [hproduct, not_lt] at hle
  refine ⟨?_, hle⟩
  rcases Nat.eq_zero_or_pos copies with hzero | hpos
  · exact .inl hzero
  · exact .inr (asUsize_le (le_trans (Nat.le_mul_of_pos_right _ hpos) hle))

/-- **A run over the selected pages** renders each of them, and keeps the byte limit. -/
lemma renderSelection_ok {pages : List Page} {passed : ℕ → Bool} {selected : List ℕ}
    {turn bytes : ℕ} {rasters : List RasterPage}
    (hok : (renderSelection engine settings dpi pages passed turn bytes selected).1 = .ok rasters)
    (hbytes : bytes * copies settings ≤ maxPdfRasterBytes) :
    List.Forall₂ (fun index raster => ∃ page, pages[index]? = some page ∧
      (renderPage engine settings dpi page).1 = .ok raster) selected rasters ∧
    (bytes + (rasters.map (·.data.length)).sum) * copies settings ≤ maxPdfRasterBytes := by
  induction selected generalizing turn bytes rasters with
  | nil =>
      cases hok
      exact ⟨.nil, hbytes⟩
  | cons index selected ih =>
      rw [renderSelection] at hok
      split at hok
      · cases hok
      · cases hok
      · rename_i page _ hpage
        dsimp only at hok
        split at hok
        · cases hok
        · rename_i raster hraster
          split_ifs at hok with hlarge
          · obtain ⟨rest, hrest, rfl⟩ := map_eq_ok.mp hok
            obtain ⟨hexact, hle⟩ := selectionBytes_step hlarge
            obtain ⟨hall, hsum⟩ := ih hrest hle
            refine ⟨.cons ⟨page, hpage, hraster⟩ hall, ?_⟩
            rw [List.map_cons, List.sum_cons, ← Nat.add_assoc]
            rcases hexact with hzero | hexact
            · rw [hzero, Nat.mul_zero]
              exact Nat.zero_le _
            · rwa [hexact] at hsum

/-- The bitmaps of a raster are those of its pages. -/
lemma withinBudget_renderSelection {pages : List Page} {passed : ℕ → Bool} {selected : List ℕ}
    (hpages : ∀ page ∈ pages, WithinBudget (renderPage engine settings dpi page).2)
    (turn bytes : ℕ) :
    WithinBudget (renderSelection engine settings dpi pages passed turn bytes selected).2 := by
  induction selected generalizing turn bytes with
  | nil => nofun
  | cons index selected ih =>
      intro image himage
      rw [renderSelection] at himage
      split at himage
      · cases himage
      · cases himage
      · rename_i page _ hpage
        have hbuilt := hpages page (List.mem_of_getElem? hpage)
        dsimp only at himage
        split at himage
        · exact hbuilt image himage
        · split_ifs at himage with hlarge
          · exact hbuilt image himage
          · rcases List.mem_append.mp himage with hhere | hrest
            · exact hbuilt image hhere
            · exact ih _ _ image hrest

/-- The whole selection is repeated. -/
lemma repeated_bounds (n : ℕ) (selection : List RasterPage) :
    (List.replicate n selection).flatten.length = selection.length * n ∧
      ((List.replicate n selection).flatten.map (·.data.length)).sum =
        (selection.map (·.data.length)).sum * n := by
  induction n with
  | zero => exact ⟨rfl, rfl⟩
  | succ n ih =>
      obtain ⟨hlength, hsum⟩ := ih
      rw [List.replicate_succ, List.flatten_cons, List.length_append, List.map_append,
        List.sum_append, hlength, hsum, Nat.mul_succ, Nat.mul_succ]
      omega

lemma validatePdf_ok {bytes : List UInt8} {document : PdfPrintDocument}
    (hok : validatePdf engine bytes settings = .ok document) :
    ∃ pages, loadPdf engine document.bytes = .ok pages ∧
      resolvePageSelection document.settings.pageRanges pages.length = .ok document.selectedPages ∧
      document.selectedPages.length * copies document.settings ≤ maxPdfRasterOutputPages := by
  rw [validatePdf] at hok
  split_ifs at hok
  obtain ⟨pages, hpages, hok⟩ := bind_eq_ok.mp hok
  split_ifs at hok
  obtain ⟨selected, hselected, hok⟩ := bind_eq_ok.mp hok
  rw [mapError_eq_ok] at hselected
  split_ifs at hok with hlarge
  · cases hok
    exact ⟨pages, hpages, hselected, not_lt.mp hlarge⟩

/-- A selection is in the order of the document. -/
lemma pairwise_resolvePageSelection {ranges : Option String} {pageCount : ℕ} {selected : List ℕ}
    (hok : resolvePageSelection ranges pageCount = .ok selected) : selected.Pairwise (· < ·) := by
  cases ranges with
  | none =>
      cases hok
      exact List.pairwise_lt_range
  | some ranges =>
      rw [resolvePageSelection] at hok
      obtain ⟨-, -, hok⟩ := bind_eq_ok.mp hok
      obtain ⟨table, -, hok⟩ := bind_eq_ok.mp hok
      cases hok
      exact pairwise_chosenPages table

/-- The raster of a document that was validated. -/
lemma outputBounded {bytes : List UInt8} {document : PdfPrintDocument} {passed : ℕ → Bool}
    {output : RasterDocument} (hdocument : validatePdf engine bytes settings = .ok document)
    (hok : (rasterizePdf engine dpi document passed).1 = .ok output) :
    OutputBounded engine dpi document output := by
  obtain ⟨pages, hpages, hselected, hcount⟩ := validatePdf_ok hdocument
  rw [rasterizePdf] at hok
  split_ifs at hok
  rw [hpages] at hok
  obtain ⟨selection, hselection, hok⟩ := bind_eq_ok.mp hok
  obtain ⟨-, -, hok⟩ := bind_eq_ok.mp hok
  cases hok
  obtain ⟨hall, hbytes⟩ := renderSelection_ok hselection (by rw [Nat.zero_mul]; exact Nat.zero_le _)
  obtain ⟨hlength, hsum⟩ := repeated_bounds (copies document.settings) selection
  refine ⟨?_, ?_, pairwise_resolvePageSelection hselected,
    pages, selection, hpages, hselected, hall, rfl⟩
  · rw [hlength, ← hall.length_eq]
    exact hcount
  · rw [hsum]
    rwa [Nat.zero_add] at hbytes

/-- The bitmaps of a document of moderate pages. -/
lemma withinBudget_rasterizePdf (hrenders : Renders engine) {document : PdfPrintDocument}
    (passed : ℕ → Bool) (hmoderate : ∀ pages, loadPdf engine document.bytes = .ok pages →
      ∀ page ∈ pages, Moderate engine document.settings dpi page) :
    WithinBudget (rasterizePdf engine dpi document passed).2 := by
  rw [rasterizePdf]
  split_ifs
  · cases hpages : loadPdf engine document.bytes with
    | error error => nofun
    | ok pages =>
        refine withinBudget_renderSelection (fun page hpage => ?_) 0 0
        exact (withinBudget_renderPage hrenders page).mpr (hmoderate pages hpages page hpage)
  · nofun

/-- **The pixel budget of PDF pages.**  Every bitmap that is built for a page keeps the budget,
whatever the page, the settings and the resolution are, exactly when a percentage does not enlarge
the page beyond it; and a raster keeps its limits and repeats the selected pages in order. -/
theorem pdfBudget_iff (hrenders : Renders engine) :
    (∀ settings dpi page, WithinBudget (renderPage engine settings dpi page).2 ↔
      Moderate engine settings dpi page) ∧
    (∀ dpi document passed, (∀ pages, loadPdf engine document.bytes = .ok pages →
        ∀ page ∈ pages, Moderate engine document.settings dpi page) →
      WithinBudget (rasterizePdf engine dpi document passed).2) ∧
    ∀ bytes settings document dpi passed output,
      validatePdf engine bytes settings = .ok document →
      (rasterizePdf engine dpi document passed).1 = .ok output →
        OutputBounded engine dpi document output := by
  refine ⟨?_, ?_, ?_⟩
  · intro settings dpi page
    exact withinBudget_renderPage hrenders page
  · intro dpi document passed hmoderate
    exact withinBudget_rasterizePdf hrenders passed hmoderate
  · intro bytes settings document dpi passed output hdocument hok
    exact outputBounded hdocument hok

end Bitmaps

/-! ## A page that is enlarged -/

/-- An engine of one page of letter size, which rounds down. -/
def letterEngine : Engine Unit where
  load _ := .pages [()]
  dimensions _ := (612, 792)
  render _ scale := .ok (.fromPixel ⌊612 * scale⌋₊ ⌊792 * scale⌋₊ .white)
  resample image _ _ := image.pixel
  blend _ top := top

lemma renders_letterEngine : Renders letterEngine := by
  intro page scale image himage
  cases himage
  exact ⟨Nat.floor_le_ceil _, Nat.floor_le_ceil _⟩

/-- The page is printed on A4 paper, at a percentage. -/
def enlarged (percent : UInt16) : PrintSettings :=
  ⟨none, some (.standard .a4), none, some (.percent percent), none, none⟩

/-- The page at 600 dots per inch. -/
def letterBitmap : RgbaImage := .fromPixel 5100 6600 .white

lemma target_enlarged (percent : UInt16) :
    target (enlarged percent) 600 = .ok (some (4961, 7016)) := by
  have hpixels : targetPixels (.standard .a4) none 600 = .ok (4961, 7016) := by decide +kernel
  show (targetPixels (.standard .a4) none 600).map some = _
  rw [hpixels]
  rfl

lemma renderPage_enlarged (percent : UInt16) {width height : ℕ}
    (hwidth : scaledDimension 5100 (percent.toNat / 100) = width)
    (hheight : scaledDimension 6600 (percent.toNat / 100) = height) :
    renderPage letterEngine (enlarged percent) 600 () =
      ((scaleContent letterEngine 600 letterBitmap width height (some (4961, 7016))).1,
        letterBitmap ::
          (scaleContent letterEngine 600 letterBitmap width height (some (4961, 7016))).2) := by
  have hcheck : checkPage (letterEngine.dimensions ()) ((600 : ℕ) / 72) = .ok () := by
    decide +kernel
  have hrender : letterEngine.render () ((600 : ℕ) / 72) = .ok letterBitmap := by
    have hcolumns : ⌊(612 : ℚ) * ((600 : ℕ) / 72)⌋₊ = 5100 := by decide +kernel
    have hrows : ⌊(792 : ℚ) * ((600 : ℕ) / 72)⌋₊ = 6600 := by decide +kernel
    simp only [letterEngine, hcolumns, hrows]
    rfl
  have hcolumns : pagePixels (letterEngine.dimensions ()).1 ((600 : ℕ) / 72) = 5100 := by
    decide +kernel
  have hrows : pagePixels (letterEngine.dimensions ()).2 ((600 : ℕ) / 72) = 6600 := by
    decide +kernel
  have hlaidOut : layOut letterEngine (enlarged percent) 600 (letterEngine.dimensions ())
      ((600 : ℕ) / 72) letterBitmap =
        scaleContent letterEngine 600 letterBitmap width height (some (4961, 7016)) := by
    have hturns : turns (enlarged percent) 5100 6600 = false := rfl
    rw [← hwidth, ← hheight, layOut]
    simp only [target_enlarged, hcolumns, hrows, hturns]
    rfl
  rw [renderPage]
  simp only [hcheck, hrender, hlaidOut]

/-- A page that is not enlarged. -/
theorem pdfBudget_iff_actual :
    WithinBudget (renderPage letterEngine (enlarged 100) 600 ()).2 := by
  refine ((pdfBudget_iff renders_letterEngine).1 (enlarged 100) 600 ()).mpr ?_
  intro percent image size hscaling _ _ _
  cases hscaling
  decide +kernel

/-- **An enlarged page.**  The settings are valid and the page is rendered, by way of a bitmap of
more than half a billion pixels. -/
theorem enlarged_page :
    (enlarged 400).validate = .ok () ∧
      (renderPage letterEngine (enlarged 400) 600 ()).1.isOk = true ∧
      ∃ image ∈ (renderPage letterEngine (enlarged 400) 600 ()).2,
        image.pixels = 20400 * 26400 ∧ maxPdfPixelsPerPage < image.pixels := by
  have hcolumns : scaledDimension 5100 ((400 : UInt16).toNat / 100) = 20400 := by decide +kernel
  have hrows : scaledDimension 6600 ((400 : UInt16).toNat / 100) = 26400 := by decide +kernel
  rw [renderPage_enlarged 400 hcolumns hrows]
  refine ⟨by decide, rfl, letterEngine.resize letterBitmap 20400 26400, ?_, rfl, ?_⟩
  · exact List.mem_cons_of_mem _ List.mem_cons_self
  · show maxPdfPixelsPerPage < 20400 * 26400
    decide

end Oppa.Renderer
