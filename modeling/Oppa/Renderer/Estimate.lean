import Oppa.Renderer.Advance
import Oppa.Renderer.EscPos

/-!
# The estimate of the height of a receipt

A receipt is drawn on a canvas whose height is estimated beforehand, by formulas of its own.  This
module says when the estimate is enough, in a release build.

* `pageOverflow_iff` — a run over the operations overflows exactly when their heights add up to more
  than the canvas has.
* `shortfall`, `surplus` — by how many dots the estimate of an operation is too low or too high.

**`estimate_suffices_iff`** compares the two.  The right column of a row is drawn one character
narrower than it is estimated when the paper holds a multiple of five characters, images and barcodes
that are less than a dot high are drawn one dot high, and the height of very many lines wraps; the
estimate begins with four times the glyph scale to spare.
-/

namespace Oppa.Renderer.Page

open Protocol Text Result Loops

/-! ## Drawing in a release build -/

section Drawing

variable {width height dpi : ℕ}

lemma preserves_setPackedBit (x y : ℕ) :
    Preserves (MonoCanvas.HasSize width height dpi) fun canvas =>
      canvas.setPackedBit .release x y := by
  intro canvas hsize
  obtain ⟨index, hindex⟩ := Build.exists_u32_release (y * canvas.stride + x / 8)
  refine ⟨_, bind_eq_ok.mpr ⟨index, hindex, rfl⟩, ?_⟩
  exact ⟨hsize.width_eq, hsize.height_eq, hsize.dpi_eq⟩

lemma preserves_fillRect (x y w h : ℕ) :
    Preserves (MonoCanvas.HasSize width height dpi) fun canvas =>
      canvas.fillRect .release x y w h := by
  intro canvas hsize
  refine Preserves.forEach (fun py _ => ?_) canvas hsize
  exact Preserves.forEach fun px _ => preserves_setPackedBit px py

lemma preserves_blit (image : ReceiptImage) (x y w h : ℕ) :
    Preserves (MonoCanvas.HasSize width height dpi) fun canvas =>
      canvas.blitReceiptImage .release image x y w h := by
  intro canvas hsize
  simp only [MonoCanvas.blitReceiptImage]
  split_ifs
  · exact ⟨canvas, rfl, hsize⟩
  · refine Preserves.forEach (fun targetY _ => Preserves.forEach fun targetX _ => ?_) canvas hsize
    intro canvas hsize
    obtain ⟨index, hindex⟩ := Build.exists_u32_release
      (satMul targetY image.height / h * image.stride + satMul targetX image.width / w / 8)
    have hpixel : Preserves (MonoCanvas.HasSize width height dpi) fun canvas =>
        if Bitmap.testBit image.data index (satMul targetX image.width / w % 8) = true then
          canvas.setPackedBit .release (satAdd x targetX) (satAdd y targetY)
        else .ok canvas := Preserves.when fun _ => preserves_setPackedBit _ _
    obtain ⟨drawn, hdrawn, hsize'⟩ := hpixel canvas hsize
    exact ⟨drawn, bind_eq_ok.mpr ⟨index, hindex, hdrawn⟩, hsize'⟩

lemma preserves_drawDot (bold : Bool) (x y scale row column : ℕ) :
    Preserves (MonoCanvas.HasSize width height dpi) fun canvas =>
      drawDot .release bold x y scale row column canvas := by
  intro canvas hsize
  obtain ⟨px, hpx⟩ := Build.exists_u32_release (x + column * scale)
  obtain ⟨py, hpy⟩ := Build.exists_u32_release (y + row * scale)
  have hstroke : Preserves (MonoCanvas.HasSize width height dpi) fun canvas =>
      if bold = true then canvas.fillRect .release (satAdd px scale) py 1 scale else .ok canvas :=
    Preserves.when fun _ => preserves_fillRect _ _ _ _
  obtain ⟨drawn, hdrawn, hsize'⟩ :=
    Preserves.andThen (preserves_fillRect px py scale scale) hstroke canvas hsize
  exact ⟨drawn, bind_eq_ok.mpr ⟨px, hpx, bind_eq_ok.mpr ⟨py, hpy, hdrawn⟩⟩, hsize'⟩

variable {gfx : Graphics}

lemma preserves_drawChar (bold : Bool) (y scale x : ℕ) (c : Char) :
    Preserves (MonoCanvas.HasSize width height dpi) fun canvas =>
      drawChar gfx .release bold y scale canvas x c := by
  simp only [drawChar]
  split
  · refine Preserves.forEach fun row _ => Preserves.forEach fun column _ => ?_
    exact Preserves.when fun _ => preserves_drawDot _ _ _ _ _ _
  · exact Preserves.skip

lemma preserves_drawText (value : List Char) (placement : TextPlacement) :
    Preserves (MonoCanvas.HasSize width height dpi) fun canvas =>
      drawText gfx .release canvas value placement := by
  intro canvas hsize
  have hchar : ∀ x, ∀ c ∈ value, Preserves (MonoCanvas.HasSize width height dpi) fun canvas =>
      drawChar gfx .release placement.bold placement.y placement.scale canvas x c :=
    fun x c _ => preserves_drawChar _ _ _ _ _
  obtain ⟨drawn, hdrawn, hsize'⟩ := Preserves.sweep (satAdd · (8 * placement.scale)) hchar _ hsize
  exact ⟨drawn, bind_eq_ok.mpr ⟨_, hdrawn, rfl⟩, hsize'⟩

lemma preserves_drawColumn (placement : TextPlacement) (line : Option (List Char)) :
    Preserves (MonoCanvas.HasSize width height dpi) fun canvas =>
      drawColumn gfx .release placement line canvas := by
  cases line with
  | none => exact Preserves.skip
  | some line => exact preserves_drawText line placement

lemma preserves_drawRowLine (lines : List (List Char) × List (List Char))
    (left receiptWidth scale y index : ℕ) :
    Preserves (MonoCanvas.HasSize width height dpi) fun canvas =>
      drawRowLine gfx .release lines left receiptWidth scale canvas y index :=
  Preserves.andThen (preserves_drawColumn _ _) (preserves_drawColumn _ _)

lemma preserves_drawQr (code : QrCode) (side x y : ℕ) :
    Preserves (MonoCanvas.HasSize width height dpi) fun canvas =>
      drawQr .release code side x y canvas := by
  refine Preserves.forEach fun moduleY _ => Preserves.forEach fun moduleX _ => ?_
  refine Preserves.when fun _ canvas hsize => ?_
  obtain ⟨px, hpx⟩ := Build.exists_u32_release (x + 4 * side + moduleX * side)
  obtain ⟨py, hpy⟩ := Build.exists_u32_release (y + 4 * side + moduleY * side)
  obtain ⟨drawn, hdrawn, hsize'⟩ := preserves_fillRect px py side side canvas hsize
  exact ⟨drawn, bind_eq_ok.mpr ⟨px, hpx, bind_eq_ok.mpr ⟨py, hpy, hdrawn⟩⟩, hsize'⟩

lemma preserves_drawBars (bars : List UInt8) (side x y h : ℕ) :
    Preserves (MonoCanvas.HasSize width height dpi) fun canvas =>
      drawBars .release bars side x y h canvas := by
  refine Preserves.forEach fun bar _ => Preserves.when fun _ canvas hsize => ?_
  obtain ⟨px, hpx⟩ := Build.exists_u32_release (x + bar.2 * side)
  obtain ⟨drawn, hdrawn, hsize'⟩ := preserves_fillRect px y side h canvas hsize
  exact ⟨drawn, bind_eq_ok.mpr ⟨px, hpx, hdrawn⟩, hsize'⟩

lemma preserves_drawBarcode (bars : List UInt8) (left receiptWidth y h : ℕ) :
    Preserves (MonoCanvas.HasSize width height dpi) fun canvas =>
      drawBarcode .release bars left receiptWidth y h canvas := by
  intro canvas hsize
  obtain ⟨barcodeWidth, hwidth⟩ := Build.exists_u32_release
    (bars.length * barSide canvas.dpi receiptWidth bars.length)
  obtain ⟨drawn, hdrawn, hsize'⟩ := preserves_drawBars bars
    (barSide canvas.dpi receiptWidth bars.length) (satAdd left ((receiptWidth - barcodeWidth) / 2))
    y h canvas hsize
  exact ⟨drawn, bind_eq_ok.mpr ⟨barcodeWidth, hwidth, hdrawn⟩, hsize'⟩

lemma preserves_drawLabel (humanReadable : Bool) (value : List Char) (left receiptWidth y : ℕ) :
    Preserves (MonoCanvas.HasSize width height dpi) fun canvas =>
      drawLabel gfx .release humanReadable value left receiptWidth y canvas := by
  intro canvas hsize
  simp only [drawLabel]
  split_ifs
  · exact preserves_drawText value _ canvas hsize
  · exact ⟨canvas, rfl, hsize⟩

variable {lib : Libraries}

/-- **What can be drawn is drawn, and moves the position as computed.** -/
theorem renderElement_release {left receiptWidth y : ℕ} {canvas : MonoCanvas}
    {element : ReceiptElement} (hsize : canvas.HasSize width height dpi)
    (hdrawable : Drawable gfx receiptWidth element) :
    ∃ drawn, renderElement gfx .release lib left receiptWidth canvas y element =
        .ok (drawn, advance gfx lib dpi receiptWidth height y element) ∧
      drawn.HasSize width height dpi := by
  have hdpi := hsize.dpi_eq
  have hheight := hsize.height_eq
  cases element with
  | text value alignment bold =>
      simp only [renderElement, advance, hdpi]
      exact Preserves.sweep _ (fun n line _ => preserves_drawText _ _) y hsize
  | row first right =>
      simp only [renderElement, advance, hdpi]
      generalize rowLines lib first.toList right.toList (maxChars dpi receiptWidth) = lines
      have hline : ∀ n, ∀ index ∈ List.range (max lines.1.length lines.2.length),
          Preserves (MonoCanvas.HasSize width height dpi) fun canvas =>
            drawRowLine gfx .release lines left receiptWidth (glyphScale dpi) canvas n index :=
        fun n index _ => preserves_drawRowLine _ _ _ _ _ _
      have hsweep := Preserves.sweep (satAdd · (lineHeight dpi)) hline y hsize
      rwa [List.length_range] at hsweep
  | divider =>
      obtain ⟨drawn, hdrawn, hsize'⟩ := preserves_fillRect left
        (satAdd y (lineHeight canvas.dpi / 2)) receiptWidth (max (canvas.dpi / 150) 1) canvas hsize
      refine ⟨drawn, bind_eq_ok.mpr ⟨drawn, hdrawn, ?_⟩, hsize'⟩
      rw [hdpi]
      rfl
  | image image =>
      obtain ⟨drawn, hdrawn, hsize'⟩ := preserves_blit image left y _ _ canvas hsize
      refine ⟨drawn, bind_eq_ok.mpr ⟨drawn, hdrawn, ?_⟩, hsize'⟩
      rw [hdpi, hheight]
      rfl
  | qr value =>
      obtain ⟨code, hcode⟩ := hdrawable
      obtain ⟨drawn, hdrawn, hsize'⟩ := preserves_drawQr code _ _ y canvas hsize
      refine ⟨drawn, bind_eq_ok.mpr ⟨code, hcode, bind_eq_ok.mpr ⟨drawn, hdrawn, ?_⟩⟩, hsize'⟩
      simp only [advance, hcode, hdpi]
      rfl
  | barcode format value heightDots humanReadable =>
      obtain ⟨bars, hbars, hfits⟩ := hdrawable
      obtain ⟨drawn, hdrawn, hsize'⟩ := preserves_drawBarcode bars left receiptWidth y
        (barHeight canvas.dpi heightDots) canvas hsize
      obtain ⟨labelled, hlabelled, hsize''⟩ := preserves_drawLabel humanReadable value.toList left
        receiptWidth (satAdd (satAdd y (barHeight canvas.dpi heightDots)) (2 * glyphScale canvas.dpi)) drawn hsize'
      refine ⟨labelled, bind_eq_ok.mpr ⟨bars, hbars, ?_⟩, hsize''⟩
      rw [if_neg (Nat.not_lt.mpr hfits)]
      refine bind_eq_ok.mpr ⟨drawn, hdrawn, bind_eq_ok.mpr ⟨labelled, hlabelled, ?_⟩⟩
      rw [hdpi]
      rfl
  | feed lines =>
      refine ⟨canvas, ?_, hsize⟩
      simp only [renderElement, advance, hdpi]
  | cut => exact ⟨canvas, rfl, hsize⟩

end Drawing

variable (gfx : Graphics) (lib : Libraries)

/-! ## When the page overflows -/

/-- The operations before the first one that cannot be drawn, all of which are drawn. -/
def reached (receiptWidth : ℕ) (elements : List ReceiptElement) : List ReceiptElement :=
  elements.takeWhile (Drawable gfx receiptWidth ·)

/-- The operations from the first one that cannot be drawn on. -/
def unreached (receiptWidth : ℕ) (elements : List ReceiptElement) : List ReceiptElement :=
  elements.dropWhile (Drawable gfx receiptWidth ·)

variable {gfx lib}

/-- One turn of the loop, for an operation that can be drawn. -/
lemma renderNext_release {dpi receiptWidth width height : ℕ} (left y : ℕ) {canvas : MonoCanvas}
    {element : ReceiptElement} (hsize : canvas.HasSize width height dpi)
    (hdrawable : Drawable gfx receiptWidth element) :
    (∃ drawn, renderNext gfx .release lib left receiptWidth (canvas, y) element =
        .ok (drawn, advance gfx lib dpi receiptWidth height y element) ∧
      drawn.HasSize width height dpi ∧
      advance gfx lib dpi receiptWidth height y element ≤ height) ∨
    (renderNext gfx .release lib left receiptWidth (canvas, y) element = .error .pageOverflow ∧
      height < advance gfx lib dpi receiptWidth height y element) := by
  obtain ⟨drawn, hdrawn, hsize'⟩ : ∃ drawn, renderElement gfx .release lib left receiptWidth canvas y
      element = .ok (drawn, advance gfx lib dpi receiptWidth height y element) ∧
      drawn.HasSize width height dpi := renderElement_release hsize hdrawable
  have hnext : renderNext gfx .release lib left receiptWidth (canvas, y) element =
      if height < advance gfx lib dpi receiptWidth height y element then .error .pageOverflow
      else .ok (drawn, advance gfx lib dpi receiptWidth height y element) := by
    rw [renderNext, hdrawn, ← hsize'.height_eq]
    rfl
  rw [hnext]
  split_ifs with hbelow
  · exact .inr ⟨rfl, hbelow⟩
  · exact .inl ⟨drawn, rfl, hsize', Nat.le_of_not_lt hbelow⟩

/-- **The page overflows exactly when the operations that are drawn are higher than it.** -/
theorem pageOverflow_iff {dpi receiptWidth width height left : ℕ} (hpaper : Paper dpi receiptWidth)
    (hheight : height < 2 ^ 32 - 1) {elements : List ReceiptElement} {canvas : MonoCanvas} {y : ℕ}
    (hsize : canvas.HasSize width height dpi) (hy : y ≤ height) :
    elements.foldlM (renderNext gfx .release lib left receiptWidth) (canvas, y) =
        .error .pageOverflow ↔
      height < y + ((reached gfx receiptWidth elements).map
        (drawnHeight gfx lib dpi receiptWidth)).sum := by
  induction elements generalizing canvas y with
  | nil =>
      refine iff_of_false (fun h => nomatch h) ?_
      show ¬ height < y + 0
      omega
  | cons element elements ih =>
      rw [List.foldlM_cons]
      by_cases hdrawable : Drawable gfx receiptWidth element
      · have hspec : min (advance gfx lib dpi receiptWidth height y element) (height + 1) =
            min (y + drawnHeight gfx lib dpi receiptWidth element) (height + 1) :=
          hpaper.advance_spec hheight hy element
        have hreached : reached gfx receiptWidth (element :: elements) =
            element :: reached gfx receiptWidth elements :=
          List.takeWhile_cons_of_pos (decide_eq_true hdrawable)
        rw [hreached, List.map_cons, List.sum_cons]
        obtain ⟨drawn, hnext, hsize', hle⟩ | ⟨hnext, hbelow⟩ :
            (∃ drawn, renderNext gfx .release lib left receiptWidth (canvas, y) element =
              .ok (drawn, advance gfx lib dpi receiptWidth height y element) ∧ _) ∨ _ :=
          renderNext_release left y hsize hdrawable
        · rw [hnext]
          show List.foldlM _ (drawn, _) elements = _ ↔ _
          rw [ih hsize' hle]
          omega
        · rw [hnext]
          refine iff_of_true rfl ?_
          omega
      · obtain ⟨e, hnext, hencoding⟩ : ∃ e, renderNext gfx .release lib left receiptWidth (canvas, y)
            element = .error e ∧ IsEncodingError e := renderNext_of_not_drawable hdrawable
        have hnone : reached gfx receiptWidth (element :: elements) = [] :=
          List.takeWhile_cons_of_neg (by simpa using hdrawable)
        rw [hnext, hnone]
        refine iff_of_false (fun hoverflow => ?_) ?_
        · cases hoverflow
          cases hencoding
        · show ¬ height < y + 0
          omega

/-! ## What is planned -/

variable (gfx lib)

/-- The planned height of some lines; the product wraps. -/
def plannedLines (dpi n : ℕ) : ℕ := lengthU32 (max n 1) * lineHeight dpi % 2 ^ 32

/-- The planned height of an image, without the gap below it. -/
def plannedImage (dpi : ℕ) (image : ReceiptImage) : ℕ :=
  min (satMul image.height dpi / max image.dpi 1) maxReceiptImageHeight

/-- The height that a release build plans for an operation whose content can be encoded. -/
def plannedHeight (dpi width : ℕ) : ReceiptElement → ℕ
  | .text value _ _ => plannedLines dpi (wrapText lib value.toList (maxChars dpi width)).length
  | .row first right =>
      plannedLines dpi (estimatedRowLines lib first.toList right.toList (maxChars dpi width))
  | .divider => lineHeight dpi
  | .image image => plannedImage dpi image + glyphScale dpi * 2
  | .qr value =>
      match encodeQr gfx value with
      | .ok code => totalModules code * nominalModule dpi + glyphScale dpi * 2
      | .error _ => 0
  | .barcode _ _ heightDots humanReadable =>
      dpi * heightDots.toNat / 203 + (if humanReadable then lineHeight dpi else 0) +
        glyphScale dpi * 2
  | .feed lines => lines.toNat * lineHeight dpi
  | .cut => 0

variable {gfx lib}

lemma estimateLines_release {dpi n : ℕ} :
    estimateLines .release dpi n = .ok (plannedLines dpi n) := by
  rw [estimateLines, Build.u32, plannedLines]
  split_ifs with hfits hchecked
  · rw [Nat.mod_eq_of_lt hfits]
  · cases hchecked
  · rfl

lemma estimateElement_eq_ok {dpi width h : ℕ} (hpaper : Paper dpi width) {element : ReceiptElement}
    (hestimate : estimateElement gfx .release lib dpi width element = .ok h) :
    h = plannedHeight gfx lib dpi width element := by
  cases element with
  | text value alignment bold =>
      rw [estimateElement, estimateLines_release] at hestimate
      exact (Except.ok.inj hestimate).symm
  | row first right =>
      rw [estimateElement, estimateLines_release] at hestimate
      exact (Except.ok.inj hestimate).symm
  | qr value =>
      obtain ⟨code, hcode, hpure⟩ := bind_eq_ok.mp hestimate
      rw [← pure_eq_ok.mp hpure]
      have hmodules := totalModules_le hcode
      have hnominal := hpaper.nominalModule_le
      have hscale := hpaper.glyphScale_le
      have hproduct : totalModules code * nominalModule dpi ≤ 185 * 17 :=
        Nat.mul_le_mul hmodules hnominal
      simp only [plannedHeight, hcode, satAdd, satMul]
      omega
  | barcode format value heightDots humanReadable =>
      obtain ⟨bars, -, hpure⟩ := bind_eq_ok.mp hestimate
      exact (pure_eq_ok.mp hpure).symm
  | divider | image _ | feed _ | cut => exact (Except.ok.inj hestimate).symm

/-- The estimate adds up what is planned, unless the sum saturates. -/
lemma foldlM_estimate {dpi width : ℕ} (hpaper : Paper dpi width) {elements : List ReceiptElement}
    {start h : ℕ}
    (hestimate : elements.foldlM (fun height element => do
      return satAdd height (← estimateElement gfx .release lib dpi width element)) start = .ok h)
    (hsmall : h < 2 ^ 32 - 1) :
    h = start + (elements.map (plannedHeight gfx lib dpi width)).sum := by
  induction elements generalizing start with
  | nil => exact (pure_eq_ok.mp hestimate).symm
  | cons element elements ih =>
      rw [List.foldlM_cons] at hestimate
      obtain ⟨next, hnext, hrest⟩ := bind_eq_ok.mp hestimate
      obtain ⟨planned, hplanned, hpure⟩ := bind_eq_ok.mp hnext
      have hsum := ih hrest
      rw [estimateElement_eq_ok hpaper hplanned, pure_eq_ok, satAdd] at hpure
      rw [List.map_cons, List.sum_cons]
      omega

/-! ## Where the plan is too low, and where too high -/

variable (gfx lib)

/-- What the planned height of some lines loses by wrapping: nothing, unless they are 2 ^ 32 dots
high. -/
def wrapLoss (dpi n : ℕ) : ℕ := n * lineHeight dpi - lengthU32 n * lineHeight dpi % 2 ^ 32

/-- The lines that are drawn for a row. -/
def drawnRowLines (first right : String) (maxChars : ℕ) : ℕ :=
  max (rowLines lib first.toList right.toList maxChars).1.length
    (rowLines lib first.toList right.toList maxChars).2.length

/-- The lines that are planned for a row. -/
def plannedRowLines (first right : String) (maxChars : ℕ) : ℕ :=
  max (estimatedRowLines lib first.toList right.toList maxChars) 1

/-- **By how many dots the plan of an operation is too low**: rows that need more lines than planned,
images and barcodes that come out less than a dot high, and heights that wrap. -/
def shortfall (dpi width : ℕ) : ReceiptElement → ℕ
  | .text value _ _ => wrapLoss dpi (max (wrapText lib value.toList (maxChars dpi width)).length 1)
  | .row first right =>
      (drawnRowLines lib first right (maxChars dpi width) -
        plannedRowLines lib first right (maxChars dpi width)) * lineHeight dpi +
      wrapLoss dpi (plannedRowLines lib first right (maxChars dpi width))
  | .image image => if plannedImage dpi image = 0 then 1 else 0
  | .barcode _ _ heightDots _ => if dpi * heightDots.toNat / 203 = 0 then 1 else 0
  | .divider | .qr _ | .feed _ | .cut => 0

/-- **By how many dots the plan of an operation is too high**: texts without a line, rows that need
fewer lines than planned, images that are fitted to the paper, and QR codes with smaller modules. -/
def surplus (dpi width : ℕ) : ReceiptElement → ℕ
  | .text value _ _ =>
      if wrapText lib value.toList (maxChars dpi width) = [] then lineHeight dpi else 0
  | .row first right =>
      (plannedRowLines lib first right (maxChars dpi width) -
        drawnRowLines lib first right (maxChars dpi width)) * lineHeight dpi
  | .image image =>
      plannedImage dpi image - (fitDimensions (imageSize image dpi).1 (imageSize image dpi).2 width
        maxReceiptImageHeight).2
  | .qr value =>
      match encodeQr gfx value with
      | .ok code => totalModules code * (nominalModule dpi - moduleSide dpi width code)
      | .error _ => 0
  | .divider | .barcode _ _ _ _ | .feed _ | .cut => 0

variable {gfx lib}

lemma plannedLines_add_wrapLoss (dpi n : ℕ) :
    plannedLines dpi n + wrapLoss dpi (max n 1) = max n 1 * lineHeight dpi := by
  have hle : lengthU32 (max n 1) * lineHeight dpi ≤ max n 1 * lineHeight dpi :=
    Nat.mul_le_mul_right _ (min_le_left _ _)
  have hmod := Nat.mod_le (lengthU32 (max n 1) * lineHeight dpi) (2 ^ 32)
  rw [plannedLines, wrapLoss]
  omega

/-- **The plan of an operation, corrected where it is too low and where it is too high, is its
height.** -/
theorem drawnHeight_add_surplus (gfx : Graphics) (lib : Libraries) {dpi width : ℕ} (hpaper : Paper dpi width)
    (element : ReceiptElement) :
    drawnHeight gfx lib dpi width element + surplus gfx lib dpi width element =
      plannedHeight gfx lib dpi width element + shortfall lib dpi width element := by
  cases element with
  | text value alignment bold =>
      have hplan := plannedLines_add_wrapLoss dpi
        (wrapText lib value.toList (maxChars dpi width)).length
      simp only [drawnHeight, surplus, plannedHeight, shortfall, hplan]
      split_ifs with hnone
      · rw [hnone]
        simp
      · have hpos : 1 ≤ (wrapText lib value.toList (maxChars dpi width)).length :=
          List.length_pos_of_ne_nil hnone
        rw [max_eq_left hpos, Nat.add_zero]
  | row first right =>
      have hplan := plannedLines_add_wrapLoss dpi
        (estimatedRowLines lib first.toList right.toList (maxChars dpi width))
      rw [← plannedRowLines] at hplan
      simp only [drawnHeight, surplus, plannedHeight, shortfall]
      rw [← drawnRowLines]
      generalize drawnRowLines lib first right (maxChars dpi width) = drawn
      generalize plannedRowLines lib first right (maxChars dpi width) = planned at hplan ⊢
      have hsame : drawn * lineHeight dpi + (planned - drawn) * lineHeight dpi =
          planned * lineHeight dpi + (drawn - planned) * lineHeight dpi := by
        rw [← Nat.add_mul, ← Nat.add_mul]
        congr 1
        omega
      omega
  | image image =>
      have hfits : Fittable (imageSize image dpi).1 (imageSize image dpi).2 width
        maxReceiptImageHeight := hpaper.fittable image (by decide) le_rfl
      have hle := (fitDimensions_le hfits).2
      have hsource : (imageSize image dpi).2 < 2 ^ 32 := by
        simp only [imageSize, satMul]
        have hdiv := Nat.div_le_self (min (image.height * dpi) (2 ^ 32 - 1)) (max image.dpi 1)
        omega
      have hshort := fitDimensions_le_source hfits hsource
      have hsize : (imageSize image dpi).2 = max (satMul image.height dpi / max image.dpi 1) 1 := rfl
      have hplan : plannedImage dpi image =
          min (satMul image.height dpi / max image.dpi 1) maxReceiptImageHeight := rfl
      have hmax : maxReceiptImageHeight = 8192 := rfl
      simp only [drawnHeight, surplus, plannedHeight, shortfall]
      split_ifs <;> omega
  | qr value =>
      simp only [drawnHeight, surplus, plannedHeight, shortfall]
      cases hcode : encodeQr gfx value with
      | error e => rfl
      | ok code =>
          have hside : moduleSide dpi width code ≤ nominalModule dpi := moduleSide_le
          have hmodules : totalModules code * moduleSide dpi width code +
              totalModules code * (nominalModule dpi - moduleSide dpi width code) =
              totalModules code * nominalModule dpi := by
            rw [← Nat.mul_add, Nat.add_sub_cancel' hside]
          simp only
          omega
  | barcode format value heightDots humanReadable =>
      simp only [drawnHeight, surplus, plannedHeight, shortfall, barHeight]
      split_ifs <;> omega
  | divider | feed _ | cut => rfl

lemma sum_drawnHeight_add_surplus (gfx : Graphics) (lib : Libraries) {dpi width : ℕ}
    (hpaper : Paper dpi width) (elements : List ReceiptElement) :
    (elements.map (drawnHeight gfx lib dpi width)).sum +
        (elements.map (surplus gfx lib dpi width)).sum =
      (elements.map (plannedHeight gfx lib dpi width)).sum +
        (elements.map (shortfall lib dpi width)).sum := by
  induction elements with
  | nil => rfl
  | cons element elements ih =>
      have hhead := drawnHeight_add_surplus gfx lib hpaper element
      simp only [List.map_cons, List.sum_cons]
      omega

/-- **A row is planned too low only where the paper holds a multiple of five characters**: otherwise
both columns are planned as wide as they are drawn. -/
theorem row_planned {n : ℕ} (hn : n % 5 ≠ 0) (first right : List Char) :
    estimatedRowLines lib first right n =
      max (rowLines lib first right n).1.length (rowLines lib first right n).2.length := by
  have hcolumn : max (n * 2 / 5) 1 = max (n - (n * 3 / 5 + 1)) 1 := by
    have hrest : n % 5 = 1 ∨ n % 5 = 2 ∨ n % 5 = 3 ∨ n % 5 = 4 := by omega
    rcases hrest with h | h | h | h <;> omega
  rw [estimatedRowLines, hcolumn]
  rfl

/-- At the resolution of the previews every row is planned as it is drawn. -/
lemma row_planned_preview (width : ReceiptWidth) (first right : List Char) :
    estimatedRowLines lib first right (maxChars 203 (receiptPixelWidth width 203)) =
      max (rowLines lib first right (maxChars 203 (receiptPixelWidth width 203))).1.length
        (rowLines lib first right (maxChars 203 (receiptPixelWidth width 203))).2.length := by
  refine row_planned ?_ first right
  cases width <;> decide

/-! ## When the estimate is enough -/

variable (gfx lib)

/-- **What the plan lacks is covered**: by the four times the glyph scale that the estimate begins
with, by what the plan has too much, and by what is planned for operations that are not reached. -/
def Covered (layout : PrintLayout) (dpi : ℕ) : Prop :=
  let width := receiptPixelWidth layout.width dpi
  ((reached gfx width layout.elements).map (shortfall lib dpi width)).sum ≤
    4 * glyphScale dpi + ((reached gfx width layout.elements).map (surplus gfx lib dpi width)).sum +
      ((unreached gfx width layout.elements).map (plannedHeight gfx lib dpi width)).sum

instance (layout : PrintLayout) (dpi : ℕ) : Decidable (Covered gfx lib layout dpi) :=
  inferInstanceAs (Decidable (_ ≤ _))

/-- **What the estimate promises**: no position that is reached lies below it, and the receipt does
not overflow. -/
structure EstimateSuffices (layout : PrintLayout) (dpi estimated : ℕ) : Prop where
  position : ∀ drawn, renderElements gfx .release lib layout
    (.new (receiptPixelWidth layout.width dpi) estimated dpi) 0 0
    (receiptPixelWidth layout.width dpi) = .ok drawn → drawn.2 ≤ estimated
  fits : renderLayoutReceipt gfx .release lib layout dpi ≠ .error .pageOverflow

variable {gfx lib}

lemma paper_receiptPixelWidth {dpi : ℕ} (hlow : 72 ≤ dpi) (hhigh : dpi ≤ 600)
    (width : ReceiptWidth) : Paper dpi (receiptPixelWidth width dpi) := by
  have hmm : width.millimetres = 58 ∨ width.millimetres = 80 := by
    cases width
    · exact .inl rfl
    · exact .inr rfl
  have hpixels : receiptPixelWidth width dpi = (width.millimetres * dpi * 10 + 127) / 254 := by
    rw [receiptPixelWidth, mmToPx, if_pos]
    · rfl
    · rcases hmm with h | h <;> rw [h] <;> omega
  refine ⟨hlow, hhigh, ?_, ?_⟩
  · rw [hpixels]
    rcases hmm with h | h <;> rw [h] <;> omega
  · rw [hpixels]
    rcases hmm with h | h <;> rw [h] <;> omega

/-- A run that succeeds ends on the page. -/
lemma position_le {dpi receiptWidth width height left : ℕ} {elements : List ReceiptElement}
    {canvas : MonoCanvas} {y : ℕ} {drawn : MonoCanvas × ℕ}
    (hsize : canvas.HasSize width height dpi) (hy : y ≤ height)
    (h : elements.foldlM (renderNext gfx .release lib left receiptWidth) (canvas, y) = .ok drawn) :
    drawn.2 ≤ height := by
  induction elements generalizing canvas y with
  | nil =>
      rw [← pure_eq_ok.mp h]
      exact hy
  | cons element elements ih =>
      rw [List.foldlM_cons] at h
      obtain ⟨next, hnext, hrest⟩ := bind_eq_ok.mp h
      by_cases hdrawable : Drawable gfx receiptWidth element
      · obtain ⟨drawn', hnext', hsize', hle⟩ | ⟨hoverflow, -⟩ :
            (∃ drawn, renderNext gfx .release lib left receiptWidth (canvas, y) element =
              .ok (drawn, advance gfx lib dpi receiptWidth height y element) ∧ _) ∨ _ :=
          renderNext_release left y hsize hdrawable
        · rw [hnext'] at hnext
          cases hnext
          exact ih hsize' hle hrest
        · rw [hoverflow] at hnext
          cases hnext
      · obtain ⟨e, herror, -⟩ : ∃ e, renderNext gfx .release lib left receiptWidth (canvas, y)
            element = .error e ∧ IsEncodingError e := renderNext_of_not_drawable hdrawable
        rw [herror] at hnext
        cases hnext

/-- Cutting the page to its content does not overflow it. -/
lemma receipt_pageOverflow_iff {layout : PrintLayout} {dpi estimated : ℕ}
    (hdpi : 72 ≤ dpi ∧ dpi ≤ 600) (hestimate : estimateHeight gfx .release lib layout dpi =
      .ok estimated)
    (harea : validateCanvasArea (receiptPixelWidth layout.width dpi) estimated = .ok ()) :
    renderLayoutReceipt gfx .release lib layout dpi = .error .pageOverflow ↔
      renderElements gfx .release lib layout
        (.new (receiptPixelWidth layout.width dpi) estimated dpi) 0 0
        (receiptPixelWidth layout.width dpi) = .error .pageOverflow := by
  rw [renderLayoutReceipt, if_pos hdpi, hestimate]
  simp only [bind, Except.bind, harea]
  cases hrun : renderElements gfx .release lib layout
    (.new (receiptPixelWidth layout.width dpi) estimated dpi) 0 0
    (receiptPixelWidth layout.width dpi) with
  | error e =>
      simp only [Except.error.injEq]
  | ok drawn =>
      refine iff_of_false ?_ nofun
      rcases mapError_cases ((drawn.1.intoPage dpi).cropHeight
        (min (max drawn.2 1) (drawn.1.intoPage dpi).height)) PageError.renderer with
        ⟨page, hpage⟩ | ⟨e, herror⟩
      · simp only [hpage]
        nofun
      · simp only [herror]
        nofun

/-- The estimate is the planned heights and what is spared. -/
lemma estimated_eq {layout : PrintLayout} {dpi estimated : ℕ}
    (hdpi : 72 ≤ dpi ∧ dpi ≤ 600) (hestimate : estimateHeight gfx .release lib layout dpi =
      .ok estimated)
    (harea : validateCanvasArea (receiptPixelWidth layout.width dpi) estimated = .ok ()) :
    estimated < 2 ^ 32 - 1 ∧ estimated = 4 * glyphScale dpi +
      (layout.elements.map (plannedHeight gfx lib dpi (receiptPixelWidth layout.width dpi))).sum := by
  have hpaper := paper_receiptPixelWidth hdpi.1 hdpi.2 layout.width
  have hscale : 1 ≤ glyphScale dpi := one_le_glyphScale
  have hsmall : estimated < 2 ^ 32 - 1 := by
    rw [validateCanvasArea] at harea
    split_ifs at harea with hlarge
    have hle : estimated ≤ receiptPixelWidth layout.width dpi * estimated :=
      Nat.le_mul_of_pos_left _ hpaper.width_pos
    have hmax : maxPagePixels = 42000000 := rfl
    omega
  obtain ⟨height, hheight, hpure⟩ := bind_eq_ok.mp hestimate
  rw [pure_eq_ok] at hpure
  have hsum := foldlM_estimate hpaper hheight (by omega)
  exact ⟨hsmall, by omega⟩

/-- **The estimate is enough exactly when what the plan lacks is covered.** -/
theorem estimate_suffices_iff {layout : PrintLayout} {dpi estimated : ℕ}
    (hdpi : 72 ≤ dpi ∧ dpi ≤ 600) (hestimate : estimateHeight gfx .release lib layout dpi =
      .ok estimated)
    (harea : validateCanvasArea (receiptPixelWidth layout.width dpi) estimated = .ok ()) :
    EstimateSuffices gfx lib layout dpi estimated ↔ Covered gfx lib layout dpi := by
  have hpaper := paper_receiptPixelWidth hdpi.1 hdpi.2 layout.width
  obtain ⟨hsmall, hplan⟩ := estimated_eq hdpi hestimate harea
  have hsize : (MonoCanvas.new (receiptPixelWidth layout.width dpi) estimated dpi).HasSize
      (receiptPixelWidth layout.width dpi) estimated dpi := MonoCanvas.hasSize_new
  have hoverflow : renderLayoutReceipt gfx .release lib layout dpi = .error .pageOverflow ↔
      estimated < 0 + ((reached gfx (receiptPixelWidth layout.width dpi) layout.elements).map
        (drawnHeight gfx lib dpi (receiptPixelWidth layout.width dpi))).sum :=
    (receipt_pageOverflow_iff hdpi hestimate harea).trans
      (pageOverflow_iff hpaper hsmall hsize (Nat.zero_le _))
  have hsuffices : EstimateSuffices gfx lib layout dpi estimated ↔
      renderLayoutReceipt gfx .release lib layout dpi ≠ .error .pageOverflow := by
    refine ⟨fun h => h.fits, fun h => ⟨fun drawn hdrawn => ?_, h⟩⟩
    exact position_le hsize (Nat.zero_le _) hdrawn
  have hsplit : (layout.elements.map
      (plannedHeight gfx lib dpi (receiptPixelWidth layout.width dpi))).sum =
      ((reached gfx (receiptPixelWidth layout.width dpi) layout.elements).map
        (plannedHeight gfx lib dpi (receiptPixelWidth layout.width dpi))).sum +
      ((unreached gfx (receiptPixelWidth layout.width dpi) layout.elements).map
        (plannedHeight gfx lib dpi (receiptPixelWidth layout.width dpi))).sum := by
    rw [← List.sum_append, ← List.map_append, reached, unreached, List.takeWhile_append_dropWhile]
  have hbalance := sum_drawnHeight_add_surplus gfx lib hpaper
    (reached gfx (receiptPixelWidth layout.width dpi) layout.elements)
  rw [hsuffices, Ne, hoverflow]
  simp only [Covered]
  omega

/-- A row whose right column is as wide as it is planned, on paper for forty characters. -/
def Sample.fullRow : PrintLayout := ⟨.mm80, [.row "" "AAAAAAAAAAAAAAAA"]⟩

theorem estimate_suffices_fullRow :
    EstimateSuffices Sample.graphics Sample.libraries Sample.fullRow 102 13 ↔
      Covered Sample.graphics Sample.libraries Sample.fullRow 102 :=
  estimate_suffices_iff (by decide) rfl rfl

/-- The right column is drawn one character narrower than it is planned, and needs a second line. -/
theorem fullRow_overflows :
    (72 ≤ 102 ∧ 102 ≤ 600) ∧
      estimateHeight Sample.graphics .release Sample.libraries Sample.fullRow 102 = .ok 13 ∧
      validateCanvasArea (receiptPixelWidth Sample.fullRow.width 102) 13 = .ok () ∧
      renderLayoutReceipt Sample.graphics .release Sample.libraries Sample.fullRow 102 =
        .error .pageOverflow ∧
      ¬ EstimateSuffices Sample.graphics Sample.libraries Sample.fullRow 102 13 := by
  have hoverflow : renderLayoutReceipt Sample.graphics .release Sample.libraries Sample.fullRow 102 =
      .error .pageOverflow := by decide +kernel
  exact ⟨by decide, rfl, rfl, hoverflow, fun h => h.fits hoverflow⟩

end Oppa.Renderer.Page
