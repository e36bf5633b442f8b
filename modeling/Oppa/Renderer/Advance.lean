import Oppa.Renderer.Page

/-!
# How far an operation moves the position

The heights of the operations of a layout on a sheet without an end, and the positions the page
renderer computes: they agree as long as they lie on the page, and both lie below it otherwise.

* `drawnHeight` — the height of an operation, which does not depend on what is left of the page.
* `Drawable` — the operations that can be drawn at all.
* `advance` — the position the renderer computes.

**`advance_spec`** is the agreement.  It is where an image that is fitted to the rest of the page
comes in: the image then ends at the last row, so that the gap below it reaches beyond.
-/

namespace Oppa.Renderer.Page

open Protocol Text Result Loops

variable (gfx : Graphics) (build : Build) (lib : Libraries)

/-! ## Heights -/

/-- The height an operation takes on a sheet without an end. -/
def drawnHeight (dpi receiptWidth : ℕ) : ReceiptElement → ℕ
  | .text value _ _ =>
      (wrapText lib value.toList (maxChars dpi receiptWidth)).length * lineHeight dpi
  | .row first right =>
      let lines := rowLines lib first.toList right.toList (maxChars dpi receiptWidth)
      max lines.1.length lines.2.length * lineHeight dpi
  | .divider => lineHeight dpi
  | .image image =>
      (fitDimensions (imageSize image dpi).1 (imageSize image dpi).2 receiptWidth
        maxReceiptImageHeight).2 + 2 * glyphScale dpi
  | .qr value =>
      match encodeQr gfx value with
      | .ok code => totalModules code * moduleSide dpi receiptWidth code + 2 * glyphScale dpi
      | .error _ => 0
  | .barcode _ _ heightDots humanReadable =>
      barHeight dpi heightDots + 2 * glyphScale dpi + (if humanReadable then lineHeight dpi else 0)
  | .feed lines => lines.toNat * lineHeight dpi
  | .cut => 0

/-- The operations that can be drawn: QR codes and barcodes whose content can be encoded, the
barcodes not wider than the paper. -/
def Drawable (receiptWidth : ℕ) : ReceiptElement → Prop
  | .qr value => ∃ code, encodeQr gfx value = .ok code
  | .barcode format value _ _ =>
      ∃ bars, encodeBarcode gfx format value = .ok bars ∧
        lengthU32 bars.length ≤ availableDots receiptWidth
  | _ => True

instance (receiptWidth : ℕ) : DecidablePred (Drawable gfx receiptWidth)
  | .qr value =>
      match h : encodeQr gfx value with
      | .ok code => isTrue ⟨code, h⟩
      | .error _ => isFalse fun ⟨_, hok⟩ => nomatch h.symm.trans hok
  | .barcode format value _ _ =>
      match h : encodeBarcode gfx format value with
      | .ok bars =>
          if hfits : lengthU32 bars.length ≤ availableDots receiptWidth then
            isTrue ⟨bars, h, hfits⟩
          else isFalse fun ⟨_, hok, hle⟩ => hfits (Except.ok.inj (h.symm.trans hok) ▸ hle)
      | .error _ => isFalse fun ⟨_, hok, _⟩ => nomatch h.symm.trans hok
  | .text _ _ _ | .row _ _ | .divider | .image _ | .feed _ | .cut => isTrue trivial

/-- An error that says that something could not be encoded. -/
inductive IsEncodingError : PageError → Prop
  | qr (text : String) : IsEncodingError (.renderer (.invalidImage text))
  | barcode (text : String) : IsEncodingError (.barcodeRender text)

variable {gfx build lib}

lemma mapError_cases {ε δ α : Type} (result : Except ε α) (f : ε → δ) :
    (∃ a, result.mapError f = .ok a) ∨ ∃ e, result.mapError f = .error (f e) := by
  cases result with
  | ok a => exact .inl ⟨a, rfl⟩
  | error e => exact .inr ⟨e, rfl⟩

/-- What cannot be drawn is reported. -/
lemma renderElement_of_not_drawable {left receiptWidth y : ℕ} {canvas : MonoCanvas}
    {element : ReceiptElement} (h : ¬ Drawable gfx receiptWidth element) :
    ∃ e, renderElement gfx build lib left receiptWidth canvas y element = .error e ∧
      IsEncodingError e := by
  cases element with
  | qr value =>
      rcases mapError_cases (gfx.qrCode (Bytes.encode value.toList))
        (fun e => PageError.renderer (.invalidImage e)) with hok | ⟨e, herror⟩
      · exact absurd hok h
      · refine ⟨.renderer (.invalidImage e), ?_, .qr e⟩
        simp only [renderElement, encodeQr, herror]
        rfl
  | barcode format value heightDots humanReadable =>
      cases hbars : encodeBarcode gfx format value with
      | error e =>
          refine ⟨e, ?_, ?_⟩
          · simp only [renderElement, hbars]
            rfl
          · rw [encodeBarcode] at hbars
            rcases mapError_cases (gfx.barcode format (barcodeInput format value))
              PageError.barcodeRender with ⟨a, hok⟩ | ⟨text, herror⟩
            · rw [hok] at hbars
              cases hbars
            · rw [herror] at hbars
              cases hbars
              exact .barcode text
      | ok bars =>
          have hwide : availableDots receiptWidth < lengthU32 bars.length := by
            by_contra hfits
            exact h ⟨bars, hbars, Nat.le_of_not_lt hfits⟩
          refine ⟨.barcodeRender "encoded barcode is wider than the receipt", ?_, .barcode _⟩
          simp only [renderElement, hbars, bind, Except.bind, if_pos hwide]
  | text _ _ _ | row _ _ | divider | image _ | feed _ | cut => exact absurd trivial h

lemma renderNext_of_not_drawable {left receiptWidth : ℕ} {at' : MonoCanvas × ℕ}
    {element : ReceiptElement} (h : ¬ Drawable gfx receiptWidth element) :
    ∃ e, renderNext gfx build lib left receiptWidth at' element = .error e ∧ IsEncodingError e := by
  obtain ⟨e, herror, hencoding⟩ : ∃ e, renderElement gfx build lib left receiptWidth at'.1 at'.2
      element = .error e ∧ IsEncodingError e := renderElement_of_not_drawable h
  refine ⟨e, ?_, hencoding⟩
  rw [renderNext, herror]
  rfl

/-! ## Saturation -/

lemma iterate_satAdd {step n y : ℕ} (hy : y ≤ 2 ^ 32 - 1) :
    (satAdd · step)^[n] y = min (y + n * step) (2 ^ 32 - 1) := by
  induction n generalizing y with
  | zero =>
      rw [Function.iterate_zero_apply, Nat.zero_mul, Nat.add_zero, min_eq_left hy]
  | succ n ih =>
      have hnext : satAdd y step ≤ 2 ^ 32 - 1 := min_le_right _ _
      rw [Function.iterate_succ_apply, ih hnext, satAdd, Nat.succ_mul]
      omega

/-- A resolution that is accepted, and paper that is not too wide for it. -/
structure Paper (dpi receiptWidth : ℕ) : Prop where
  dpi_ge : 72 ≤ dpi
  dpi_le : dpi ≤ 600
  width_pos : 0 < receiptWidth
  width_le : receiptWidth ≤ 2 ^ 20

variable {dpi receiptWidth height y : ℕ}

lemma one_le_glyphScale : 1 ≤ glyphScale dpi := le_max_right _ _

lemma Paper.glyphScale_le (h : Paper dpi receiptWidth) : glyphScale dpi ≤ 6 := by
  have hdpi := h.dpi_le
  simp only [glyphScale, glyphScaleAt300Dpi]
  omega

lemma Paper.lineHeight_le (h : Paper dpi receiptWidth) : lineHeight dpi ≤ 54 := by
  have hscale := h.glyphScale_le
  rw [lineHeight]
  omega

lemma Paper.nominalModule_le (h : Paper dpi receiptWidth) : nominalModule dpi ≤ 17 := by
  have hdpi := h.dpi_le
  rw [nominalModule]
  omega

lemma moduleSide_le {code : QrCode} : moduleSide dpi receiptWidth code ≤ nominalModule dpi := by
  have hone : 1 ≤ nominalModule dpi := le_max_right _ _
  rw [moduleSide]
  omega

lemma totalModules_le {value : String} {code : QrCode} (h : encodeQr gfx value = .ok code) :
    totalModules code ≤ 185 := by
  rw [encodeQr, mapError_eq_ok] at h
  have hwidth := gfx.qrCode_width _ _ h
  rw [totalModules]
  omega

/-- The side of a QR code does not saturate. -/
lemma Paper.codeWidth_le (h : Paper dpi receiptWidth) {value : String} {code : QrCode}
    (hcode : encodeQr gfx value = .ok code) :
    totalModules code * moduleSide dpi receiptWidth code ≤ 185 * 17 :=
  Nat.mul_le_mul (totalModules_le hcode) (moduleSide_le.trans h.nominalModule_le)

lemma Paper.barHeight_le (h : Paper dpi receiptWidth) (heightDots : UInt8) :
    barHeight dpi heightDots ≤ 753 := by
  have hdots : heightDots.toNat ≤ 255 := Nat.le_of_lt_succ heightDots.toNat_lt
  have hproduct : dpi * heightDots.toNat ≤ 600 * 255 := Nat.mul_le_mul h.dpi_le hdots
  rw [barHeight]
  omega

lemma Paper.feed_le (h : Paper dpi receiptWidth) (lines : UInt8) :
    lines.toNat * lineHeight dpi ≤ 255 * 54 :=
  Nat.mul_le_mul (Nat.le_of_lt_succ lines.toNat_lt) h.lineHeight_le

/-- An image has a size, and is fitted to a space that is not empty. -/
lemma Paper.fittable (h : Paper dpi receiptWidth) (image : ReceiptImage) {room : ℕ}
    (hroom : 0 < room) (hle : room ≤ maxReceiptImageHeight) :
    Fittable (imageSize image dpi).1 (imageSize image dpi).2 receiptWidth room where
  wide := lt_of_lt_of_le Nat.one_pos (le_max_right _ _)
  high := lt_of_lt_of_le Nat.one_pos (le_max_right _ _)
  roomWide := h.width_pos
  roomHigh := hroom
  width_le := h.width_le
  height_le := hle.trans (by decide)

/-! ## Positions -/

variable (gfx lib)

/-- The position below an operation that is drawn, as the renderer computes it. -/
def advance (dpi receiptWidth height y : ℕ) : ReceiptElement → ℕ
  | .text value _ _ =>
      (satAdd · (lineHeight dpi))^[(wrapText lib value.toList (maxChars dpi receiptWidth)).length] y
  | .row first right =>
      let lines := rowLines lib first.toList right.toList (maxChars dpi receiptWidth)
      (satAdd · (lineHeight dpi))^[max lines.1.length lines.2.length] y
  | .divider => satAdd y (lineHeight dpi)
  | .image image =>
      satAdd (satAdd y (fitDimensions (imageSize image dpi).1 (imageSize image dpi).2 receiptWidth
        (min maxReceiptImageHeight (height - y))).2) (satMul (glyphScale dpi) 2)
  | .qr value =>
      match encodeQr gfx value with
      | .ok code =>
          satAdd (satAdd y (satMul (totalModules code) (moduleSide dpi receiptWidth code)))
            (glyphScale dpi * 2)
      | .error _ => y
  | .barcode _ _ heightDots humanReadable =>
      let below := satAdd (satAdd y (barHeight dpi heightDots)) (2 * glyphScale dpi)
      if humanReadable then satAdd below (lineHeight dpi) else below
  | .feed lines => satAdd y (lines.toNat * lineHeight dpi)
  | .cut => y

variable {gfx lib}

/-- An image that is fitted to the rest of the page ends where it would end anyway, or both the page
and the image itself end before the position below it. -/
lemma Paper.advance_image (h : Paper dpi receiptWidth) (hheight : height < 2 ^ 32 - 1)
    (hy : y ≤ height) (image : ReceiptImage) :
    min (advance gfx lib dpi receiptWidth height y (.image image)) (height + 1) =
      min (y + drawnHeight gfx lib dpi receiptWidth (.image image)) (height + 1) := by
  have hscale := h.glyphScale_le
  have hone : 1 ≤ glyphScale dpi := one_le_glyphScale
  have hfull : Fittable (imageSize image dpi).1 (imageSize image dpi).2 receiptWidth
      maxReceiptImageHeight := h.fittable image (by decide) le_rfl
  have hfullLe := (fitDimensions_le hfull).2
  simp only [advance, drawnHeight]
  generalize hwhole : (fitDimensions (imageSize image dpi).1 (imageSize image dpi).2 receiptWidth
    maxReceiptImageHeight).2 = whole at hfullLe ⊢
  generalize hcut : (fitDimensions (imageSize image dpi).1 (imageSize image dpi).2 receiptWidth
    (min maxReceiptImageHeight (height - y))).2 = cut
  have hmax : maxReceiptImageHeight = 8192 := rfl
  have hcases : cut = whole ∨ cut = height - y ∧ height - y ≤ whole := by
    rcases Nat.eq_zero_or_pos (height - y) with hzero | hpos
    · -- nothing is left of the page, and nothing of the image
      right
      rw [hzero, Nat.min_zero, fitDimensions, if_pos (by simp)] at hcut
      exact ⟨by rw [hzero, ← hcut], by omega⟩
    · rcases Nat.lt_or_ge (height - y) maxReceiptImageHeight with hless | hmore
      · rw [min_eq_right hless.le] at hcut
        rcases fitDimensions_shorter hfull hpos hless.le with hsame | ⟨hfilled, hle⟩
        · left
          rw [← hcut, ← hwhole, hsame]
        · right
          rw [hcut] at hfilled
          rw [hwhole] at hle
          exact ⟨hfilled, hle⟩
      · left
        rw [min_eq_left hmore] at hcut
        rw [← hcut, ← hwhole]
  simp only [satAdd, satMul]
  omega

/-- **The position the renderer computes is the one on a sheet without an end, as long as it lies on
the page; otherwise both lie below the page.** -/
theorem Paper.advance_spec (h : Paper dpi receiptWidth) (hheight : height < 2 ^ 32 - 1)
    (hy : y ≤ height) (element : ReceiptElement) :
    min (advance gfx lib dpi receiptWidth height y element) (height + 1) =
      min (y + drawnHeight gfx lib dpi receiptWidth element) (height + 1) := by
  have hscale := h.glyphScale_le
  have hline := h.lineHeight_le
  cases element with
  | image image => exact h.advance_image hheight hy image
  | text value alignment bold =>
      simp only [advance, drawnHeight]
      rw [iterate_satAdd (by omega)]
      omega
  | row first right =>
      simp only [advance, drawnHeight]
      rw [iterate_satAdd (by omega)]
      omega
  | divider =>
      simp only [advance, drawnHeight, satAdd]
      omega
  | qr value =>
      simp only [advance, drawnHeight]
      cases hcode : encodeQr gfx value with
      | error e => simp
      | ok code =>
          have hwidth := h.codeWidth_le hcode
          simp only [satAdd, satMul]
          omega
  | barcode format value heightDots humanReadable =>
      have hbars := h.barHeight_le heightDots
      simp only [advance, drawnHeight, satAdd]
      split_ifs <;> omega
  | feed lines =>
      have hfeed := h.feed_le lines
      simp only [advance, drawnHeight, satAdd]
      omega
  | cut => rfl

end Oppa.Renderer.Page
