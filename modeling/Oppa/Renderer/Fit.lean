import Mathlib.Tactic.NormNum
import Oppa.Foundation.Binary64

/-!
# Fitting an image

How large an image is drawn in a given space: both sides are multiplied by the smallest of three
ratios, in doubles, and rounded to whole dots.

* `fitDimensions` — the size of an image in a space.
* **`fitDimensions_le`** — the image fits, and has a dot at least.
* **`fitDimensions_lower`** — it is smaller than the space allows by less than a dot.
* **`fitDimensions_shorter`** — a space that is less high makes no difference to the size, or the
  image fills it to the last row.
-/

namespace Oppa.Renderer

open Binary64

/-! ## One side -/

/-- `(f64::from(source) * ratio).round().max(1.0) as u32`. -/
def fitLength (source : ℕ) (ratio : ℚ) : ℕ :=
  min (max (round (nearest (source * ratio))) 1).toNat (2 ^ 32 - 1)

/-- How much a length is to be multiplied by to be as long as another. -/
def fitRatio (source limit : ℕ) : ℚ := nearest ((limit : ℚ) / source)

variable {source limit : ℕ} {ratio : ℚ}

lemma one_le_fitLength : 1 ≤ fitLength source ratio := by
  have hone : 1 ≤ (max (round (nearest (source * ratio))) 1).toNat := by omega
  exact le_min hone (by norm_num)

lemma fitRatio_pos (hsource : 0 < source) (hlimit : 0 < limit) : 0 < fitRatio source limit := by
  have hs : (0 : ℚ) < source := by exact_mod_cast hsource
  have hl : (0 : ℚ) < limit := by exact_mod_cast hlimit
  exact nearest_pos (div_pos hl hs)

lemma fitRatio_mono {limit' : ℕ} (hsource : 0 < source) (hlimit : 0 < limit)
    (h : limit ≤ limit') : fitRatio source limit ≤ fitRatio source limit' := by
  have hs : (0 : ℚ) < source := by exact_mod_cast hsource
  have hl : (0 : ℚ) < limit := by exact_mod_cast hlimit
  refine nearest_mono (div_pos hl hs) (div_le_div_of_nonneg_right ?_ hs.le)
  exact_mod_cast h

lemma fitLength_mono {ratio' : ℚ} (hsource : 0 < source) (hratio : 0 < ratio)
    (h : ratio ≤ ratio') : fitLength source ratio ≤ fitLength source ratio' := by
  have hs : (0 : ℚ) < source := by exact_mod_cast hsource
  have hnearest : nearest (source * ratio) ≤ nearest (source * ratio') :=
    nearest_mono (mul_pos hs hratio) (mul_le_mul_of_nonneg_left h hs.le)
  have hround : round (nearest (source * ratio)) ≤ round (nearest (source * ratio')) := by
    rw [round_eq, round_eq]
    exact Int.floor_le_floor (by linarith)
  simp only [fitLength]
  omega

/-- The two roundings of a length that is to be as long as another. -/
lemma nearest_fitRatio (hsource : 0 < source) (hlimit : 0 < limit) (hsmall : limit ≤ 2 ^ 20) :
    (limit : ℚ) - 1 / 4 < nearest (source * fitRatio source limit) ∧
      nearest (source * fitRatio source limit) < (limit : ℚ) + 1 / 4 := by
  have hs : (0 : ℚ) < source := by exact_mod_cast hsource
  have hl : (0 : ℚ) < limit := by exact_mod_cast hlimit
  have hle : (limit : ℚ) ≤ 2 ^ 20 := by exact_mod_cast hsmall
  have hquotient : (0 : ℚ) < limit / source := div_pos hl hs
  have hpos : 0 < (source : ℚ) * fitRatio source limit := mul_pos hs (fitRatio_pos hsource hlimit)
  have hcancel : (source : ℚ) * (limit / source) = limit := mul_div_cancel₀ _ hs.ne'
  have hupper : (source : ℚ) * fitRatio source limit ≤ limit * (1 + 1 / 2 ^ 53) := by
    calc (source : ℚ) * fitRatio source limit
        ≤ source * (limit / source * (1 + 1 / 2 ^ 53)) :=
          mul_le_mul_of_nonneg_left (nearest_le hquotient) hs.le
      _ = limit * (1 + 1 / 2 ^ 53) := by rw [← mul_assoc, hcancel]
  have hlower : (limit : ℚ) * (1 - 1 / 2 ^ 53) ≤ source * fitRatio source limit := by
    calc (limit : ℚ) * (1 - 1 / 2 ^ 53) = source * (limit / source * (1 - 1 / 2 ^ 53)) := by
          rw [← mul_assoc, hcancel]
      _ ≤ source * fitRatio source limit :=
          mul_le_mul_of_nonneg_left (le_nearest hquotient) hs.le
  have hfirst := le_nearest hpos
  have hsecond := nearest_le hpos
  constructor
  · linarith
  · linarith

/-- No side is longer than the space. -/
lemma fitLength_le (hsource : 0 < source) (hlimit : 0 < limit) (hsmall : limit ≤ 2 ^ 20)
    (hratio : 0 < ratio) (h : ratio ≤ fitRatio source limit) : fitLength source ratio ≤ limit := by
  have hs : (0 : ℚ) < source := by exact_mod_cast hsource
  have hbelow : nearest (source * ratio) < (limit : ℚ) + 1 / 4 := by
    refine lt_of_le_of_lt ?_ (nearest_fitRatio hsource hlimit hsmall).2
    exact nearest_mono (mul_pos hs hratio) (mul_le_mul_of_nonneg_left h hs.le)
  have hround : round (nearest (source * ratio)) < (limit : ℤ) + 1 := by
    rw [round_eq, Int.floor_lt]
    push_cast
    linarith
  simp only [fitLength]
  omega

/-- No side becomes longer. -/
lemma fitLength_le_source (hsource : 0 < source) (hsmall : source < 2 ^ 32) (hratio : 0 < ratio)
    (h : ratio ≤ 1) : fitLength source ratio ≤ source := by
  have hs : (0 : ℚ) < source := by exact_mod_cast hsource
  have hle : (source : ℚ) ≤ 2 ^ 32 := by exact_mod_cast hsmall.le
  have hshorter : (source : ℚ) * ratio ≤ source := mul_le_of_le_one_right hs.le h
  have hnearest : nearest (source * ratio) ≤ source * (1 + 1 / 2 ^ 53) :=
    (nearest_mono (mul_pos hs hratio) hshorter).trans (nearest_le hs)
  have hround : round (nearest (source * ratio)) < (source : ℤ) + 1 := by
    rw [round_eq, Int.floor_lt]
    push_cast
    linarith
  simp only [fitLength]
  omega

/-- A side that decides is as long as the space. -/
lemma fitLength_fitRatio (hsource : 0 < source) (hlimit : 0 < limit) (hsmall : limit ≤ 2 ^ 20) :
    fitLength source (fitRatio source limit) = limit := by
  refine le_antisymm (fitLength_le hsource hlimit hsmall (fitRatio_pos hsource hlimit) le_rfl) ?_
  have habove := (nearest_fitRatio hsource hlimit hsmall).1
  have hround : (limit : ℤ) ≤ round (nearest (source * fitRatio source limit)) := by
    rw [round_eq, Int.le_floor]
    push_cast
    linarith
  simp only [fitLength]
  omega

/-- A side is at most one dot shorter than it has to be. -/
lemma lt_fitLength {wanted : ℚ} (hsource : 0 < source) (hwanted : 0 < wanted)
    (hlength : source * wanted ≤ 2 ^ 20) (h : wanted * (1 - 1 / 2 ^ 53) ≤ ratio) :
    source * wanted < fitLength source ratio + 1 := by
  have hs : (0 : ℚ) < source := by exact_mod_cast hsource
  have hscaled : (source : ℚ) * wanted * (1 - 1 / 2 ^ 53) ≤ source * ratio := by
    rw [mul_assoc]
    exact mul_le_mul_of_nonneg_left h hs.le
  have hpos : 0 < (source : ℚ) * ratio :=
    lt_of_lt_of_le (mul_pos (mul_pos hs hwanted) (by norm_num)) hscaled
  have hnearest := le_nearest hpos
  have hbound : (source : ℚ) * wanted - 1 / 4 < nearest (source * ratio) := by
    have hfirst : (source : ℚ) * wanted * (1 - 1 / 2 ^ 53) * (1 - 1 / 2 ^ 53) ≤
        nearest (source * ratio) :=
      (mul_le_mul_of_nonneg_right hscaled (by norm_num)).trans hnearest
    linarith
  have hround : nearest (source * ratio) < round (nearest (source * ratio)) + 1 / 2 := by
    rw [round_eq]
    linarith [Int.lt_floor_add_one (nearest (source * ratio) + 1 / 2)]
  rcases le_or_gt (round (nearest (source * ratio))) (2 ^ 32 - 1) with hfits | hbeyond
  · have hle : round (nearest (source * ratio)) ≤ (fitLength source ratio : ℤ) := by
      simp only [fitLength]
      omega
    have hcast : (round (nearest (source * ratio)) : ℚ) ≤ (fitLength source ratio : ℚ) := by
      exact_mod_cast hle
    linarith
  · have heq : fitLength source ratio = 2 ^ 32 - 1 := by
      simp only [fitLength]
      omega
    rw [heq]
    norm_num
    linarith

/-! ## Both sides -/

/-- `fit_dimensions`. -/
def fitDimensions (sourceWidth sourceHeight maxWidth maxHeight : ℕ) : ℕ × ℕ :=
  if sourceWidth = 0 ∨ sourceHeight = 0 ∨ maxWidth = 0 ∨ maxHeight = 0 then (0, 0)
  else
    let widthRatio := fitRatio sourceWidth maxWidth
    let heightRatio := fitRatio sourceHeight maxHeight
    let ratio := min (min widthRatio heightRatio) 1
    (fitLength sourceWidth ratio, fitLength sourceHeight ratio)

/-- The ratio of an image and a space. -/
def sizeRatio (sourceWidth sourceHeight maxWidth maxHeight : ℕ) : ℚ :=
  min (min (fitRatio sourceWidth maxWidth) (fitRatio sourceHeight maxHeight)) 1

variable {sourceWidth sourceHeight maxWidth maxHeight : ℕ}

/-- An image and a space that are not empty, the space not larger than a sheet. -/
structure Fittable (sourceWidth sourceHeight maxWidth maxHeight : ℕ) : Prop where
  wide : 0 < sourceWidth
  high : 0 < sourceHeight
  roomWide : 0 < maxWidth
  roomHigh : 0 < maxHeight
  width_le : maxWidth ≤ 2 ^ 20
  height_le : maxHeight ≤ 2 ^ 20

lemma fitDimensions_eq (h : Fittable sourceWidth sourceHeight maxWidth maxHeight) :
    fitDimensions sourceWidth sourceHeight maxWidth maxHeight =
      (fitLength sourceWidth (sizeRatio sourceWidth sourceHeight maxWidth maxHeight),
        fitLength sourceHeight (sizeRatio sourceWidth sourceHeight maxWidth maxHeight)) := by
  rw [fitDimensions, if_neg]
  · rfl
  · rintro (hzero | hzero | hzero | hzero)
    · exact h.wide.ne' hzero
    · exact h.high.ne' hzero
    · exact h.roomWide.ne' hzero
    · exact h.roomHigh.ne' hzero

lemma sizeRatio_pos (h : Fittable sourceWidth sourceHeight maxWidth maxHeight) :
    0 < sizeRatio sourceWidth sourceHeight maxWidth maxHeight :=
  lt_min (lt_min (fitRatio_pos h.wide h.roomWide) (fitRatio_pos h.high h.roomHigh))
    one_pos

/-- **An image that is drawn has a dot at least and stays in its space.** -/
theorem fitDimensions_le (h : Fittable sourceWidth sourceHeight maxWidth maxHeight) :
    (1 ≤ (fitDimensions sourceWidth sourceHeight maxWidth maxHeight).1 ∧
      (fitDimensions sourceWidth sourceHeight maxWidth maxHeight).1 ≤ maxWidth) ∧
    (1 ≤ (fitDimensions sourceWidth sourceHeight maxWidth maxHeight).2 ∧
      (fitDimensions sourceWidth sourceHeight maxWidth maxHeight).2 ≤ maxHeight) := by
  have hpos := sizeRatio_pos h
  have hratio : sizeRatio sourceWidth sourceHeight maxWidth maxHeight ≤
      min (fitRatio sourceWidth maxWidth) (fitRatio sourceHeight maxHeight) := min_le_left _ _
  rw [fitDimensions_eq h]
  refine ⟨⟨one_le_fitLength, ?_⟩, one_le_fitLength, ?_⟩
  · exact fitLength_le h.wide h.roomWide h.width_le hpos
      (hratio.trans (min_le_left _ _))
  · exact fitLength_le h.high h.roomHigh h.height_le hpos
      (hratio.trans (min_le_right _ _))

/-- No image is drawn higher than it is. -/
lemma fitDimensions_le_source (h : Fittable sourceWidth sourceHeight maxWidth maxHeight)
    (hsmall : sourceHeight < 2 ^ 32) :
    (fitDimensions sourceWidth sourceHeight maxWidth maxHeight).2 ≤ sourceHeight := by
  rw [fitDimensions_eq h]
  exact fitLength_le_source h.high hsmall (sizeRatio_pos h) (min_le_right _ _)

/-- The ratio that the sides would be multiplied by without rounding. -/
def exactRatio (sourceWidth sourceHeight maxWidth maxHeight : ℕ) : ℚ :=
  min (min ((maxWidth : ℚ) / sourceWidth) ((maxHeight : ℚ) / sourceHeight)) 1

/-- **An image is smaller than its space allows by less than a dot.** -/
theorem fitDimensions_lower (h : Fittable sourceWidth sourceHeight maxWidth maxHeight) :
    sourceWidth * exactRatio sourceWidth sourceHeight maxWidth maxHeight <
        (fitDimensions sourceWidth sourceHeight maxWidth maxHeight).1 + 1 ∧
      sourceHeight * exactRatio sourceWidth sourceHeight maxWidth maxHeight <
        (fitDimensions sourceWidth sourceHeight maxWidth maxHeight).2 + 1 := by
  have hsw : (0 : ℚ) < sourceWidth := by exact_mod_cast h.wide
  have hsh : (0 : ℚ) < sourceHeight := by exact_mod_cast h.high
  have hmw : (0 : ℚ) < maxWidth := by exact_mod_cast h.roomWide
  have hmh : (0 : ℚ) < maxHeight := by exact_mod_cast h.roomHigh
  have hmwle : (maxWidth : ℚ) ≤ 2 ^ 20 := by exact_mod_cast h.width_le
  have hmhle : (maxHeight : ℚ) ≤ 2 ^ 20 := by exact_mod_cast h.height_le
  have hwidth : exactRatio sourceWidth sourceHeight maxWidth maxHeight ≤ maxWidth / sourceWidth :=
    (min_le_left _ _).trans (min_le_left _ _)
  have hheight :
      exactRatio sourceWidth sourceHeight maxWidth maxHeight ≤ maxHeight / sourceHeight :=
    (min_le_left _ _).trans (min_le_right _ _)
  have hpos : 0 < exactRatio sourceWidth sourceHeight maxWidth maxHeight :=
    lt_min (lt_min (div_pos hmw hsw) (div_pos hmh hsh)) one_pos
  have hratio : exactRatio sourceWidth sourceHeight maxWidth maxHeight * (1 - 1 / 2 ^ 53) ≤
      sizeRatio sourceWidth sourceHeight maxWidth maxHeight := by
    refine le_min (le_min ?_ ?_) ?_
    · exact (mul_le_mul_of_nonneg_right hwidth (by norm_num)).trans (le_nearest (div_pos hmw hsw))
    · exact (mul_le_mul_of_nonneg_right hheight (by norm_num)).trans
        (le_nearest (div_pos hmh hsh))
    · have hone : exactRatio sourceWidth sourceHeight maxWidth maxHeight ≤ 1 := min_le_right _ _
      linarith
  rw [fitDimensions_eq h]
  constructor
  · refine lt_fitLength h.wide hpos ?_ hratio
    rw [le_div_iff₀ hsw, mul_comm] at hwidth
    exact hwidth.trans hmwle
  · refine lt_fitLength h.high hpos ?_ hratio
    rw [le_div_iff₀ hsh, mul_comm] at hheight
    exact hheight.trans hmhle

/-- **A space that is less high changes nothing, or is filled to the last row.** -/
theorem fitDimensions_shorter {shorter : ℕ}
    (h : Fittable sourceWidth sourceHeight maxWidth maxHeight) (hshorter : 0 < shorter)
    (hle : shorter ≤ maxHeight) :
    fitDimensions sourceWidth sourceHeight maxWidth shorter =
        fitDimensions sourceWidth sourceHeight maxWidth maxHeight ∨
      (fitDimensions sourceWidth sourceHeight maxWidth shorter).2 = shorter ∧
        shorter ≤ (fitDimensions sourceWidth sourceHeight maxWidth maxHeight).2 := by
  have hfits : Fittable sourceWidth sourceHeight maxWidth shorter :=
    { h with roomHigh := hshorter, height_le := hle.trans h.height_le }
  have hmono := fitRatio_mono h.high hshorter hle
  rw [fitDimensions_eq h, fitDimensions_eq hfits]
  rcases lt_or_ge (sizeRatio sourceWidth sourceHeight maxWidth shorter)
    (fitRatio sourceHeight shorter) with hother | hheight
  · -- the height does not decide, and less so in the higher space
    left
    have hsame : sizeRatio sourceWidth sourceHeight maxWidth shorter =
        sizeRatio sourceWidth sourceHeight maxWidth maxHeight := by
      simp only [sizeRatio] at hother ⊢
      rw [min_assoc, min_comm (fitRatio sourceHeight shorter), ← min_assoc] at hother ⊢
      rw [min_assoc (fitRatio sourceWidth maxWidth) (fitRatio sourceHeight maxHeight),
        min_comm (fitRatio sourceHeight maxHeight), ← min_assoc]
      have hdecides := (min_lt_iff.mp hother).resolve_right (lt_irrefl _)
      rw [min_eq_left hdecides.le, min_eq_left (hdecides.le.trans hmono)]
    rw [hsame]
  · right
    have hdecides : sizeRatio sourceWidth sourceHeight maxWidth shorter =
        fitRatio sourceHeight shorter :=
      le_antisymm ((min_le_left _ _).trans (min_le_right _ _)) hheight
    have hratio : sizeRatio sourceWidth sourceHeight maxWidth shorter ≤
        sizeRatio sourceWidth sourceHeight maxWidth maxHeight :=
      min_le_min (min_le_min le_rfl hmono) le_rfl
    have hfilled : fitLength sourceHeight (sizeRatio sourceWidth sourceHeight maxWidth shorter) =
        shorter := by
      rw [hdecides]
      exact fitLength_fitRatio h.high hshorter hfits.height_le
    refine ⟨hfilled, ?_⟩
    calc shorter = fitLength sourceHeight (sizeRatio sourceWidth sourceHeight maxWidth shorter) :=
          hfilled.symm
      _ ≤ fitLength sourceHeight (sizeRatio sourceWidth sourceHeight maxWidth maxHeight) :=
          fitLength_mono h.high (sizeRatio_pos hfits) hratio

end Oppa.Renderer
