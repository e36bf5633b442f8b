import Mathlib.Algebra.Order.Round
import Mathlib.Data.Int.Log
import Mathlib.Data.Rat.Floor
import Mathlib.Tactic.Linarith
import Mathlib.Tactic.Positivity
import Mathlib.Tactic.Lemma

/-!
# Rounding to binary64

Arithmetic on doubles as exact arithmetic on rationals followed by one rounding, to the nearest
double and to the even one of two that are equally near.  Only positive numbers are rounded, and
only ones far from the ends of the range of exponents, so that neither gradual underflow nor
infinities arise.

* `roundHalfEven` — the nearest integer.
* `nearest` — the nearest rational with 53 significant bits.
* **`nearest_le`**, **`le_nearest`** — the relative error of one rounding; `nearest_mono` — rounding
  keeps the order.
-/

namespace Binary64

/-! ## The nearest integer -/

/-- The nearest integer, and of two nearest ones the even one. -/
def roundHalfEven (q : ℚ) : ℤ :=
  if q - ⌊q⌋ < 1 / 2 then ⌊q⌋
  else if 1 / 2 < q - ⌊q⌋ then ⌊q⌋ + 1
  else if ⌊q⌋ % 2 = 0 then ⌊q⌋
  else ⌊q⌋ + 1

lemma roundHalfEven_le (q : ℚ) : (roundHalfEven q : ℚ) ≤ q + 1 / 2 := by
  have hfloor := Int.floor_le q
  rw [roundHalfEven]
  split_ifs with hbelow habove heven
  · linarith
  · push_cast
    linarith
  · linarith
  · push_cast
    linarith

lemma le_roundHalfEven (q : ℚ) : q - 1 / 2 ≤ (roundHalfEven q : ℚ) := by
  have hfloor := Int.lt_floor_add_one q
  rw [roundHalfEven]
  split_ifs with hbelow habove heven
  · linarith
  · push_cast
    linarith
  · linarith
  · push_cast
    linarith

/-- A rational is rounded to the integer below it or to the next one. -/
lemma floor_le_roundHalfEven (q : ℚ) : ⌊q⌋ ≤ roundHalfEven q ∧ roundHalfEven q ≤ ⌊q⌋ + 1 := by
  rw [roundHalfEven]
  split_ifs <;> omega

lemma roundHalfEven_mono {p q : ℚ} (h : p ≤ q) : roundHalfEven p ≤ roundHalfEven q := by
  have hfloor : ⌊p⌋ ≤ ⌊q⌋ := Int.floor_le_floor h
  have hp := floor_le_roundHalfEven p
  have hq := floor_le_roundHalfEven q
  rcases hfloor.lt_or_eq with hlt | heq
  · omega
  · -- between two integers the fractions decide
    rw [roundHalfEven, roundHalfEven, ← heq]
    split_ifs <;> first | omega | (exfalso; linarith)

@[simp] lemma roundHalfEven_intCast (n : ℤ) : roundHalfEven (n : ℚ) = n := by
  rw [roundHalfEven, Int.floor_intCast, sub_self, if_pos (by norm_num)]

/-! ## The nearest double -/

/-- The distance between two doubles around a positive rational. -/
def spacing (q : ℚ) : ℚ := 2 ^ (Int.log 2 q - 52)

/-- The double nearest to a positive rational. -/
def nearest (q : ℚ) : ℚ := roundHalfEven (q / spacing q) * spacing q

lemma spacing_pos (q : ℚ) : 0 < spacing q := zpow_pos (by norm_num) _

/-- The doubles around a rational are spaced by at most one part in 2 ^ 52 of it. -/
lemma spacing_le {q : ℚ} (hq : 0 < q) : spacing q ≤ q / 2 ^ 52 := by
  have hlog : (2 : ℚ) ^ Int.log 2 q ≤ q := by
    simpa using Int.zpow_log_le_self (b := 2) (by decide) hq
  rw [spacing, zpow_sub₀ (by norm_num)]
  exact div_le_div_of_nonneg_right hlog (by positivity)

/-- **Rounding adds at most one part in 2 ^ 53.** -/
lemma nearest_le {q : ℚ} (hq : 0 < q) : nearest q ≤ q * (1 + 1 / 2 ^ 53) := by
  have hpos := spacing_pos q
  have hspacing := spacing_le hq
  calc nearest q ≤ (q / spacing q + 1 / 2) * spacing q :=
        mul_le_mul_of_nonneg_right (roundHalfEven_le _) hpos.le
    _ = q + spacing q / 2 := by
        rw [add_mul, div_mul_cancel₀ _ hpos.ne']
        ring
    _ ≤ q * (1 + 1 / 2 ^ 53) := by
        linarith

/-- **Rounding takes at most one part in 2 ^ 53 away.** -/
lemma le_nearest {q : ℚ} (hq : 0 < q) : q * (1 - 1 / 2 ^ 53) ≤ nearest q := by
  have hpos := spacing_pos q
  have hspacing := spacing_le hq
  calc q * (1 - 1 / 2 ^ 53) ≤ q - spacing q / 2 := by
        linarith
    _ = (q / spacing q - 1 / 2) * spacing q := by
        rw [sub_mul, div_mul_cancel₀ _ hpos.ne']
        ring
    _ ≤ nearest q := mul_le_mul_of_nonneg_right (le_roundHalfEven _) hpos.le

lemma nearest_pos {q : ℚ} (hq : 0 < q) : 0 < nearest q :=
  lt_of_lt_of_le (mul_pos hq (by norm_num)) (le_nearest hq)

/-- A rational is not rounded below the power of two under it. -/
lemma zpow_log_le_nearest {q : ℚ} (hq : 0 < q) : 2 ^ Int.log 2 q ≤ nearest q := by
  have hpos := spacing_pos q
  have hlog : (2 : ℚ) ^ Int.log 2 q ≤ q := by
    simpa using Int.zpow_log_le_self (b := 2) (by decide) hq
  have hpower : (2 : ℚ) ^ Int.log 2 q = ((2 ^ 52 : ℤ) : ℚ) * spacing q := by
    rw [spacing, zpow_sub₀ (by norm_num)]
    push_cast
    field_simp
  have hquotient : ((2 ^ 52 : ℤ) : ℚ) ≤ q / spacing q := by
    rwa [le_div_iff₀ hpos, ← hpower]
  have hrounded := roundHalfEven_mono hquotient
  rw [roundHalfEven_intCast] at hrounded
  rw [hpower, nearest]
  exact mul_le_mul_of_nonneg_right (by exact_mod_cast hrounded) hpos.le

/-- A rational is not rounded above the power of two over it. -/
lemma nearest_le_zpow_log {q : ℚ} : nearest q ≤ 2 ^ (Int.log 2 q + 1) := by
  have hpos := spacing_pos q
  have hlog : q < (2 : ℚ) ^ (Int.log 2 q + 1) := by
    simpa using Int.lt_zpow_succ_log_self (b := 2) (by decide) q
  have hpower : (2 : ℚ) ^ (Int.log 2 q + 1) = ((2 ^ 53 : ℤ) : ℚ) * spacing q := by
    rw [spacing, zpow_sub₀ (by norm_num), zpow_add₀ (by norm_num)]
    push_cast
    field_simp
    norm_num
  have hquotient : q / spacing q ≤ ((2 ^ 53 : ℤ) : ℚ) := by
    rw [div_le_iff₀ hpos, ← hpower]
    exact hlog.le
  have hrounded := roundHalfEven_mono hquotient
  rw [roundHalfEven_intCast] at hrounded
  rw [hpower, nearest]
  exact mul_le_mul_of_nonneg_right (by exact_mod_cast hrounded) hpos.le

/-- **Rounding keeps the order.** -/
lemma nearest_mono {p q : ℚ} (hp : 0 < p) (h : p ≤ q) : nearest p ≤ nearest q := by
  have hlog : Int.log 2 p ≤ Int.log 2 q := Int.log_mono_right hp h
  rcases hlog.lt_or_eq with hlt | heq
  · -- a power of two lies between them
    calc nearest p ≤ 2 ^ (Int.log 2 p + 1) := nearest_le_zpow_log
      _ ≤ 2 ^ Int.log 2 q := zpow_le_zpow_right₀ (by norm_num) hlt
      _ ≤ nearest q := zpow_log_le_nearest (hp.trans_le h)
  · have hspacing : spacing p = spacing q := by
      rw [spacing, spacing, heq]
    rw [nearest, nearest, hspacing]
    have hpos := spacing_pos q
    have hquotient : p / spacing q ≤ q / spacing q := div_le_div_of_nonneg_right h hpos.le
    exact mul_le_mul_of_nonneg_right (by exact_mod_cast roundHalfEven_mono hquotient) hpos.le

end Binary64
