import Mathlib.Data.Set.Insert
import Mathlib.Tactic.Lemma

/-!
# Packed bitmaps

Rows of black and white pixels, eight to a byte and the most significant bit first, each row
beginning on a byte of its own.

* `setBit`, `testBit` — one bit of a list of bytes.
* `pixels` — the black pixels of a bitmap as a set of coordinates.
* **`pixels_setBit`** — setting the bit of a pixel blackens that pixel and no other.
-/

namespace Bitmap

/-! ## Bits of bytes -/

/-- The bit of a column. -/
def mask (column : ℕ) : UInt8 := 0x80 >>> UInt8.ofNat column

/-- Sets a bit of a byte, if there is such a byte. -/
def setBit (data : List UInt8) (index column : ℕ) : List UInt8 :=
  data.modify index fun byte => byte ||| mask column

/-- Whether a bit is set. -/
def testBit (data : List UInt8) (index column : ℕ) : Bool :=
  match data[index]? with
  | some byte => byte &&& mask column ≠ 0
  | none => false

@[simp] lemma length_setBit {data : List UInt8} {index column : ℕ} :
    (setBit data index column).length = data.length := List.length_modify ..

/-- Different columns have different bits. -/
lemma mask_and_mask {c d : ℕ} (hc : c < 8) (hd : d < 8) : mask c &&& mask d ≠ 0 ↔ c = d := by
  have hall : ∀ c d : Fin 8, mask c &&& mask d ≠ 0 ↔ c = d := by decide
  have hcd := hall ⟨c, hc⟩ ⟨d, hd⟩
  rwa [Fin.mk.injEq] at hcd

lemma or_and_mask {byte : UInt8} {c d : ℕ} (hc : c < 8) (hd : d < 8) :
    (byte ||| mask c) &&& mask d ≠ 0 ↔ byte &&& mask d ≠ 0 ∨ c = d := by
  have hdistrib : (byte ||| mask c) &&& mask d = byte &&& mask d ||| mask c &&& mask d :=
    UInt8.toBitVec_inj.mp BitVec.and_or_distrib_right
  rw [hdistrib, ← mask_and_mask hc hd, Ne, UInt8.or_eq_zero_iff, not_and_or]

lemma testBit_setBit {data : List UInt8} {index column i c : ℕ} (hcolumn : column < 8) (hc : c < 8) :
    testBit (setBit data index column) i c = true ↔
      testBit data i c = true ∨ index < data.length ∧ i = index ∧ c = column := by
  simp only [testBit, setBit, List.getElem?_modify]
  by_cases hi : index = i
  · subst hi
    cases hbyte : data[index]? with
    | none =>
        have hlength := List.getElem?_eq_none_iff.mp hbyte
        simp
        omega
    | some byte =>
        have hlength : index < data.length := (List.getElem?_eq_some_iff.mp hbyte).1
        simp only [if_true, Option.map_eq_map, Option.map_some, decide_eq_true_eq, hlength, true_and,
          or_and_mask hcolumn hc, eq_comm (a := c)]
  · simp only [if_neg hi]
    have hne : ¬ (i = index) := fun h => hi h.symm
    simp [hne]

/-! ## Pixels -/

/-- The black pixels of a bitmap, by their column and row. -/
def pixels (data : List UInt8) (stride width height : ℕ) : Set (ℕ × ℕ) :=
  {p | p.1 < width ∧ p.2 < height ∧ testBit data (p.2 * stride + p.1 / 8) (p.1 % 8) = true}

/-- A pixel has a bit of its own. -/
lemma index_inj {stride x y x' y' : ℕ} (hx : x < 8 * stride) (hx' : x' < 8 * stride)
    (hindex : y * stride + x / 8 = y' * stride + x' / 8) (hcolumn : x % 8 = x' % 8) :
    x = x' ∧ y = y' := by
  have hstride : 0 < stride := by omega
  have hcell : x / 8 < stride := by omega
  have hcell' : x' / 8 < stride := by omega
  have hrow : y = y' := by
    have hy : (y * stride + x / 8) / stride = y := by
      rw [Nat.mul_comm, Nat.mul_add_div hstride, Nat.div_eq_of_lt hcell, Nat.add_zero]
    have hy' : (y' * stride + x' / 8) / stride = y' := by
      rw [Nat.mul_comm, Nat.mul_add_div hstride, Nat.div_eq_of_lt hcell', Nat.add_zero]
    rw [← hy, hindex, hy']
  subst hrow
  exact ⟨by omega, rfl⟩

/-- The bit of a pixel lies in its row. -/
lemma index_lt {stride width height x y : ℕ} (hwidth : width ≤ 8 * stride) (hx : x < width)
    (hy : y < height) : y * stride + x / 8 < stride * height := by
  have hcell : x / 8 < stride := by omega
  calc y * stride + x / 8 < y * stride + stride := Nat.add_lt_add_left hcell _
    _ = (y + 1) * stride := (Nat.succ_mul y stride).symm
    _ ≤ height * stride := Nat.mul_le_mul_right _ hy
    _ = stride * height := Nat.mul_comm _ _

/-- **Setting the bit of a pixel blackens that pixel and no other.** -/
lemma pixels_setBit {data : List UInt8} {stride width height x y : ℕ} (hwidth : width ≤ 8 * stride)
    (hlength : data.length = stride * height) (hx : x < width) (hy : y < height) :
    pixels (setBit data (y * stride + x / 8) (x % 8)) stride width height =
      pixels data stride width height ∪ {(x, y)} := by
  have hindex : y * stride + x / 8 < data.length := hlength ▸ index_lt hwidth hx hy
  ext ⟨x', y'⟩
  simp only [pixels, Set.mem_ofPred_eq, Set.mem_union, Set.mem_singleton_iff, Prod.mk.injEq]
  rw [testBit_setBit (Nat.mod_lt _ (by decide)) (Nat.mod_lt _ (by decide))]
  constructor
  · rintro ⟨hx', hy', hold | ⟨-, hi, hc⟩⟩
    · exact .inl ⟨hx', hy', hold⟩
    · exact .inr (index_inj (by omega) (by omega) hi hc)
  · rintro (⟨hx', hy', hold⟩ | ⟨rfl, rfl⟩)
    · exact ⟨hx', hy', .inl hold⟩
    · exact ⟨hx, hy, .inr ⟨hindex, rfl, rfl⟩⟩

/-- A bitmap of zeros is white. -/
lemma pixels_replicate {n stride width height : ℕ} :
    pixels (List.replicate n 0) stride width height = ∅ := by
  ext ⟨x, y⟩
  simp only [pixels, testBit, Set.mem_ofPred_eq, Set.mem_empty_iff_false, iff_false]
  rintro ⟨-, -, hbit⟩
  rw [List.getElem?_replicate] at hbit
  split at hbit
  · rename_i byte hbyte
    split at hbyte
    · cases hbyte
      simp at hbit
    · cases hbyte
  · cases hbit

end Bitmap
