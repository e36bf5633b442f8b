import Mathlib.Data.Nat.Bitwise
import Mathlib.Data.Nat.ModEq
import Mathlib.Data.List.Basic
import Mathlib.Tactic.Lemma

/-!
# Streams of bits

Numbers of a fixed width written one after another, the highest bit of each first, and what it means
to group the same bits by another width.

* `bits`, `stream` — the bits of a number and of a list of numbers.
* `bits_shiftLeft_or`, `bits_add` — a number put together from two, and one taken apart.
* `Packs` — some numbers of one width hold exactly the bits of some numbers of another, followed by
  fewer zeros than make up one more.
* **`Packs.unique`**, **`Packs.unique_source`** — either side determines the other.
-/

namespace BitStream

/-- The lowest `w` bits of a number, the highest of them first. -/
def bits : ℕ → ℕ → List Bool
  | 0, _ => []
  | w + 1, n => n.testBit w :: bits w n

example : bits 2 1 = [false, true] := by
  rw [bits]
  rfl

/-- The bits of some numbers of the same width. -/
def stream (w : ℕ) (ns : List ℕ) : List Bool := ns.flatMap (bits w)

/-! ## One number -/

@[simp] lemma length_bits (w n : ℕ) : (bits w n).length = w := by
  induction w with
  | zero => rfl
  | succ w ih => rw [bits, List.length_cons, ih]

lemma bits_congr {w n m : ℕ} (h : ∀ i < w, n.testBit i = m.testBit i) : bits w n = bits w m := by
  induction w with
  | zero => rfl
  | succ w ih =>
      rw [bits, bits, h w (Nat.lt_succ_self w), ih fun i hi => h i (Nat.lt_succ_of_lt hi)]

lemma testBit_of_bits {w n m : ℕ} (h : bits w n = bits w m) :
    ∀ i < w, n.testBit i = m.testBit i := by
  induction w with
  | zero =>
      intro i hi
      exact absurd hi (Nat.not_lt_zero i)
  | succ w ih =>
      intro i hi
      rw [bits, bits, List.cons.injEq] at h
      rcases Nat.lt_succ_iff_lt_or_eq.mp hi with hlt | rfl
      · exact ih h.2 i hlt
      · exact h.1

/-- A number is determined by its bits. -/
lemma eq_of_bits {w n m : ℕ} (hn : n < 2 ^ w) (hm : m < 2 ^ w) (h : bits w n = bits w m) :
    n = m := by
  refine Nat.eq_of_testBit_eq fun i => ?_
  rcases Nat.lt_or_ge i w with hi | hi
  · exact testBit_of_bits h i hi
  · have hpow : 2 ^ w ≤ 2 ^ i := Nat.pow_le_pow_right (by omega) hi
    rw [Nat.testBit_lt_two_pow (by omega), Nat.testBit_lt_two_pow (by omega)]

lemma bits_mod (w n : ℕ) : bits w (n % 2 ^ w) = bits w n := by
  refine bits_congr fun i hi => ?_
  rw [Nat.testBit_mod_two_pow, decide_eq_true hi, Bool.true_and]

lemma bits_zero (w : ℕ) : bits w 0 = List.replicate w false := by
  induction w with
  | zero => rfl
  | succ w ih => rw [bits, ih, Nat.zero_testBit, List.replicate_succ]

/-- A number is zero if its bits are. -/
lemma eq_zero_of_bits {w n : ℕ} (hn : n < 2 ^ w) (h : bits w n = List.replicate w false) :
    n = 0 :=
  eq_of_bits hn (Nat.two_pow_pos w) (h.trans (bits_zero w).symm)

/-- The bits of a number, taken apart at a place. -/
lemma bits_add (a b n : ℕ) : bits (a + b) n = bits a (n >>> b) ++ bits b n := by
  induction a with
  | zero => rw [Nat.zero_add, bits, List.nil_append]
  | succ a ih =>
      rw [Nat.succ_add, bits, ih, bits, Nat.testBit_shiftRight, Nat.add_comm b a, List.cons_append]

/-- A number shifted up and another put below it. -/
lemma bits_shiftLeft_or {b x y : ℕ} (a : ℕ) (hy : y < 2 ^ b) :
    bits (a + b) (x <<< b ||| y) = bits a x ++ bits b y := by
  rw [bits_add]
  congr 1
  · refine bits_congr fun i _ => ?_
    have hpow : 2 ^ b ≤ 2 ^ (b + i) := Nat.pow_le_pow_right (by omega) (Nat.le_add_right b i)
    have hclear : y.testBit (b + i) = false := Nat.testBit_lt_two_pow (by omega)
    rw [Nat.testBit_shiftRight, Nat.testBit_or, Nat.testBit_shiftLeft, Nat.add_sub_cancel_left,
      decide_eq_true (Nat.le_add_right b i), Bool.true_and, hclear, Bool.or_false]
  · refine bits_congr fun i hi => ?_
    rw [Nat.testBit_or, Nat.testBit_shiftLeft, decide_eq_false (by omega), Bool.false_and,
      Bool.false_or]

lemma shiftLeft_or_lt {a b x y : ℕ} (hx : x < 2 ^ a) (hy : y < 2 ^ b) :
    x <<< b ||| y < 2 ^ (a + b) := by
  have hle : 2 ^ b ≤ 2 ^ (a + b) := Nat.pow_le_pow_right (by omega) (Nat.le_add_left b a)
  refine Nat.or_lt_two_pow ?_ (by omega)
  rw [Nat.shiftLeft_eq, Nat.pow_add]
  exact Nat.mul_lt_mul_of_pos_right hx (Nat.two_pow_pos b)

/-! ## Many numbers -/

@[simp] lemma stream_nil (w : ℕ) : stream w [] = [] := rfl

@[simp] lemma stream_cons (w n : ℕ) (ns : List ℕ) : stream w (n :: ns) = bits w n ++ stream w ns :=
  rfl

@[simp] lemma stream_append (w : ℕ) (ns ms : List ℕ) :
    stream w (ns ++ ms) = stream w ns ++ stream w ms :=
  List.flatMap_append

lemma stream_singleton (w n : ℕ) : stream w [n] = bits w n := by
  rw [stream_cons, stream_nil, List.append_nil]

@[simp] lemma length_stream (w : ℕ) (ns : List ℕ) : (stream w ns).length = w * ns.length := by
  induction ns with
  | nil => rfl
  | cons n ns ih =>
      rw [stream_cons, List.length_append, length_bits, ih, List.length_cons, Nat.mul_succ,
        Nat.add_comm]

/-- Numbers of one width are determined by their bits. -/
lemma eq_of_stream {w : ℕ} (hw : 0 < w) {ns ms : List ℕ} (hns : ∀ n ∈ ns, n < 2 ^ w)
    (hms : ∀ m ∈ ms, m < 2 ^ w) (h : stream w ns = stream w ms) : ns = ms := by
  have hlength : ns.length = ms.length := by
    have hboth := congrArg List.length h
    rw [length_stream, length_stream] at hboth
    exact Nat.eq_of_mul_eq_mul_left hw hboth
  induction ns generalizing ms with
  | nil => exact (List.length_eq_zero_iff.mp hlength.symm).symm
  | cons n ns ih =>
      cases ms with
      | nil => cases hlength
      | cons m ms =>
          rw [stream_cons, stream_cons] at h
          obtain ⟨hhead, htail⟩ := List.append_inj h (by rw [length_bits, length_bits])
          rw [eq_of_bits (hns n List.mem_cons_self) (hms m List.mem_cons_self) hhead,
            ih (fun k hk => hns k (List.mem_cons_of_mem _ hk))
              (fun k hk => hms k (List.mem_cons_of_mem _ hk)) htail (Nat.succ.inj hlength)]

/-! ## The same bits in another width -/

/-- The numbers `ms` of `v` bits hold the bits of the numbers `ns` of `w` bits, then fewer than `v`
zeros. -/
structure Packs (w v : ℕ) (ns ms : List ℕ) : Prop where
  source : ∀ n ∈ ns, n < 2 ^ w
  target : ∀ m ∈ ms, m < 2 ^ v
  agrees : ∃ padding < v, stream v ms = stream w ns ++ List.replicate padding false

variable {w v : ℕ} {ns ns' ms ms' : List ℕ}

lemma Packs.length (h : Packs w v ns ms) :
    ∃ padding < v, v * ms.length = w * ns.length + padding := by
  obtain ⟨padding, hpadding, hbits⟩ := h.agrees
  refine ⟨padding, hpadding, ?_⟩
  have hlength := congrArg List.length hbits
  rwa [length_stream, List.length_append, length_stream, List.length_replicate] at hlength

/-- **What is packed determines the packing.** -/
theorem Packs.unique (hv : 0 < v) (h : Packs w v ns ms) (h' : Packs w v ns ms') : ms = ms' := by
  obtain ⟨p, hp, hbits⟩ := h.agrees
  obtain ⟨p', hp', hbits'⟩ := h'.agrees
  have hlength := congrArg List.length hbits
  have hlength' := congrArg List.length hbits'
  simp only [length_stream, List.length_append, List.length_replicate] at hlength hlength'
  -- both paddings fill the same stream up to a multiple of the width
  have hsame : p = p' := by
    have hmod : (w * ns.length + p) % v = (w * ns.length + p') % v := by
      rw [← hlength, ← hlength', Nat.mul_mod_right, Nat.mul_mod_right]
    have hrest := Nat.ModEq.add_left_cancel' (w * ns.length) hmod
    rwa [Nat.ModEq, Nat.mod_eq_of_lt hp, Nat.mod_eq_of_lt hp'] at hrest
  exact eq_of_stream hv h.target h'.target (by rw [hbits, hbits', hsame])

/-- **The packing determines what is packed**, if no whole number fits in the padding. -/
theorem Packs.unique_source (hv : 0 < v) (hvw : v ≤ w) (h : Packs w v ns ms)
    (h' : Packs w v ns' ms) : ns = ns' := by
  obtain ⟨p, hp, hbits⟩ := h.agrees
  obtain ⟨p', hp', hbits'⟩ := h'.agrees
  have hlength := congrArg List.length (hbits.symm.trans hbits')
  simp only [length_stream, List.length_append, List.length_replicate] at hlength
  have hsame : ns.length = ns'.length := by
    rcases Nat.lt_trichotomy ns.length ns'.length with hlt | heq | hlt
    · have hmul : w * (ns.length + 1) ≤ w * ns'.length := Nat.mul_le_mul_left w hlt
      rw [Nat.mul_succ] at hmul
      omega
    · exact heq
    · have hmul : w * (ns'.length + 1) ≤ w * ns.length := Nat.mul_le_mul_left w hlt
      rw [Nat.mul_succ] at hmul
      omega
  refine eq_of_stream (by omega) h.source h'.source ?_
  exact (List.append_inj (hbits.symm.trans hbits') (by rw [length_stream, length_stream, hsame])).1

end BitStream
