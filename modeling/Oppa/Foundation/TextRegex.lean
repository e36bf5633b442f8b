import Oppa.Foundation.Regex
import Oppa.Foundation.Utf16

/-!
# Expressions that describe ASCII texts

A regular expression reads code units.  Where everything it describes is ASCII, it may be read as a
property of texts, and put together like one.

* `exists_encode`, `append_of_encode` — from code units back to characters.
* `Describes` — an expression and the property of texts that it stands for.
* `Describes.literal`, `Describes.plus`, `Describes.seq`, `Describes.alt`, … — how properties are
  put together.
* `Describes.mem_seq` — an ASCII text followed by whatever another expression describes.
-/

namespace Utf16

/-! ## Back from code units -/

lemma unit_injective {c d : Char} (hc : c.toNat < 0x10000) (hd : d.toNat < 0x10000)
    (h : unit c = unit d) : c = d := by
  rw [← Char.toNat_inj, ← toNat_unit hc, ← toNat_unit hd, h]

/-- Code units of ASCII make up a text. -/
lemma exists_encode {w : List UInt16} (h : ∀ u ∈ w, u.toNat < 0x80) :
    ∃ cs, encode cs = w ∧ ∀ c ∈ cs, c.toNat < 0x80 := by
  induction w with
  | nil => exact ⟨[], rfl, fun c hc => absurd hc List.not_mem_nil⟩
  | cons u w ih =>
      rw [List.forall_mem_cons] at h
      obtain ⟨cs, hcs, hascii⟩ := ih h.2
      have hvalid : u.toNat.isValidChar := .inl (by omega)
      have hchar : (Char.ofNat u.toNat).toNat = u.toNat := by
        rw [Char.ofNat, dif_pos hvalid]
        rfl
      refine ⟨Char.ofNat u.toNat :: cs, ?_, List.forall_mem_cons.mpr ⟨by omega, hascii⟩⟩
      rw [encode_cons, units_of_basic (by omega), hcs, unit, hchar, UInt16.ofNat_toNat]
      rfl

/-- What follows an ASCII text in the encoding follows it in the text. -/
lemma append_of_encode {front cs : List Char} {w : List UInt16}
    (hascii : ∀ c ∈ front, c.toNat < 0x80) (h : encode front ++ w = encode cs) :
    ∃ back, cs = front ++ back ∧ encode back = w := by
  induction front generalizing cs with
  | nil => exact ⟨cs, rfl, h.symm⟩
  | cons c front ih =>
      rw [List.forall_mem_cons] at hascii
      rw [encode_cons, units_of_basic (by omega)] at h
      cases cs with
      | nil => cases h
      | cons d cs =>
          rw [encode_cons] at h
          have hd : d.toNat < 0x80 := by
            by_contra hbeyond
            obtain ⟨u, us, hunits⟩ := List.exists_cons_of_ne_nil (units_ne_nil d)
            have hlarge := le_of_mem_units (Nat.le_of_not_lt hbeyond)
              (hunits ▸ List.mem_cons_self : u ∈ units d)
            rw [hunits, List.append_assoc, List.singleton_append, List.cons_append,
              List.cons.injEq] at h
            rw [← h.1, toNat_unit (by omega)] at hlarge
            omega
          rw [units_of_basic (by omega), List.append_assoc, List.singleton_append,
            List.singleton_append, List.cons.injEq] at h
          obtain ⟨back, rfl, hback⟩ := ih hascii.2 h.2
          exact ⟨back, by rw [unit_injective (by omega) (by omega) h.1, List.cons_append], hback⟩

lemma cons_of_encode {c : Char} {cs : List Char} {w : List UInt16} (hc : c.toNat < 0x80)
    (h : encode cs = unit c :: w) : ∃ rest, cs = c :: rest ∧ encode rest = w := by
  have hfront : encode [c] = [unit c] := by
    rw [encode_cons, units_of_basic (by omega), encode_nil, List.append_nil]
  refine append_of_encode (List.forall_mem_singleton.mpr hc) ?_
  rw [hfront, h]
  rfl

/-! ## Properties of texts -/

/-- The expression describes the texts with a property, which are all ASCII. -/
structure Describes (r : Regex UInt16) (f : List Char → Prop) : Prop where
  ascii : ∀ cs, f cs → ∀ c ∈ cs, c.toNat < 0x80
  language : ∀ w, w ∈ r.language ↔ ∃ cs, f cs ∧ encode cs = w

section Describes

variable {r s : Regex UInt16} {f g : List Char → Prop}

/-- An ASCII text, and then whatever the second expression describes. -/
lemma Describes.mem_seq (hr : Describes r f) (cs : List Char) :
    encode cs ∈ (Regex.seq r s).language ↔
      ∃ front back, cs = front ++ back ∧ f front ∧ encode back ∈ s.language := by
  rw [Regex.mem_seq]
  constructor
  · rintro ⟨u, v, happend, hu, hv⟩
    obtain ⟨front, hfront, rfl⟩ := (hr.language u).mp hu
    obtain ⟨back, rfl, rfl⟩ := append_of_encode (hr.ascii front hfront) happend
    exact ⟨front, back, rfl, hfront, hv⟩
  · rintro ⟨front, back, rfl, hfront, hback⟩
    exact ⟨encode front, encode back, (encode_append front back).symm,
      (hr.language _).mpr ⟨front, hfront, rfl⟩, hback⟩

lemma Describes.congr (hr : Describes r f) (h : ∀ cs, f cs ↔ g cs) : Describes r g where
  ascii cs hcs := hr.ascii cs ((h cs).mpr hcs)
  language w := (hr.language w).trans (exists_congr fun cs => and_congr_left' (h cs))

lemma Describes.literal {word : List Char} (hascii : (word.all fun c => c.toNat < 0x80) = true) :
    Describes (Regex.literal (encode word)) (· = word) where
  ascii := by
    rintro cs rfl c hc
    exact of_decide_eq_true (List.all_eq_true.mp hascii c hc)
  language w := by
    rw [Regex.mem_literal]
    constructor
    · rintro rfl
      exact ⟨word, rfl, rfl⟩
    · rintro ⟨cs, rfl, rfl⟩
      rfl

lemma Describes.letter {c : Char} (hc : c.toNat < 0x80) :
    Describes (.letter (· == unit c)) (· = [c]) where
  ascii := by
    rintro _ rfl d hd
    rwa [List.mem_singleton.mp hd]
  language w := by
    rw [Regex.mem_letter]
    constructor
    · rintro ⟨u, hu, rfl⟩
      rw [beq_iff_eq.mp hu]
      refine ⟨[c], rfl, ?_⟩
      rw [encode_cons, units_of_basic (by omega), encode_nil, List.append_nil]
    · rintro ⟨_, rfl, rfl⟩
      refine ⟨unit c, beq_self_eq_true _, ?_⟩
      rw [encode_cons, units_of_basic (by omega), encode_nil, List.append_nil]

/-- One or more letters of a class. -/
lemma Describes.plus {p : UInt16 → Bool} {q : Char → Bool} (hclass : Class p q false) :
    Describes (.seq (.letter p) (.star (.letter p))) (fun cs => cs ≠ [] ∧ ∀ c ∈ cs, q c = true)
    where
  ascii cs hcs c hc := by
    by_contra hbeyond
    have htrue := hcs.2 c hc
    rw [hclass.char c (by omega)] at htrue
    cases htrue
  language w := by
    rw [Regex.mem_letter_seq]
    simp only [Regex.mem_star_letter]
    constructor
    · rintro ⟨u, v, rfl, hu, hv⟩
      have hall : (u :: v).all p = true := by rw [List.all_cons, hu, hv, Bool.and_self]
      have hascii : ∀ x ∈ u :: v, x.toNat < 0x80 := by
        intro x hx
        by_contra hbeyond
        have htrue := List.all_eq_true.mp hall x hx
        rw [hclass.unit x (by omega)] at htrue
        cases htrue
      obtain ⟨cs, hcs, -⟩ := exists_encode hascii
      rw [← hcs, hclass.all_encode, List.all_eq_true] at hall
      refine ⟨cs, ⟨?_, hall⟩, hcs⟩
      rintro rfl
      cases hcs
    · rintro ⟨cs, ⟨hne, hall⟩, rfl⟩
      have hunits : (encode cs).all p = true := by
        rw [hclass.all_encode, List.all_eq_true]
        exact hall
      obtain ⟨u, v, hencode⟩ :=
        List.exists_cons_of_ne_nil (fun hnil => hne (encode_eq_nil.mp hnil))
      rw [hencode, List.all_cons, Bool.and_eq_true] at hunits
      exact ⟨u, v, hencode, hunits.1, hunits.2⟩

/-- Between one and some number of letters of a class. -/
lemma Describes.between {p : UInt16 → Bool} {q : Char → Bool} (hclass : Class p q false) {n : ℕ}
    (hn : 1 ≤ n) : Describes ((Regex.letter p).between 1 n)
      (fun cs => 1 ≤ cs.length ∧ cs.length ≤ n ∧ ∀ c ∈ cs, q c = true) where
  ascii cs hcs c hc := by
    by_contra hbeyond
    have htrue := hcs.2.2 c hc
    rw [hclass.char c (by omega)] at htrue
    cases htrue
  language w := by
    rw [Regex.mem_between_letter hn]
    constructor
    · rintro ⟨hlower, hupper, hall⟩
      have hascii : ∀ x ∈ w, x.toNat < 0x80 := by
        intro x hx
        by_contra hbeyond
        have htrue := List.all_eq_true.mp hall x hx
        rw [hclass.unit x (by omega)] at htrue
        cases htrue
      obtain ⟨cs, rfl, hcs⟩ := exists_encode hascii
      rw [encode_of_ascii hcs, List.length_map] at hlower hupper
      rw [hclass.all_encode, List.all_eq_true] at hall
      exact ⟨cs, ⟨hlower, hupper, hall⟩, rfl⟩
    · rintro ⟨cs, ⟨hlower, hupper, hall⟩, rfl⟩
      have hascii : ∀ c ∈ cs, c.toNat < 0x80 := by
        intro c hc
        by_contra hbeyond
        have htrue := hall c hc
        rw [hclass.char c (by omega)] at htrue
        cases htrue
      rw [hclass.all_encode, List.all_eq_true, encode_of_ascii hascii, List.length_map]
      exact ⟨hlower, hupper, hall⟩

lemma Describes.seq (hr : Describes r f) (hs : Describes s g) :
    Describes (.seq r s) (fun cs => ∃ front back, cs = front ++ back ∧ f front ∧ g back) where
  ascii := by
    rintro _ ⟨front, back, rfl, hfront, hback⟩ c hc
    rcases List.mem_append.mp hc with hc | hc
    · exact hr.ascii front hfront c hc
    · exact hs.ascii back hback c hc
  language w := by
    rw [Regex.mem_seq]
    constructor
    · rintro ⟨u, v, rfl, hu, hv⟩
      obtain ⟨front, hfront, rfl⟩ := (hr.language u).mp hu
      obtain ⟨back, hback, rfl⟩ := (hs.language v).mp hv
      exact ⟨front ++ back, ⟨front, back, rfl, hfront, hback⟩, encode_append front back⟩
    · rintro ⟨_, ⟨front, back, rfl, hfront, hback⟩, rfl⟩
      exact ⟨encode front, encode back, (encode_append front back).symm,
        (hr.language _).mpr ⟨front, hfront, rfl⟩, (hs.language _).mpr ⟨back, hback, rfl⟩⟩

lemma Describes.alt (hr : Describes r f) (hs : Describes s g) :
    Describes (.alt r s) (fun cs => f cs ∨ g cs) where
  ascii cs hcs := hcs.elim (hr.ascii cs) (hs.ascii cs)
  language w := by
    rw [Regex.mem_alt, hr.language, hs.language, ← exists_or]
    exact exists_congr fun cs => or_and_right.symm

lemma Describes.optional (hr : Describes r f) :
    Describes r.optional (fun cs => f cs ∨ cs = []) :=
  hr.alt (s := .empty)
    { ascii := fun cs hcs => hcs ▸ fun c hc => absurd hc List.not_mem_nil
      language := fun w => by
        rw [Regex.mem_empty]
        constructor
        · rintro rfl
          exact ⟨[], rfl, rfl⟩
        · rintro ⟨cs, rfl, rfl⟩
          rfl }

end Describes

end Utf16
