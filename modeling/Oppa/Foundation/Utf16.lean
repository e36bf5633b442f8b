import Oppa.Foundation.Text

/-!
# Texts as UTF-16 code units

Strings as JavaScript has them, whose letters are 16-bit code units, and the texts among them.

* `unit`, `units`, `encode` — the code unit of a character of the basic plane, and those of any
  character and text.
* `Class` — a class of code units and a class of characters that say the same of ASCII and treat
  everything beyond ASCII alike; `Class.all_encode` is what it is for.
* `splitOnP_encode` — splitting at an ASCII character before or after the encoding is the same.
-/

namespace Utf16

open Text

/-- The code unit of a character of the basic plane. -/
def unit (c : Char) : UInt16 := UInt16.ofNat c.toNat

/-- The code units of a character. -/
def units (c : Char) : List UInt16 :=
  if c.toNat < 0x10000 then [unit c]
  else
    [UInt16.ofNat (0xd800 + (c.toNat - 0x10000) / 0x400),
      UInt16.ofNat (0xdc00 + (c.toNat - 0x10000) % 0x400)]

/-- The code units of a text. -/
def encode (cs : List Char) : List UInt16 := cs.flatMap units

/-- `[\uD800-\uDBFF]`. -/
def isHighSurrogate (u : UInt16) : Bool := 0xd800 ≤ u.toNat && u.toNat ≤ 0xdbff

/-- `[\uDC00-\uDFFF]`. -/
def isLowSurrogate (u : UInt16) : Bool := 0xdc00 ≤ u.toNat && u.toNat ≤ 0xdfff

@[simp] lemma encode_nil : encode [] = [] := rfl

@[simp] lemma encode_cons (c : Char) (cs : List Char) :
    encode (c :: cs) = units c ++ encode cs := rfl

@[simp] lemma encode_append (cs ds : List Char) : encode (cs ++ ds) = encode cs ++ encode ds :=
  List.flatMap_append

lemma toNat_lt (c : Char) : c.toNat < 0x110000 := by
  have hvalid := c.valid
  simp only [UInt32.isValidChar, Nat.isValidChar] at hvalid
  have hval : c.toNat = c.val.toNat := rfl
  omega

/-- A character is no surrogate. -/
lemma not_surrogate (c : Char) : c.toNat < 0xd800 ∨ 0xdfff < c.toNat := by
  have hvalid := c.valid
  simp only [UInt32.isValidChar, Nat.isValidChar] at hvalid
  have hval : c.toNat = c.val.toNat := rfl
  omega

lemma toNat_unit {c : Char} (hbasic : c.toNat < 0x10000) : (unit c).toNat = c.toNat := by
  rw [unit, UInt16.toNat_ofNat']
  exact Nat.mod_eq_of_lt hbasic

lemma units_of_basic {c : Char} (hbasic : c.toNat < 0x10000) : units c = [unit c] := if_pos hbasic

/-- A character beyond the basic plane is a pair of surrogates. -/
lemma units_of_supplementary {c : Char} (hbeyond : 0x10000 ≤ c.toNat) :
    ∃ high low, units c = [high, low] ∧ isHighSurrogate high = true ∧ isLowSurrogate low = true := by
  have hlimit := toNat_lt c
  refine ⟨_, _, if_neg (by omega), ?_, ?_⟩ <;>
    simp only [isHighSurrogate, isLowSurrogate, UInt16.toNat_ofNat', Bool.and_eq_true,
      decide_eq_true_eq] <;>
    omega

lemma length_units (c : Char) : (units c).length = utf16Size c := by
  rw [units, utf16Size]
  split_ifs <;> rfl

/-- The length of a string is the number of its code units. -/
lemma length_encode (s : String) : (encode s.toList).length = utf16Length s := by
  rw [encode, List.length_flatMap, utf16Length]
  exact congrArg List.sum (List.map_congr_left fun c _ => length_units c)

/-- Every unit of a character beyond ASCII is beyond ASCII. -/
lemma le_of_mem_units {c : Char} (hc : 0x80 ≤ c.toNat) {u : UInt16} (hu : u ∈ units c) :
    0x80 ≤ u.toNat := by
  rcases Nat.lt_or_ge c.toNat 0x10000 with hbasic | hbeyond
  · rw [units_of_basic hbasic, List.mem_singleton] at hu
    rw [hu, toNat_unit hbasic]
    exact hc
  · obtain ⟨high, low, hunits, hhigh, hlow⟩ := units_of_supplementary hbeyond
    simp only [isHighSurrogate, isLowSurrogate, Bool.and_eq_true, decide_eq_true_eq] at hhigh hlow
    rw [hunits, List.mem_cons, List.mem_singleton] at hu
    rcases hu with rfl | rfl <;> omega

lemma units_ne_nil (c : Char) : units c ≠ [] := by
  rw [units]
  split_ifs <;> exact List.cons_ne_nil _ _

lemma encode_eq_nil {cs : List Char} : encode cs = [] ↔ cs = [] := by
  cases cs with
  | nil => exact iff_of_true rfl rfl
  | cons c cs =>
      refine iff_of_false ?_ (List.cons_ne_nil _ _)
      rw [encode_cons, List.append_eq_nil_iff]
      exact fun h => units_ne_nil c h.1

/-- ASCII texts are encoded letter by letter. -/
lemma encode_of_ascii {cs : List Char} (hascii : ∀ c ∈ cs, c.toNat < 0x80) :
    encode cs = cs.map unit := by
  induction cs with
  | nil => rfl
  | cons c cs ih =>
      have hc := hascii c List.mem_cons_self
      rw [encode_cons, units_of_basic (by omega), ih fun d hd => hascii d (List.mem_cons_of_mem _ hd)]
      rfl

/-! ## Classes -/

/-- The classes `p` of code units and `q` of characters agree on ASCII, and everything beyond ASCII
is in both, if `beyond`, or in none. -/
structure Class (p : UInt16 → Bool) (q : Char → Bool) (beyond : Bool) : Prop where
  ascii : ∀ c : Char, c.toNat < 0x80 → p (unit c) = q c
  unit : ∀ u : UInt16, 0x80 ≤ u.toNat → p u = beyond
  char : ∀ c : Char, 0x80 ≤ c.toNat → q c = beyond

section Classes

variable {p : UInt16 → Bool} {q : Char → Bool} {beyond : Bool}

lemma Class.all_units (hclass : Class p q beyond) (c : Char) : (units c).all p = q c := by
  rcases Nat.lt_or_ge c.toNat 0x80 with hascii | hbeyond
  · rw [units_of_basic (by omega), List.all_cons, List.all_nil, Bool.and_true,
      hclass.ascii c hascii]
  · have hall : ∀ u ∈ units c, p u = beyond := fun u hu =>
      hclass.unit u (le_of_mem_units hbeyond hu)
    rw [hclass.char c hbeyond]
    cases hunits : units c with
    | nil => exact absurd hunits (units_ne_nil c)
    | cons u us =>
        rw [hunits] at hall
        cases beyond with
        | true => exact List.all_eq_true.mpr hall
        | false => rw [List.all_cons, hall u List.mem_cons_self, Bool.false_and]

/-- A class of code units holds all those of a text if the class of characters holds the text. -/
lemma Class.all_encode (hclass : Class p q beyond) (cs : List Char) :
    (encode cs).all p = cs.all q := by
  induction cs with
  | nil => rfl
  | cons c cs ih => rw [encode_cons, List.all_append, hclass.all_units, ih, List.all_cons]

/-- Letters that are no separators stay with the first part. -/
lemma splitOnP_append_of_all {α : Type*} {p : α → Bool} {front : List α}
    (hfront : ∀ a ∈ front, p a = false) (back : List α) :
    (front ++ back).splitOnP p = (back.splitOnP p).modifyHead (front ++ ·) := by
  induction front with
  | nil =>
      obtain ⟨part, parts, hparts⟩ := List.exists_cons_of_ne_nil (List.splitOnP_ne_nil p back)
      rw [List.nil_append, hparts]
      rfl
  | cons a front ih =>
      have ha := hfront a List.mem_cons_self
      obtain ⟨part, parts, hparts⟩ := List.exists_cons_of_ne_nil (List.splitOnP_ne_nil p back)
      rw [List.cons_append, List.splitOnP_cons_eq_if_modifyHead, ha, if_neg (by simp),
        ih fun b hb => hfront b (List.mem_cons_of_mem _ hb), hparts]
      rfl

/-- **Splitting at ASCII characters** commutes with the encoding. -/
lemma Class.splitOnP_encode (hclass : Class p q false) (cs : List Char) :
    (encode cs).splitOnP p = (cs.splitOnP q).map encode := by
  induction cs with
  | nil => rfl
  | cons c cs ih =>
      obtain ⟨part, parts, hparts⟩ := List.exists_cons_of_ne_nil (List.splitOnP_ne_nil q cs)
      rw [List.splitOnP_cons_eq_if_modifyHead, encode_cons]
      rw [hparts] at ih ⊢
      split_ifs with hc
      · have hascii : c.toNat < 0x80 := by
          by_contra hbeyond
          rw [hclass.char c (by omega)] at hc
          cases hc
        have hunit : p (Utf16.unit c) = true := (hclass.ascii c hascii).trans hc
        rw [units_of_basic (by omega), List.singleton_append, List.splitOnP_cons_eq_if_modifyHead,
          if_pos hunit, ih]
        rfl
      · have hnone : ∀ u ∈ units c, p u = false := by
          intro u hu
          rcases Nat.lt_or_ge c.toNat 0x80 with hascii | hbeyond
          · rw [units_of_basic (by omega), List.mem_singleton] at hu
            rw [hu, hclass.ascii c hascii]
            simpa using hc
          · exact hclass.unit u (le_of_mem_units hbeyond hu)
        rw [splitOnP_append_of_all hnone, ih]
        rfl

end Classes

end Utf16
