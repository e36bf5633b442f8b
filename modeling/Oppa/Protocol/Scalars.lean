import Oppa.Foundation.Regex
import Oppa.Foundation.Utf16
import Oppa.Protocol.Validation

/-!
# The scalar formats of both packages

Identifiers, timestamps and brand names as the schemas of the TypeScript package describe them, next
to the checks of the Rust crate.

* `StringSchema` — bounds on the number of code units and a pattern for the whole string.
* `identifierSchema`, `timestampSchema`, `brandNameSchema` — the three schemas.
* `mem_identifierPattern`, `mem_timestampPattern`, `mem_brandPattern` — what the patterns describe.

**`scalar_formats_agree`** says that either package accepts exactly what the other does.
-/

namespace Oppa.Protocol

open Text Utf16

/-! ## The schemas -/

namespace Schema

/-- `Type.String` with both bounds and a pattern. -/
structure StringSchema where
  minLength : ℕ
  maxLength : ℕ
  pattern : Regex UInt16

/-- Whether a string meets its schema. -/
def StringSchema.accepts (schema : StringSchema) (value : List UInt16) : Bool :=
  schema.minLength ≤ value.length && value.length ≤ schema.maxLength && schema.pattern.test value

/-- `[\uXXXX-\uYYYY]`. -/
def within (low high : ℕ) (u : UInt16) : Bool := low ≤ u.toNat && u.toNat ≤ high

/-- A letter that stands for itself. -/
def character (c : Char) : Regex UInt16 := .letter (· == unit c)

/-- One expression after another. -/
def concat : List (Regex UInt16) → Regex UInt16
  | [] => .empty
  | r :: rs => .seq r (concat rs)

/-- `[A-Za-z0-9]`. -/
def isAlphanumeric (u : UInt16) : Bool :=
  within 0x41 0x5a u || within 0x61 0x7a u || within 0x30 0x39 u

/-- `[A-Za-z0-9._:-]`. -/
def isIdentifierUnit (u : UInt16) : Bool :=
  isAlphanumeric u || u.toNat = 0x2e || u.toNat = 0x5f || u.toNat = 0x3a || u.toNat = 0x2d

/-- The pattern of `IdentifierSchema`. -/
def identifierPattern : Regex UInt16 :=
  .seq (.letter isAlphanumeric) ((Regex.letter isIdentifierUnit).between 0 127)

/-- `IdentifierSchema`. -/
def identifierSchema : StringSchema := ⟨1, 128, identifierPattern⟩

/-- `\d`. -/
def digit : Regex UInt16 := .letter (within 0x30 0x39)

/-- `(?:0[1-9]|1[0-2])`. -/
def month : Regex UInt16 :=
  .alt (.seq (character '0') (.letter (within 0x31 0x39)))
    (.seq (character '1') (.letter (within 0x30 0x32)))

/-- `(?:0[1-9]|[12]\d|3[01])`. -/
def day : Regex UInt16 :=
  .alt (.seq (character '0') (.letter (within 0x31 0x39)))
    (.alt (.seq (.letter (within 0x31 0x32)) digit)
      (.seq (character '3') (.letter (within 0x30 0x31))))

/-- `(?:[01]\d|2[0-3])`. -/
def hour : Regex UInt16 :=
  .alt (.seq (.letter (within 0x30 0x31)) digit)
    (.seq (character '2') (.letter (within 0x30 0x33)))

/-- `[0-5]\d`. -/
def sixtieth : Regex UInt16 := .seq (.letter (within 0x30 0x35)) digit

/-- `\.\d{1,9}`. -/
def fraction : Regex UInt16 := .seq (character '.') (digit.between 1 9)

/-- The pattern of `TimestampSchema`. -/
def timestampPattern : Regex UInt16 :=
  concat [digit, digit, digit, digit, character '-', month, character '-', day, character 'T', hour,
    character ':', sixtieth, character ':', sixtieth, fraction.optional, character 'Z']

/-- `TimestampSchema`. -/
def timestampSchema : StringSchema := ⟨20, 30, timestampPattern⟩

/-- `BRAND_UNSAFE_CHARACTER_CLASS`. -/
def isBrandUnsafe (u : UInt16) : Bool :=
  within 0 0x1f u || within 0x7f 0x9f u || u.toNat = 0x61c || u.toNat = 0x200e ||
    u.toNat = 0x200f || within 0x202a 0x202e u || within 0x2066 0x2069 u

/-- `BRAND_EDGE_WHITESPACE_CHARACTER_CLASS`. -/
def isBrandEdge (u : UInt16) : Bool :=
  u.toNat = 0x20 || u.toNat = 0xa0 || u.toNat = 0x1680 || within 0x2000 0x200a u ||
    u.toNat = 0x2028 || u.toNat = 0x2029 || u.toNat = 0x202f || u.toNat = 0x205f ||
    u.toNat = 0x3000 || u.toNat = 0xfeff

/-- `BRAND_SURROGATE_CHARACTER_CLASS`. -/
def isSurrogate (u : UInt16) : Bool := within 0xd800 0xdfff u

/-- `[\uD800-\uDBFF][\uDC00-\uDFFF]`. -/
def surrogatePair : Regex UInt16 := .seq (.letter isHighSurrogate) (.letter isLowSurrogate)

/-- `(?:[\uD800-\uDBFF][\uDC00-\uDFFF]|[^…])`, where the class also leaves out the surrogates. -/
def scalarOutside (excluded : UInt16 → Bool) : Regex UInt16 :=
  .alt surrogatePair (.letter fun u => !(excluded u || isSurrogate u))

/-- `BRAND_UNICODE_SCALAR_PATTERN`. -/
def brandScalar : Regex UInt16 := scalarOutside isBrandUnsafe

/-- `BRAND_SAFE_EDGE_PATTERN`. -/
def brandSafeEdge : Regex UInt16 := scalarOutside fun u => isBrandUnsafe u || isBrandEdge u

/-- `BRAND_NAME_PATTERN`. -/
def brandPattern : Regex UInt16 :=
  .seq brandSafeEdge (Regex.optional (.seq (.star brandScalar) brandSafeEdge))

/-- `OpenPrinterBrandNameSchema`. -/
def brandNameSchema : StringSchema := ⟨1, 256, brandPattern⟩

end Schema

open Schema

lemma Schema.StringSchema.accepts_iff (schema : StringSchema) (value : List UInt16) :
    schema.accepts value = true ↔
      schema.minLength ≤ value.length ∧ value.length ≤ schema.maxLength ∧
        value ∈ schema.pattern.language := by
  rw [StringSchema.accepts, Bool.and_eq_true, Bool.and_eq_true, decide_eq_true_eq,
    decide_eq_true_eq, Regex.test_iff, and_assoc]

/-! ## Identifiers -/

lemma identifierClass : Utf16.Class isIdentifierUnit isIdentifierCharacter false where
  ascii c hc := by
    have hunit := toNat_unit (c := c) (by omega)
    simp only [isIdentifierUnit, isIdentifierCharacter, isAlphanumeric, isAsciiAlphanumeric, within,
      hunit, ← Char.toNat_inj]
    rw [Bool.eq_iff_iff]
    simp
    omega
  unit u hu := by
    rw [← Bool.not_eq_true]
    simp [isIdentifierUnit, isAlphanumeric, within]
    omega
  char c hc := by
    rw [← Bool.not_eq_true]
    intro h
    have hlt := isIdentifierCharacter_lt h
    omega

lemma alphanumericClass : Utf16.Class isAlphanumeric isAsciiAlphanumeric false where
  ascii c hc := by
    have hunit := toNat_unit (c := c) (by omega)
    simp only [isAlphanumeric, isAsciiAlphanumeric, within, hunit]
    rw [Bool.eq_iff_iff]
    simp
    omega
  unit u hu := by
    rw [← Bool.not_eq_true]
    simp [isAlphanumeric, within]
    omega
  char c hc := by
    rw [← Bool.not_eq_true]
    intro h
    have hlt := isAsciiAlphanumeric_lt h
    omega

/-- The first letter of a text is in a class of ASCII letters if its first character is. -/
lemma encode_eq_cons_of_class {p : UInt16 → Bool} {q : Char → Bool} (hclass : Utf16.Class p q false)
    {cs : List Char} {u : UInt16} {w : List UInt16} (hencode : encode cs = u :: w)
    (hu : p u = true) : ∃ c rest, cs = c :: rest ∧ q c = true ∧ w = encode rest := by
  cases cs with
  | nil => cases hencode
  | cons c rest =>
      rw [encode_cons] at hencode
      have hascii : c.toNat < 0x80 := by
        by_contra hbeyond
        have hmem : u ∈ units c := by
          cases hunits : units c with
          | nil => exact absurd hunits (units_ne_nil c)
          | cons v vs =>
              rw [hunits, List.cons_append, List.cons.injEq] at hencode
              rw [hencode.1]
              exact List.mem_cons_self
        rw [hclass.unit u (le_of_mem_units (by omega) hmem)] at hu
        cases hu
      rw [units_of_basic (by omega), List.singleton_append, List.cons.injEq] at hencode
      refine ⟨c, rest, rfl, ?_, hencode.2.symm⟩
      rw [← hclass.ascii c hascii, hencode.1]
      exact hu

lemma mem_identifierPattern (cs : List Char) : encode cs ∈ identifierPattern.language ↔
    ∃ c rest, cs = c :: rest ∧ isAsciiAlphanumeric c = true ∧
      rest.all isIdentifierCharacter = true ∧ (encode rest).length ≤ 127 := by
  rw [identifierPattern, Regex.mem_letter_seq]
  constructor
  · rintro ⟨u, w, hencode, hu, hw⟩
    obtain ⟨c, rest, rfl, hc, rfl⟩ := encode_eq_cons_of_class alphanumericClass hencode hu
    obtain ⟨-, hlength, hall⟩ := (Regex.mem_between_letter (by omega)).mp hw
    rw [identifierClass.all_encode] at hall
    exact ⟨c, rest, rfl, hc, hall, hlength⟩
  · rintro ⟨c, rest, rfl, hc, hall, hlength⟩
    have hascii := isAsciiAlphanumeric_lt hc
    refine ⟨unit c, encode rest, ?_, ?_, (Regex.mem_between_letter (by omega)).mpr
      ⟨Nat.zero_le _, hlength, ?_⟩⟩
    · rw [encode_cons, units_of_basic (by omega)]
      rfl
    · rw [alphanumericClass.ascii c (by omega), hc]
    · rw [identifierClass.all_encode, hall]

lemma identifiers_agree (value path : String) :
    identifierSchema.accepts (encode value.toList) = true ↔
      validateIdentifier value path 128 = .ok () := by
  rw [StringSchema.accepts_iff]
  simp only [identifierSchema]
  rw [mem_identifierPattern, length_encode, validateIdentifier]
  constructor
  · rintro ⟨-, hlong, c, rest, hvalue, hc, hall, -⟩
    rw [hvalue]
    simp only
    rw [if_neg (by omega), if_pos (by rw [hc, hall]; rfl)]
  · intro hvalid
    cases hvalue : value.toList with
    | nil =>
        rw [hvalue] at hvalid
        exact absurd hvalid refuse_ne_ok
    | cons c rest =>
        rw [hvalue] at hvalid
        simp only at hvalid
        split_ifs at hvalid with hlong hcharacters
        · exact absurd hvalid refuse_ne_ok
        · rw [Bool.and_eq_true] at hcharacters
          have hascii := isAsciiAlphanumeric_lt hcharacters.1
          have hlength := length_encode value
          rw [hvalue, encode_cons, units_of_basic (by omega), List.singleton_append,
            List.length_cons] at hlength
          exact ⟨by omega, by omega, c, rest, rfl, hcharacters.1, hcharacters.2, by omega⟩
        · exact absurd hvalid refuse_ne_ok

/-! ## Brand names -/

section Scalars

variable {excluded : UInt16 → Bool} {q : Char → Bool} {cs : List Char} {u v : List UInt16}

/-- A class of code units that says of the basic plane what a class of characters says, and the
class of characters holds nothing beyond it. -/
structure Excludes (excluded : UInt16 → Bool) (q : Char → Bool) : Prop where
  basic : ∀ c : Char, c.toNat < 0x10000 → excluded (unit c) = q c
  beyond : ∀ c : Char, 0x10000 ≤ c.toNat → q c = false

lemma mem_surrogatePair : u ∈ surrogatePair.language ↔
    ∃ high low, u = [high, low] ∧ isHighSurrogate high = true ∧ isLowSurrogate low = true :=
  Regex.mem_letter_letter

lemma isSurrogate_of_high {x : UInt16} (h : isHighSurrogate x = true) : isSurrogate x = true := by
  simp only [isHighSurrogate, isSurrogate, within, Bool.and_eq_true, decide_eq_true_eq] at h ⊢
  omega

lemma isSurrogate_unit {c : Char} (hbasic : c.toNat < 0x10000) : isSurrogate (unit c) = false := by
  have hscalar := not_surrogate c
  rw [← Bool.not_eq_true]
  simp only [isSurrogate, within, toNat_unit hbasic, Bool.and_eq_true, decide_eq_true_eq]
  omega

/-- The code units of a character are described unless the character is excluded. -/
lemma Excludes.mem_units (hexcludes : Excludes excluded q) (c : Char) :
    units c ∈ (scalarOutside excluded).language ↔ q c = false := by
  rw [scalarOutside, Regex.mem_alt, mem_surrogatePair, Regex.mem_letter]
  rcases Nat.lt_or_ge c.toNat 0x10000 with hbasic | hbeyond
  · rw [units_of_basic hbasic, ← hexcludes.basic c hbasic]
    constructor
    · rintro (⟨high, low, heq, -⟩ | ⟨x, hx, heq⟩)
      · cases heq
      · cases heq
        simpa [isSurrogate_unit hbasic] using hx
    · intro hfree
      exact .inr ⟨unit c, by rw [hfree, isSurrogate_unit hbasic]; rfl, rfl⟩
  · exact iff_of_true (.inl (units_of_supplementary hbeyond)) (hexcludes.beyond c hbeyond)

/-- What a text begins with, if it is described, is the code units of one character. -/
lemma eq_units_of_append (hu : u ∈ (scalarOutside excluded).language)
    (happend : u ++ v = encode cs) :
    ∃ c rest, cs = c :: rest ∧ u = units c ∧ v = encode rest := by
  rw [scalarOutside, Regex.mem_alt, mem_surrogatePair, Regex.mem_letter] at hu
  cases cs with
  | nil =>
      obtain ⟨rfl, rfl⟩ := List.append_eq_nil_iff.mp happend
      rcases hu with ⟨_, _, heq, -⟩ | ⟨_, -, heq⟩ <;> cases heq
  | cons c rest =>
      refine ⟨c, rest, rfl, ?_⟩
      rw [encode_cons] at happend
      rcases Nat.lt_or_ge c.toNat 0x10000 with hbasic | hbeyond
      · rw [units_of_basic hbasic] at happend ⊢
        rcases hu with ⟨high, low, rfl, hhigh, -⟩ | ⟨x, -, rfl⟩
        · rw [List.cons_append, List.singleton_append, List.singleton_append,
            List.cons.injEq] at happend
          have hsurrogate := isSurrogate_of_high hhigh
          rw [happend.1, isSurrogate_unit hbasic] at hsurrogate
          cases hsurrogate
        · rw [List.singleton_append, List.singleton_append, List.cons.injEq] at happend
          exact ⟨by rw [happend.1], happend.2⟩
      · obtain ⟨high, low, hunits, hhigh, hlow⟩ := units_of_supplementary hbeyond
        rw [hunits] at happend ⊢
        rcases hu with ⟨high', low', rfl, -, -⟩ | ⟨x, hx, rfl⟩
        · simp only [List.cons_append, List.nil_append, List.cons.injEq] at happend
          exact ⟨by rw [happend.1, happend.2.1], happend.2.2⟩
        · simp only [List.cons_append, List.nil_append, List.cons.injEq] at happend
          rw [happend.1, isSurrogate_of_high hhigh, Bool.or_true] at hx
          cases hx

lemma Excludes.encode_mem_star (hexcludes : Excludes excluded q) (cs : List Char) :
    encode cs ∈ (Regex.star (scalarOutside excluded)).language ↔ ∀ c ∈ cs, q c = false := by
  induction cs with
  | nil => exact iff_of_true (Language.nil_mem_kstar _) (by simp)
  | cons c cs ih =>
      rw [List.forall_mem_cons, ← ih, ← hexcludes.mem_units, encode_cons]
      cases hunits : units c with
      | nil => exact absurd hunits (units_ne_nil c)
      | cons x xs =>
          rw [List.cons_append, Regex.language, Regex.cons_mem_kstar]
          constructor
          · rintro ⟨u, v, happend, hu, hv⟩
            have hwhole : (x :: u) ++ v = encode (c :: cs) := by
              rw [encode_cons, hunits, List.cons_append, List.cons_append, happend]
            obtain ⟨d, rest, hcs, hud, hvrest⟩ := eq_units_of_append hu hwhole
            cases hcs
            rw [hunits] at hud
            rw [← hud, ← hvrest]
            exact ⟨hu, hv⟩
          · rintro ⟨hx, hcs⟩
            exact ⟨xs, encode cs, rfl, hx, hcs⟩

/-- A text splits after a sequence of its characters. -/
lemma eq_encode_of_star (hu : u ∈ (Regex.star (scalarOutside excluded)).language)
    (happend : u ++ v = encode cs) :
    ∃ front back, cs = front ++ back ∧ u = encode front ∧ v = encode back := by
  obtain ⟨words, rfl, hwords⟩ := Language.mem_kstar.mp hu
  clear hu
  induction words generalizing cs with
  | nil => exact ⟨[], cs, rfl, rfl, happend⟩
  | cons word words ih =>
      rw [List.flatten_cons, List.append_assoc] at happend
      obtain ⟨c, rest, rfl, hword, hrest⟩ :=
        eq_units_of_append (hwords word List.mem_cons_self) happend
      obtain ⟨front, back, rfl, hfront, hback⟩ :=
        ih (fun other hother => hwords other (List.mem_cons_of_mem _ hother)) hrest
      refine ⟨c :: front, back, rfl, ?_, hback⟩
      rw [List.flatten_cons, hword, hfront, encode_cons]

end Scalars

lemma brandUnsafe_excludes : Excludes isBrandUnsafe isBrandUnsafeCharacter where
  basic c hbasic := by
    simp only [isBrandUnsafe, isBrandUnsafeCharacter, within, toNat_unit hbasic, Nat.zero_le,
      decide_true, Bool.true_and]
  beyond c hbeyond := by
    rw [← Bool.not_eq_true]
    simp [isBrandUnsafeCharacter]
    omega

lemma brandEdge_excludes : Excludes (fun u => isBrandUnsafe u || isBrandEdge u)
    (fun c => isBrandUnsafeCharacter c || isBrandEdgeWhitespace c) where
  basic c hbasic := by
    rw [brandUnsafe_excludes.basic c hbasic]
    simp only [isBrandEdge, isBrandEdgeWhitespace, within, toNat_unit hbasic]
  beyond c hbeyond := by
    rw [brandUnsafe_excludes.beyond c hbeyond, Bool.false_or, ← Bool.not_eq_true]
    simp [isBrandEdgeWhitespace]
    omega

/-- A brand name has no unsafe character and begins and ends with no white space. -/
lemma mem_brandPattern (cs : List Char) : encode cs ∈ brandPattern.language ↔
    cs ≠ [] ∧ cs.head?.any isBrandEdgeWhitespace = false ∧
      cs.getLast?.any isBrandEdgeWhitespace = false ∧ cs.any isBrandUnsafeCharacter = false := by
  rw [brandPattern, Regex.mem_seq]
  constructor
  · rintro ⟨u, v, happend, hu, hv⟩
    obtain ⟨c, rest, rfl, rfl, rfl⟩ := eq_units_of_append hu happend
    have hc := (brandEdge_excludes.mem_units c).mp hu
    rw [Bool.or_eq_false_iff] at hc
    rcases Regex.mem_optional.mp hv with hv | hv
    · obtain ⟨mid, last, hsplit, hmid, hlast⟩ := Regex.mem_seq.mp hv
      obtain ⟨front, back, rfl, rfl, rfl⟩ := eq_encode_of_star hmid hsplit
      obtain ⟨d, empty, rfl, hd, hempty⟩ :=
        eq_units_of_append hlast (List.append_nil (encode back))
      obtain rfl := encode_eq_nil.mp hempty.symm
      rw [hd] at hlast
      have hd := (brandEdge_excludes.mem_units d).mp hlast
      rw [Bool.or_eq_false_iff] at hd
      have hfront := (brandUnsafe_excludes.encode_mem_star front).mp hmid
      refine ⟨List.cons_ne_nil _ _, hc.2, ?_, ?_⟩
      · rw [← List.cons_append, List.getLast?_append]
        exact hd.2
      · rw [← Bool.not_eq_true, List.any_eq_true]
        rintro ⟨e, he, hunsafe⟩
        rw [List.mem_cons, List.mem_append, List.mem_singleton] at he
        rcases he with rfl | he | rfl
        · rw [hc.1] at hunsafe
          cases hunsafe
        · rw [hfront e he] at hunsafe
          cases hunsafe
        · rw [hd.1] at hunsafe
          cases hunsafe
    · obtain rfl := encode_eq_nil.mp hv
      refine ⟨List.cons_ne_nil _ _, hc.2, hc.2, ?_⟩
      rw [List.any_cons, hc.1]
      rfl
  · rintro ⟨hne, hfirst, hlast, hsafe⟩
    have hnone : ∀ c ∈ cs, isBrandUnsafeCharacter c = false := by
      intro c hc
      rw [← Bool.not_eq_true]
      intro hunsafe
      rw [List.any_eq_true.mpr ⟨c, hc, hunsafe⟩] at hsafe
      cases hsafe
    obtain ⟨c, rest, rfl⟩ := List.exists_cons_of_ne_nil hne
    have hc : units c ∈ brandSafeEdge.language := by
      refine (brandEdge_excludes.mem_units c).mpr ?_
      rw [hnone c List.mem_cons_self, Bool.false_or]
      exact hfirst
    refine ⟨units c, encode rest, rfl, hc, Regex.mem_optional.mpr ?_⟩
    rcases List.eq_nil_or_concat rest with rfl | ⟨front, d, hrest⟩
    · exact .inr rfl
    rw [List.concat_eq_append] at hrest
    subst hrest
    refine .inl (Regex.mem_seq.mpr ⟨encode front, units d, ?_, ?_, ?_⟩)
    · rw [encode_append, encode_cons, encode_nil, List.append_nil]
    · refine (brandUnsafe_excludes.encode_mem_star front).mpr fun e he => hnone e ?_
      exact List.mem_cons_of_mem _ (List.mem_append_left _ he)
    · refine (brandEdge_excludes.mem_units d).mpr ?_
      rw [hnone d (List.mem_cons_of_mem _ (List.mem_append_right _ List.mem_cons_self)),
        Bool.false_or]
      rw [← List.cons_append, List.getLast?_append] at hlast
      exact hlast

lemma brandNames_agree (value path : String) :
    brandNameSchema.accepts (encode value.toList) = true ↔
      validateBrandName value path = .ok () := by
  rw [StringSchema.accepts_iff]
  simp only [brandNameSchema]
  rw [mem_brandPattern, length_encode, validateBrandName, andThen_eq_ok, validateString]
  constructor
  · rintro ⟨hshort, hlong, hne, hfirst, hlast, hsafe⟩
    rw [if_pos (by simp [hshort, hlong]), hfirst, hlast, hsafe]
    exact ⟨rfl, rfl⟩
  · rintro ⟨hlength, hcharacters⟩
    split_ifs at hlength with hbounds
    · split_ifs at hcharacters with hbad
      · exact absurd hcharacters refuse_ne_ok
      · rw [Bool.and_eq_true, decide_eq_true_eq, decide_eq_true_eq] at hbounds
        simp only [Bool.not_eq_true, Bool.or_eq_false_iff] at hbad
        refine ⟨hbounds.1, hbounds.2, ?_, hbad.1.1, hbad.1.2, hbad.2⟩
        intro hnil
        rw [utf16Length, hnil] at hbounds
        exact absurd hbounds.1 (by decide)
    · exact absurd hlength refuse_ne_ok

/-! ## Timestamps -/

/-- A digit. -/
def Digit (a : UInt16) : Prop := 48 ≤ a.toNat ∧ a.toNat ≤ 57

/-- Two digits that make a number between two bounds. -/
def Pair (low high : ℕ) (a b : UInt16) : Prop :=
  Digit a ∧ Digit b ∧ low ≤ (a.toNat - 48) * 10 + (b.toNat - 48) ∧
    (a.toNat - 48) * 10 + (b.toNat - 48) ≤ high

lemma beq_unit {c : Char} (hbasic : c.toNat < 0x10000) (u : UInt16) :
    (u == unit c) = true ↔ u.toNat = c.toNat := by
  rw [beq_iff_eq, ← UInt16.toNat_inj, toNat_unit hbasic]

lemma within_iff {low high : ℕ} {u : UInt16} :
    within low high u = true ↔ low ≤ u.toNat ∧ u.toNat ≤ high := by
  rw [within, Bool.and_eq_true, decide_eq_true_eq, decide_eq_true_eq]

section Pairs

variable {u : List UInt16}

lemma mem_month : u ∈ month.language ↔ ∃ a b, u = [a, b] ∧ Pair 1 12 a b := by
  refine (Regex.mem_alt_pair Regex.mem_letter_letter Regex.mem_letter_letter).trans ?_
  refine exists₂_congr fun a b => and_congr_right' ?_
  rw [beq_unit (by decide), beq_unit (by decide), within_iff, within_iff]
  simp only [Pair, Digit, Char.reduceToNat]
  omega

lemma mem_day : u ∈ day.language ↔ ∃ a b, u = [a, b] ∧ Pair 1 31 a b := by
  refine (Regex.mem_alt_pair Regex.mem_letter_letter
    (Regex.mem_alt_pair Regex.mem_letter_letter Regex.mem_letter_letter)).trans ?_
  refine exists₂_congr fun a b => and_congr_right' ?_
  rw [beq_unit (by decide), beq_unit (by decide), within_iff, within_iff, within_iff, within_iff]
  simp only [Pair, Digit, Char.reduceToNat]
  omega

lemma mem_hour : u ∈ hour.language ↔ ∃ a b, u = [a, b] ∧ Pair 0 23 a b := by
  refine (Regex.mem_alt_pair Regex.mem_letter_letter Regex.mem_letter_letter).trans ?_
  refine exists₂_congr fun a b => and_congr_right' ?_
  rw [beq_unit (by decide), within_iff, within_iff, within_iff]
  simp only [Pair, Digit, Char.reduceToNat]
  omega

lemma mem_sixtieth : u ∈ sixtieth.language ↔ ∃ a b, u = [a, b] ∧ Pair 0 59 a b := by
  refine Regex.mem_letter_letter.trans ?_
  refine exists₂_congr fun a b => and_congr_right' ?_
  rw [within_iff, within_iff]
  simp only [Pair, Digit]
  omega

/-- What follows the seconds: a fraction, perhaps, and the letter of UTC. -/
def Ending (tail : List UInt16) : Prop :=
  ∃ fraction z, tail = fraction ++ [z] ∧ z.toNat = 90 ∧ (fraction = [] ∨ ∃ dot digits,
    fraction = dot :: digits ∧ dot.toNat = 46 ∧ 1 ≤ digits.length ∧ digits.length ≤ 9 ∧
      ∀ a ∈ digits, Digit a)

lemma mem_ending {tail : List UInt16} :
    tail ∈ (concat [fraction.optional, character 'Z']).language ↔ Ending tail := by
  have hlast : ∀ v : List UInt16, v ∈ (concat [character 'Z']).language ↔
      ∃ z, v = [z] ∧ z.toNat = 90 := by
    intro v
    rw [concat, character, Regex.mem_letter_seq]
    constructor
    · rintro ⟨z, _, rfl, hz, rfl⟩
      exact ⟨z, rfl, (beq_unit (by decide) z).mp hz⟩
    · rintro ⟨z, rfl, hz⟩
      exact ⟨z, [], rfl, (beq_unit (by decide) z).mpr hz, rfl⟩
  have hfraction : ∀ u : List UInt16, u ∈ fraction.language ↔ ∃ dot digits, u = dot :: digits ∧
      dot.toNat = 46 ∧ 1 ≤ digits.length ∧ digits.length ≤ 9 ∧ ∀ a ∈ digits, Digit a := by
    intro u
    rw [fraction, character, digit, Regex.mem_letter_seq]
    simp only [Regex.mem_between_letter (show 1 ≤ 9 by omega), List.all_eq_true, within_iff, Digit,
      beq_unit (show ('.' : Char).toNat < 0x10000 by decide), Char.reduceToNat]
  rw [concat, Regex.mem_seq]
  constructor
  · rintro ⟨u, v, rfl, hu, hv⟩
    obtain ⟨z, rfl, hz⟩ := (hlast v).mp hv
    exact ⟨u, z, rfl, hz, (Regex.mem_optional.mp hu).symm.imp id (hfraction u).mp⟩
  · rintro ⟨u, z, rfl, hz, hu⟩
    exact ⟨u, [z], rfl, Regex.mem_optional.mpr (hu.symm.imp (hfraction u).mpr id),
      (hlast _).mpr ⟨z, rfl, hz⟩⟩

end Pairs

/-- The text of a time stamp, letter by letter. -/
def IsTimestamp : List UInt16 → Prop
  | y₁ :: y₂ :: y₃ :: y₄ :: p :: m₁ :: m₂ :: q :: d₁ :: d₂ :: t :: h₁ :: h₂ :: c :: i₁ :: i₂ :: e ::
      s₁ :: s₂ :: tail =>
      (Digit y₁ ∧ Digit y₂ ∧ Digit y₃ ∧ Digit y₄) ∧
        (p.toNat = 45 ∧ q.toNat = 45 ∧ t.toNat = 84 ∧ c.toNat = 58 ∧ e.toNat = 58) ∧
        Pair 1 12 m₁ m₂ ∧ Pair 1 31 d₁ d₂ ∧ Pair 0 23 h₁ h₂ ∧ Pair 0 59 i₁ i₂ ∧ Pair 0 59 s₁ s₂ ∧
        Ending tail
  | _ => False

lemma mem_timestampPattern {w : List UInt16} :
    w ∈ timestampPattern.language ↔ IsTimestamp w := by
  have hending : ∀ tail : List UInt16,
      tail ∈ (fraction.optional.seq ((character 'Z').seq .empty)).language ↔ Ending tail :=
    fun tail => mem_ending
  rw [timestampPattern]
  simp only [concat, digit, character, Regex.mem_letter_seq, Regex.mem_pair_seq mem_month,
    Regex.mem_pair_seq mem_day, Regex.mem_pair_seq mem_hour, Regex.mem_pair_seq mem_sixtieth,
    within_iff, beq_unit (show ('-' : Char).toNat < 0x10000 by decide),
    beq_unit (show ('T' : Char).toNat < 0x10000 by decide),
    beq_unit (show (':' : Char).toNat < 0x10000 by decide), Char.reduceToNat]
  constructor
  · rintro ⟨y₁, _, rfl, hy₁, y₂, _, rfl, hy₂, y₃, _, rfl, hy₃, y₄, _, rfl, hy₄, p, _, rfl, hp,
      m₁, m₂, _, rfl, hm, q, _, rfl, hq, d₁, d₂, _, rfl, hd, t, _, rfl, ht, h₁, h₂, _, rfl, hh,
      c, _, rfl, hc, i₁, i₂, _, rfl, hi, e, _, rfl, he, s₁, s₂, tail, rfl, hs, htail⟩
    exact ⟨⟨hy₁, hy₂, hy₃, hy₄⟩, ⟨hp, hq, ht, hc, he⟩, hm, hd, hh, hi, hs, (hending _).mp htail⟩
  · intro h
    match w, h with
    | y₁ :: y₂ :: y₃ :: y₄ :: p :: m₁ :: m₂ :: q :: d₁ :: d₂ :: t :: h₁ :: h₂ :: c :: i₁ :: i₂ ::
        e :: s₁ :: s₂ :: tail, h =>
        obtain ⟨⟨hy₁, hy₂, hy₃, hy₄⟩, ⟨hp, hq, ht, hc, he⟩, hm, hd, hh, hi, hs, htail⟩ := h
        exact ⟨y₁, _, rfl, hy₁, y₂, _, rfl, hy₂, y₃, _, rfl, hy₃, y₄, _, rfl, hy₄, p, _, rfl, hp,
          m₁, m₂, _, rfl, hm, q, _, rfl, hq, d₁, d₂, _, rfl, hd, t, _, rfl, ht, h₁, h₂, _, rfl, hh,
          c, _, rfl, hc, i₁, i₂, _, rfl, hi, e, _, rfl, he, s₁, s₂, tail, rfl, hs,
          (hending _).mpr htail⟩


/-! The Rust check, byte by byte. -/

lemma isDigitByte_iff {u : UInt16} : isDigitByte u.toNat = true ↔ Digit u := by
  rw [isDigitByte, Bool.and_eq_true, decide_eq_true_eq, decide_eq_true_eq, Digit]

lemma any_twoDigits {bytes : List ℕ} {start : ℕ} {a b : UInt16} {p : ℕ → Bool}
    (ha : bytes[start]? = some a.toNat) (hb : bytes[start + 1]? = some b.toNat) :
    (twoDigits bytes start).any p = true ↔
      Digit a ∧ Digit b ∧ p ((a.toNat - 48) * 10 + (b.toNat - 48)) = true := by
  simp only [twoDigits, ha, hb, Option.bind_eq_bind, Option.bind_some, Bool.and_eq_true]
  rw [← isDigitByte_iff, ← isDigitByte_iff, ← and_assoc]
  split_ifs with hdigits
  · rw [Option.any_some, and_iff_right hdigits]
  · rw [Option.any_none]
    exact iff_of_false Bool.false_ne_true fun h => hdigits h.1

/-- A time stamp has room for a fraction and its last letter. -/
lemma exists_letters {w : List UInt16} (hlength : 20 ≤ w.length) :
    ∃ y₁ y₂ y₃ y₄ p m₁ m₂ q d₁ d₂ t h₁ h₂ c i₁ i₂ e s₁ s₂ tail z,
      w = [y₁, y₂, y₃, y₄, p, m₁, m₂, q, d₁, d₂, t, h₁, h₂, c, i₁, i₂, e, s₁, s₂] ++
        (tail ++ [z]) := by
  match w, hlength with
  | y₁ :: y₂ :: y₃ :: y₄ :: p :: m₁ :: m₂ :: q :: d₁ :: d₂ :: t :: h₁ :: h₂ :: c :: i₁ :: i₂ ::
      e :: s₁ :: s₂ :: last, hlength =>
      rcases List.eq_nil_or_concat last with rfl | ⟨tail, z, rfl⟩
      · simp at hlength
      · rw [List.concat_eq_append]
        exact ⟨y₁, y₂, y₃, y₄, p, m₁, m₂, q, d₁, d₂, t, h₁, h₂, c, i₁, i₂, e, s₁, s₂, tail, z, rfl⟩
  | [_, _, _, _, _, _, _, _, _, _, _, _, _, _, _, _], hlength => simp at hlength
  | [_, _, _, _, _, _, _, _, _, _, _, _, _, _, _, _, _], hlength => simp at hlength
  | [_, _, _, _, _, _, _, _, _, _, _, _, _, _, _, _, _, _], hlength => simp at hlength

lemma le_length_of_isTimestamp {w : List UInt16} (h : IsTimestamp w) : 20 ≤ w.length := by
  match w, h with
  | _ :: _ :: _ :: _ :: _ :: _ :: _ :: _ :: _ :: _ :: _ :: _ :: _ :: _ :: _ :: _ :: _ :: _ :: _ ::
      tail, h =>
      obtain ⟨-, -, -, -, -, -, -, fraction, z, rfl, -⟩ := h
      simp only [List.length_cons, List.length_append]
      omega

/-- What `validate_timestamp` asks of the bytes after the seconds. -/
lemma ending_iff {tail : List UInt16} {z : UInt16} :
    ((20 + tail.length = 20 ∨ 22 ≤ 20 + tail.length ∧ 20 + tail.length ≤ 30) ∧ z.toNat = 90 ∧
        (∀ j (hj : j < tail.length), tail[j].toNat = 46 ∧ j = 0 ∨ Digit tail[j]) ∧
        (tail = [] ∨ tail.head?.map UInt16.toNat = some 46)) ↔ Ending (tail ++ [z]) := by
  constructor
  · rintro ⟨hlength, hz, hall, hdot⟩
    refine ⟨tail, z, rfl, hz, ?_⟩
    cases tail with
    | nil => exact .inl rfl
    | cons dot digits =>
        rw [List.length_cons] at hlength
        refine .inr ⟨dot, digits, rfl, ?_, by omega, by omega, ?_⟩
        · simpa using hdot
        · intro a ha
          obtain ⟨j, hj, rfl⟩ := List.getElem_of_mem ha
          have hnext := hall (j + 1) (by simpa using hj)
          simpa using hnext
  · rintro ⟨fraction, z', heq, hz, hfraction⟩
    obtain ⟨rfl, hlast⟩ := List.append_inj' heq rfl
    obtain rfl := List.head_eq_of_cons_eq hlast
    rcases hfraction with rfl | ⟨dot, digits, rfl, hdot, hlow, hhigh, hdigits⟩
    · exact ⟨.inl rfl, hz, fun j hj => absurd hj (Nat.not_lt_zero _), .inl rfl⟩
    · have hlength : (dot :: digits).length = digits.length + 1 := List.length_cons
      refine ⟨.inr (by omega), hz, ?_, .inr (by simp [hdot])⟩
      intro j hj
      cases j with
      | zero => exact .inl ⟨hdot, rfl⟩
      | succ j => exact .inr (hdigits _ (List.getElem_mem _))

/-- The check of every byte under its index. -/
def fits (length : ℕ) : ℕ × ℕ → Bool := fun (byte, index) =>
  index = 4 || index = 7 || index = 10 || index = 13 || index = 16 ||
    index = length - 1 || (byte = 46 && index = 19) || isDigitByte byte

lemma isTimestampBytes_iff_fits (bytes : List ℕ) : isTimestampBytes bytes = true ↔
    (bytes.length = 20 ∨ 22 ≤ bytes.length ∧ bytes.length ≤ 30) ∧ bytes[4]? = some 45 ∧
      bytes[7]? = some 45 ∧ bytes[10]? = some 84 ∧ bytes[13]? = some 58 ∧ bytes[16]? = some 58 ∧
      bytes.getLast? = some 90 ∧ bytes.zipIdx.all (fits bytes.length) = true ∧
      (bytes.length ≤ 20 ∨ bytes[19]? = some 46) ∧ validTimestampRanges bytes = true := by
  simp only [isTimestampBytes, Bool.and_eq_true, Bool.or_eq_true, decide_eq_true_eq, and_assoc]
  rfl

section Letters

variable (y₁ y₂ y₃ y₄ p m₁ m₂ q d₁ d₂ t h₁ h₂ c i₁ i₂ e s₁ s₂ : UInt16) (tail : List UInt16)
  (z : UInt16)

lemma all_fits_front (k : ℕ) :
    (([y₁, y₂, y₃, y₄, p, m₁, m₂, q, d₁, d₂, t, h₁, h₂, c, i₁, i₂, e, s₁, s₂].map
        UInt16.toNat).zipIdx.all (fits (20 + k))) = true ↔
      (Digit y₁ ∧ Digit y₂ ∧ Digit y₃ ∧ Digit y₄) ∧ (Digit m₁ ∧ Digit m₂) ∧
        (Digit d₁ ∧ Digit d₂) ∧ (Digit h₁ ∧ Digit h₂) ∧ (Digit i₁ ∧ Digit i₂) ∧
        Digit s₁ ∧ Digit s₂ := by
  have hearly : ∀ i, i < 19 → (i = 20 + k - 1) = False := by
    intro i hi
    rw [eq_iff_iff, iff_false]
    omega
  simp only [List.map_cons, List.map_nil, List.zipIdx_cons, List.zipIdx_nil, List.all_cons,
    List.all_nil, fits, Bool.and_eq_true, Bool.or_eq_true, decide_eq_true_eq, isDigitByte_iff,
    Nat.zero_add, Nat.reduceAdd, Nat.reduceEqDiff, OfNat.zero_ne_ofNat, OfNat.one_ne_ofNat,
    hearly 0 (by omega), hearly 1 (by omega), hearly 2 (by omega), hearly 3 (by omega),
    hearly 5 (by omega), hearly 6 (by omega), hearly 8 (by omega), hearly 9 (by omega),
    hearly 11 (by omega), hearly 12 (by omega), hearly 14 (by omega), hearly 15 (by omega),
    hearly 17 (by omega), hearly 18 (by omega), and_false, or_false, false_or, true_or, or_true,
    true_and, and_true, and_assoc]

lemma all_fits_tail :
    ((((tail ++ [z]).map UInt16.toNat).zipIdx 19).all (fits (20 + tail.length))) = true ↔
      ∀ j (hj : j < tail.length), tail[j].toNat = 46 ∧ j = 0 ∨ Digit tail[j] := by
  rw [List.map_append, List.zipIdx_append, List.all_append, Bool.and_eq_true, List.length_map]
  have hz : (([z].map UInt16.toNat).zipIdx (19 + tail.length)).all (fits (20 + tail.length)) =
      true := by
    have hindex : 19 + tail.length = 20 + tail.length - 1 := by omega
    rw [List.map_singleton, List.zipIdx_singleton, List.all_cons, List.all_nil, Bool.and_true, fits,
      decide_eq_true hindex]
    simp
  rw [and_iff_left hz, List.all_eq_true]
  constructor
  · intro hall j hj
    have hfits := hall (tail[j].toNat, 19 + j) (by
      rw [List.mk_mem_zipIdx_iff_le_and_getElem?_sub]
      simp [hj])
    simp only [fits, Bool.or_eq_true, Bool.and_eq_true, decide_eq_true_eq, isDigitByte_iff] at hfits
    rcases hfits with (hearly | ⟨hdot, hzero⟩) | hdigit
    · omega
    · exact .inl ⟨hdot, by omega⟩
    · exact .inr hdigit
  · rintro hall ⟨byte, index⟩ hmem
    rw [List.mk_mem_zipIdx_iff_le_and_getElem?_sub, List.getElem?_map] at hmem
    obtain ⟨hle, hget⟩ := hmem
    obtain ⟨u, hu, rfl⟩ := Option.map_eq_some_iff.mp hget
    obtain ⟨hj, rfl⟩ := List.getElem?_eq_some_iff.mp hu
    simp only [fits, Bool.or_eq_true, Bool.and_eq_true, decide_eq_true_eq, isDigitByte_iff]
    rcases hall _ hj with ⟨hdot, hzero⟩ | hdigit
    · exact .inl (.inr ⟨hdot, by omega⟩)
    · exact .inr hdigit

lemma all_fits :
    (([y₁, y₂, y₃, y₄, p, m₁, m₂, q, d₁, d₂, t, h₁, h₂, c, i₁, i₂, e, s₁, s₂] ++
        (tail ++ [z])).map UInt16.toNat).zipIdx.all (fits (20 + tail.length)) = true ↔
      ((Digit y₁ ∧ Digit y₂ ∧ Digit y₃ ∧ Digit y₄) ∧ (Digit m₁ ∧ Digit m₂) ∧
        (Digit d₁ ∧ Digit d₂) ∧ (Digit h₁ ∧ Digit h₂) ∧ (Digit i₁ ∧ Digit i₂) ∧
        Digit s₁ ∧ Digit s₂) ∧
        ∀ j (hj : j < tail.length), tail[j].toNat = 46 ∧ j = 0 ∨ Digit tail[j] := by
  rw [List.map_append, List.zipIdx_append, List.all_append, Bool.and_eq_true]
  exact and_congr (all_fits_front _ _ _ _ _ _ _ _ _ _ _ _ _ _ _ _ _ _ _ _) (all_fits_tail tail z)

lemma validTimestampRanges_iff :
    validTimestampRanges (([y₁, y₂, y₃, y₄, p, m₁, m₂, q, d₁, d₂, t, h₁, h₂, c, i₁, i₂, e, s₁,
        s₂] ++ (tail ++ [z])).map UInt16.toNat) = true ↔
      Pair 1 12 m₁ m₂ ∧ Pair 1 31 d₁ d₂ ∧ Pair 0 23 h₁ h₂ ∧ Pair 0 59 i₁ i₂ ∧ Pair 0 59 s₁ s₂ := by
  rw [validTimestampRanges]
  simp only [Bool.and_eq_true]
  rw [any_twoDigits (a := m₁) (b := m₂) rfl rfl, any_twoDigits (a := d₁) (b := d₂) rfl rfl,
    any_twoDigits (a := h₁) (b := h₂) rfl rfl, any_twoDigits (a := i₁) (b := i₂) rfl rfl,
    any_twoDigits (a := s₁) (b := s₂) rfl rfl]
  simp only [Pair, Bool.and_eq_true, decide_eq_true_eq, Nat.zero_le, true_and, and_assoc]

lemma isTimestampBytes_letters :
    isTimestampBytes (([y₁, y₂, y₃, y₄, p, m₁, m₂, q, d₁, d₂, t, h₁, h₂, c, i₁, i₂, e, s₁, s₂] ++
        (tail ++ [z])).map UInt16.toNat) = true ↔
      IsTimestamp ([y₁, y₂, y₃, y₄, p, m₁, m₂, q, d₁, d₂, t, h₁, h₂, c, i₁, i₂, e, s₁, s₂] ++
        (tail ++ [z])) := by
  have hlength : (([y₁, y₂, y₃, y₄, p, m₁, m₂, q, d₁, d₂, t, h₁, h₂, c, i₁, i₂, e, s₁, s₂] ++
      (tail ++ [z])).map UInt16.toNat).length = 20 + tail.length := by
    rw [List.length_map, List.length_append, List.length_append, List.length_singleton]
    simp only [List.length_cons, List.length_nil]
    omega
  have hlast : (([y₁, y₂, y₃, y₄, p, m₁, m₂, q, d₁, d₂, t, h₁, h₂, c, i₁, i₂, e, s₁, s₂] ++
      (tail ++ [z])).map UInt16.toNat).getLast? = some z.toNat := by
    rw [← List.append_assoc, List.map_append, List.map_singleton, List.getLast?_append]
    rfl
  have hdot : (([y₁, y₂, y₃, y₄, p, m₁, m₂, q, d₁, d₂, t, h₁, h₂, c, i₁, i₂, e, s₁, s₂] ++
      (tail ++ [z])).map UInt16.toNat)[19]? = (tail ++ [z]).head?.map UInt16.toNat := by
    rw [List.map_append, ← List.head?_map]
    cases hrest : (tail ++ [z]).map UInt16.toNat <;> rfl
  have hshape : IsTimestamp
      ([y₁, y₂, y₃, y₄, p, m₁, m₂, q, d₁, d₂, t, h₁, h₂, c, i₁, i₂, e, s₁, s₂] ++ (tail ++ [z])) ↔
      (Digit y₁ ∧ Digit y₂ ∧ Digit y₃ ∧ Digit y₄) ∧
        (p.toNat = 45 ∧ q.toNat = 45 ∧ t.toNat = 84 ∧ c.toNat = 58 ∧ e.toNat = 58) ∧
        Pair 1 12 m₁ m₂ ∧ Pair 1 31 d₁ d₂ ∧ Pair 0 23 h₁ h₂ ∧ Pair 0 59 i₁ i₂ ∧ Pair 0 59 s₁ s₂ ∧
        Ending (tail ++ [z]) := Iff.rfl
  have hhead : (20 + tail.length ≤ 20 ∨ (tail ++ [z]).head?.map UInt16.toNat = some 46) ↔
      (tail = [] ∨ tail.head?.map UInt16.toNat = some 46) := by
    cases tail with
    | nil => exact iff_of_true (.inl le_rfl) (.inl rfl)
    | cons dot digits =>
        have hmore : ¬ 20 + (dot :: digits).length ≤ 20 := by
          rw [List.length_cons]
          omega
        simp only [hmore, List.cons_append, List.head?_cons, reduceCtorEq, false_or]
  rw [isTimestampBytes_iff_fits, hlength, hlast, hdot, all_fits, validTimestampRanges_iff, hhead,
    hshape, ← ending_iff]
  simp only [List.cons_append, List.map_cons, List.getElem?_cons_succ, List.getElem?_cons_zero,
    Option.some.injEq]
  constructor
  · rintro ⟨hlen, hp, hq, ht, hc, he, hz, ⟨⟨hyears, -⟩, hrest⟩, hfraction, hm, hd, hh, hi, hs⟩
    exact ⟨hyears, ⟨hp, hq, ht, hc, he⟩, hm, hd, hh, hi, hs, hlen, hz, hrest, hfraction⟩
  · rintro ⟨hyears, ⟨hp, hq, ht, hc, he⟩, hm, hd, hh, hi, hs, hlen, hz, hrest, hfraction⟩
    exact ⟨hlen, hp, hq, ht, hc, he, hz, ⟨⟨hyears, ⟨hm.1, hm.2.1⟩, ⟨hd.1, hd.2.1⟩,
      ⟨hh.1, hh.2.1⟩, ⟨hi.1, hi.2.1⟩, hs.1, hs.2.1⟩, hrest⟩, hfraction, hm, hd, hh, hi, hs⟩

end Letters

lemma isTimestampBytes_iff (w : List UInt16) :
    isTimestampBytes (w.map UInt16.toNat) = true ↔ IsTimestamp w := by
  by_cases hlength : 20 ≤ w.length
  · obtain ⟨y₁, y₂, y₃, y₄, p, m₁, m₂, q, d₁, d₂, t, h₁, h₂, c, i₁, i₂, e, s₁, s₂, tail, z, rfl⟩ :=
      exists_letters hlength
    exact isTimestampBytes_letters _ _ _ _ _ _ _ _ _ _ _ _ _ _ _ _ _ _ _ _ _
  · refine iff_of_false ?_ fun h => hlength (le_length_of_isTimestamp h)
    intro h
    have hbounds := (isTimestampBytes_iff_fits _).mp h
    rw [List.length_map] at hbounds
    omega

/-- A time stamp is ASCII. -/
lemma lt_of_isTimestampBytes {bytes : List ℕ} (h : isTimestampBytes bytes = true) :
    ∀ byte ∈ bytes, byte < 0x80 := by
  obtain ⟨-, h4, h7, h10, h13, h16, hlast, hall, -, -⟩ := (isTimestampBytes_iff_fits bytes).mp h
  intro byte hbyte
  obtain ⟨i, hi, rfl⟩ := List.getElem_of_mem hbyte
  have hget : bytes[i]? = some bytes[i] := List.getElem?_eq_getElem hi
  have hfits := List.all_eq_true.mp hall (bytes[i], i) (List.mem_zipIdx_iff_getElem?.mpr hget)
  have hsame : ∀ {n : ℕ}, bytes[i]? = some n → n < 0x80 → bytes[i] < 0x80 := by
    intro n hn hlt
    rw [hget, Option.some.injEq] at hn
    omega
  simp only [fits, Bool.or_eq_true, Bool.and_eq_true, decide_eq_true_eq] at hfits
  rcases hfits with ((((((rfl | rfl) | rfl) | rfl) | rfl) | rfl) | ⟨hdot, -⟩) | hdigit
  · exact hsame h4 (by omega)
  · exact hsame h7 (by omega)
  · exact hsame h10 (by omega)
  · exact hsame h13 (by omega)
  · exact hsame h16 (by omega)
  · rw [List.getLast?_eq_getElem?] at hlast
    exact hsame hlast (by omega)
  · omega
  · simp only [isDigitByte, Bool.and_eq_true, decide_eq_true_eq] at hdigit
    omega

/-! ## Bytes of a text -/

/-- The bytes of a character beyond ASCII are beyond ASCII, and there is one. -/
lemma utf8EncodeChar_of_beyond {c : Char} (hc : 0x80 ≤ c.toNat) :
    String.utf8EncodeChar c ≠ [] ∧ ∀ b ∈ String.utf8EncodeChar c, 0x80 ≤ b.toNat := by
  have hval : c.val.toNat = c.toNat := rfl
  rw [String.utf8EncodeChar]
  simp only [hval]
  split_ifs
  · omega
  all_goals
    refine ⟨List.cons_ne_nil _ _, ?_⟩
    simp only [List.mem_cons, List.not_mem_nil, or_false, forall_eq_or_imp, forall_eq,
      UInt8.toNat_ofNat']
    omega

lemma utf8EncodeChar_of_ascii {c : Char} (hc : c.toNat < 0x80) :
    (String.utf8EncodeChar c).map UInt8.toNat = [c.toNat] := by
  have hval : c.val.toNat = c.toNat := rfl
  rw [String.utf8EncodeChar]
  simp only [hval]
  rw [if_pos (by omega), List.map_singleton, UInt8.toNat_ofNat']
  exact congrArg ([·]) (Nat.mod_eq_of_lt (by omega))

lemma utf8Bytes_of_ascii {value : String} (hascii : ∀ c ∈ value.toList, c.toNat < 0x80) :
    utf8Bytes value = value.toList.map Char.toNat := by
  rw [utf8Bytes, List.flatMap_congr fun c hc => utf8EncodeChar_of_ascii (hascii c hc)]
  exact List.flatMap_pure_eq_map Char.toNat _

lemma exists_beyond_of_not_ascii {value : String} (hbeyond : ¬ ∀ c ∈ value.toList, c.toNat < 0x80) :
    (∃ byte ∈ utf8Bytes value, 0x80 ≤ byte) ∧ ∃ u ∈ encode value.toList, 0x80 ≤ u.toNat := by
  obtain ⟨c, hc, hle⟩ : ∃ c ∈ value.toList, 0x80 ≤ c.toNat := by
    by_contra hnone
    exact hbeyond fun c hc => Nat.lt_of_not_le fun hle => hnone ⟨c, hc, hle⟩
  constructor
  · obtain ⟨hne, hbytes⟩ := utf8EncodeChar_of_beyond hle
    obtain ⟨b, bs, hcons⟩ := List.exists_cons_of_ne_nil hne
    have hb : b ∈ String.utf8EncodeChar c := hcons ▸ List.mem_cons_self
    exact ⟨b.toNat, List.mem_flatMap.mpr ⟨c, hc, List.mem_map_of_mem hb⟩, hbytes b hb⟩
  · obtain ⟨u, us, hcons⟩ := List.exists_cons_of_ne_nil (units_ne_nil c)
    have hu : u ∈ units c := hcons ▸ List.mem_cons_self
    exact ⟨u, List.mem_flatMap.mpr ⟨c, hc, hu⟩, le_of_mem_units hle hu⟩

lemma timestamps_agree (value path : String) :
    timestampSchema.accepts (encode value.toList) = true ↔
      validateTimestamp value path = .ok () := by
  have hvalid : validateTimestamp value path = .ok () ↔
      isTimestampBytes (utf8Bytes value) = true := by
    rw [validateTimestamp]
    split_ifs with h
    · exact iff_of_true rfl h
    · exact iff_of_false refuse_ne_ok h
  rw [hvalid, StringSchema.accepts_iff]
  simp only [timestampSchema]
  rw [mem_timestampPattern, ← isTimestampBytes_iff]
  by_cases hascii : ∀ c ∈ value.toList, c.toNat < 0x80
  · have hsame : (encode value.toList).map UInt16.toNat = utf8Bytes value := by
      rw [encode_of_ascii hascii, utf8Bytes_of_ascii hascii, List.map_map]
      exact List.map_congr_left fun c hc => toNat_unit (by have := hascii c hc; omega)
    rw [hsame]
    refine ⟨fun h => h.2.2, fun h => ?_⟩
    have hlength : (encode value.toList).length = (utf8Bytes value).length := by
      rw [← hsame, List.length_map]
    obtain ⟨hbounds, -⟩ := (isTimestampBytes_iff_fits _).mp h
    exact ⟨by omega, by omega, h⟩
  · obtain ⟨⟨byte, hbyte, hbyteLarge⟩, u, hu, huLarge⟩ := exists_beyond_of_not_ascii hascii
    refine iff_of_false ?_ ?_
    · rintro ⟨-, -, h⟩
      have hlt := lt_of_isTimestampBytes h u.toNat (List.mem_map_of_mem hu)
      omega
    · intro h
      have hlt := lt_of_isTimestampBytes h byte hbyte
      omega

/-! ## Both packages -/

/-- **The scalar formats agree.**  A text is an identifier, a time stamp or a brand name in one
package exactly if it is in the other. -/
theorem scalar_formats_agree (value path : String) :
    (identifierSchema.accepts (encode value.toList) = true ↔
      validateIdentifier value path 128 = .ok ()) ∧
    (timestampSchema.accepts (encode value.toList) = true ↔
      validateTimestamp value path = .ok ()) ∧
    (brandNameSchema.accepts (encode value.toList) = true ↔
      validateBrandName value path = .ok ()) :=
  ⟨identifiers_agree value path, timestamps_agree value path, brandNames_agree value path⟩

example : timestampSchema.accepts (encode "2026-07-01T09:00:00.125Z".toList) = true := by
  decide +kernel

end Oppa.Protocol
