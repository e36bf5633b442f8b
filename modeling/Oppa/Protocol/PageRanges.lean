import Oppa.Foundation.Result
import Oppa.Protocol.Document
import Oppa.Protocol.Scalars

/-!
# Page ranges

Expressions such as `1-3,5`, which select pages of a document: their grammar, the check of the Rust
crate and that of the TypeScript package.

* `PageNumber`, `PageRange`, `PageRanges` — the grammar, with the ranges that an expression stands
  for.
* `Schema.isValidPageRanges` — the check of the TypeScript package.
* `pageRange_iff_splitOn`, `pageRanges_iff_splitOn` — the grammar by the pieces between separators.

**`validatePageRanges_iff`** and **`isValidPageRanges_iff`** say that both checks accept the
expressions of the grammar that are not too long.
-/

namespace Oppa.Protocol

open Text Utf16 Result

/-! ## The grammar -/

/-- The number that decimal digits stand for. -/
def decimal (cs : List Char) : ℕ := cs.foldl (fun n c => 10 * n + (c.toNat - 48)) 0

/-- A page number: one to five digits, and not zero. -/
structure PageNumber (cs : List Char) (page : ℕ) : Prop where
  lower : 1 ≤ cs.length
  upper : cs.length ≤ 5
  digits : ∀ c ∈ cs, c.isDigit = true
  value : decimal cs = page
  positive : 1 ≤ page

/-- One page, or the pages from one to another that is no lower. -/
inductive PageRange : List Char → ℕ → ℕ → Prop
  | single {cs page} : PageNumber cs page → PageRange cs page page
  | pair {cs ds first last} : PageNumber cs first → PageNumber ds last → first ≤ last →
      PageRange (cs ++ '-' :: ds) first last

/-- Ranges with commas between them. -/
inductive PageRanges : List Char → List (ℕ × ℕ) → Prop
  | last {cs first last} : PageRange cs first last → PageRanges cs [(first, last)]
  | more {cs ds first last ranges} : PageRange cs first last → PageRanges ds ranges →
      PageRanges (cs ++ ',' :: ds) ((first, last) :: ranges)

/-- An expression that stands for some ranges and is not too long. -/
def IsPageRanges (value : String) (ranges : List (ℕ × ℕ)) : Prop :=
  PageRanges value.toList ranges ∧ value.toList.length ≤ maxPageRangeBytes

/-! ## The check of the TypeScript package -/

namespace Schema

/-- `PAGE_NUMBER_PATTERN`. -/
def pageNumberPattern : Regex UInt16 := digit.between 1 5

/-- `Number(piece)`, for a piece that the pattern describes. -/
def numberOf (piece : List UInt16) : ℕ := piece.foldl (fun n u => 10 * n + (u.toNat - 48)) 0

/-- `MAX_PDF_PAGE_RANGE_BYTES`. -/
def maxPdfPageRangeBytes : ℕ := 256

/-- What `isValidPageRanges` asks of the two ends of a part. -/
def isValidEnds (start stop : List UInt16) : Bool :=
  pageNumberPattern.test start && pageNumberPattern.test stop && 1 ≤ numberOf start &&
    numberOf start ≤ numberOf stop

/-- What `isValidPageRanges` asks of a part.  The end of a range is its start by default. -/
def isValidPart (part : List UInt16) : Bool :=
  match part.splitOn (unit '-') with
  | [start] => isValidEnds start start
  | [start, stop] => isValidEnds start stop
  | _ => false

/-- `isValidPageRanges`. -/
def isValidPageRanges (value : List UInt16) : Bool :=
  if value.length = 0 ∨ maxPdfPageRangeBytes < value.length then false
  else (value.splitOn (unit ',')).all isValidPart

end Schema

open Schema

/-! ## Pieces between separators -/

lemma PageNumber.not_mem {cs : List Char} {page : ℕ} (h : PageNumber cs page) {c : Char}
    (hc : c.isDigit = false) : c ∉ cs := by
  intro hmem
  rw [h.digits c hmem] at hc
  cases hc

/-- A range is one number, or two with a dash between them. -/
lemma pageRange_iff_splitOn {part : List Char} {first last : ℕ} :
    PageRange part first last ↔
      (∃ start, part.splitOn '-' = [start] ∧ PageNumber start first ∧ last = first) ∨
      ∃ start stop, part.splitOn '-' = [start, stop] ∧ PageNumber start first ∧
        PageNumber stop last ∧ first ≤ last := by
  constructor
  · intro h
    cases h with
    | single hpage => exact .inl ⟨part, List.splitOn_eq_singleton (hpage.not_mem (by decide)),
        hpage, rfl⟩
    | @pair cs ds _ _ hfirst hlast hle =>
        refine .inr ⟨cs, ds, ?_, hfirst, hlast, hle⟩
        rw [List.splitOn_append_cons_self, List.splitOn_eq_singleton (hfirst.not_mem (by decide)),
          List.splitOn_eq_singleton (hlast.not_mem (by decide))]
        rfl
  · have hjoin : ['-'].intercalate (part.splitOn '-') = part := List.intercalate_splitOn '-'
    rintro (⟨start, hsplit, hpage, rfl⟩ | ⟨start, stop, hsplit, hfirst, hlast, hle⟩)
    · rw [hsplit] at hjoin
      rw [← hjoin]
      simpa using PageRange.single hpage
    · rw [hsplit] at hjoin
      rw [← hjoin]
      simpa using PageRange.pair hfirst hlast hle

lemma PageRange.not_mem {part : List Char} {first last : ℕ} (h : PageRange part first last) :
    ',' ∉ part := by
  cases h with
  | single hpage => exact hpage.not_mem (by decide)
  | pair hfirst hlast _ =>
      rw [List.mem_append, List.mem_cons, not_or, not_or]
      exact ⟨hfirst.not_mem (by decide), by decide, hlast.not_mem (by decide)⟩

/-- An expression stands for the ranges of its parts. -/
lemma pageRanges_iff_splitOn {cs : List Char} {ranges : List (ℕ × ℕ)} :
    PageRanges cs ranges ↔
      List.Forall₂ (fun part range => PageRange part range.1 range.2) (cs.splitOn ',') ranges := by
  constructor
  · intro h
    induction h with
    | last hrange =>
        rw [List.splitOn_eq_singleton hrange.not_mem]
        exact .cons hrange .nil
    | more hrange _ ih =>
        rw [List.splitOn_append_cons_self, List.splitOn_eq_singleton hrange.not_mem]
        exact .cons hrange ih
  · intro h
    have hjoin : [','].intercalate (cs.splitOn ',') = cs := List.intercalate_splitOn ','
    rw [← hjoin]
    clear hjoin
    obtain ⟨part, parts, hparts⟩ := List.exists_cons_of_ne_nil (List.splitOn_ne_nil ',' cs)
    rw [hparts] at h ⊢
    clear hparts
    induction parts generalizing part ranges with
    | nil =>
        obtain ⟨range, rest, hrange, hrest, rfl⟩ := List.forall₂_cons_left_iff.mp h
        rw [List.forall₂_nil_left_iff] at hrest
        subst hrest
        simpa using PageRanges.last hrange
    | cons next parts ih =>
        obtain ⟨range, rest, hrange, hrest, rfl⟩ := List.forall₂_cons_left_iff.mp h
        rw [List.intercalate_cons_cons]
        simpa using PageRanges.more hrange (ih next hrest)

/-! ## The check of the Rust crate -/

lemma lt_of_isDigit {c : Char} (hc : c.isDigit = true) : c.toNat < 0x80 := by
  simp only [Char.isDigit, Bool.and_eq_true, decide_eq_true_eq, ge_iff_le, UInt32.le_iff_toNat_le]
    at hc
  have hval : c.toNat = c.val.toNat := rfl
  have hnine : '9'.val.toNat = 57 := rfl
  omega

lemma utf8ByteSize_of_ascii {cs : List Char} (hascii : ∀ c ∈ cs, c.toNat < 0x80) :
    (String.ofList cs).utf8ByteSize = cs.length := by
  have hone : cs.map Char.utf8Size = cs.map fun _ => 1 := by
    refine List.map_congr_left fun c hc => ?_
    have hlt := hascii c hc
    rw [utf8Size_eq, if_pos (by omega)]
  rw [utf8ByteSize_ofList, hone]
  simp

lemma splitOnce_eq_none {separator : Char} {cs : List Char} (h : separator ∉ cs) :
    splitOnce separator cs = none := by
  have hnone : cs.dropWhile (· ≠ separator) = [] := by
    rw [List.dropWhile_eq_nil_iff]
    intro c hc
    rw [decide_eq_true_eq]
    rintro rfl
    exact h hc
  rw [splitOnce, hnone]

lemma splitOnce_append {separator : Char} {front : List Char} (h : separator ∉ front)
    (back : List Char) : splitOnce separator (front ++ separator :: back) = some (front, back) := by
  have hfront : ∀ c ∈ front, decide (c ≠ separator) = true := by
    intro c hc
    rw [decide_eq_true_eq]
    rintro rfl
    exact h hc
  rw [splitOnce, List.dropWhile_append_of_pos hfront, List.takeWhile_append_of_pos hfront]
  simp

lemma parsePageNumber_eq_ok {cs : List Char} {page : ℕ} :
    parsePageNumber cs = .ok page ↔ PageNumber cs page := by
  rw [parsePageNumber]
  split_ifs with hmalformed
  · refine iff_of_false (by simp) ?_
    rintro ⟨hlower, hupper, hdigits, -, -⟩
    rw [utf8ByteSize_of_ascii fun c hc => lt_of_isDigit (hdigits c hc)] at hmalformed
    have hall : cs.all Char.isDigit = true := List.all_eq_true.mpr hdigits
    have hne : cs.isEmpty = false := by
      rw [List.isEmpty_eq_false_iff]
      rintro rfl
      exact absurd hlower (by decide)
    rw [hall, hne, Bool.not_true, Bool.or_false, Bool.false_or, decide_eq_true_eq] at hmalformed
    omega
  · simp only [Bool.or_eq_true, not_or, Bool.not_eq_true, Bool.not_eq_false', List.all_eq_true,
      decide_eq_false_iff_not, not_lt] at hmalformed
    obtain ⟨⟨hne, hupper⟩, hdigits⟩ := hmalformed
    rw [utf8ByteSize_of_ascii fun c hc => lt_of_isDigit (hdigits c hc)] at hupper
    rw [List.isEmpty_eq_false_iff] at hne
    have hlower := List.length_pos_of_ne_nil hne
    show (if decimal cs = 0 then _ else Except.ok (decimal cs)) = _ ↔ _
    split_ifs with hzero
    · refine iff_of_false (by simp) ?_
      rintro ⟨-, -, -, hvalue, hpositive⟩
      omega
    · rw [Except.ok.injEq]
      constructor
      · intro hvalue
        exact ⟨hlower, hupper, hdigits, hvalue, by omega⟩
      · intro hpage
        exact hpage.value

lemma validateEnds_eq_ok {start stop : List Char} :
    (do
      let start ← parsePageNumber start
      let stop ← parsePageNumber stop
      if stop < start then
        refuse "pageRanges" "ranges must ascend from the first page to the last page" : Validity) =
      .ok () ↔
      ∃ first last, PageNumber start first ∧ PageNumber stop last ∧ first ≤ last := by
  simp only [bind_eq_ok, parsePageNumber_eq_ok]
  constructor
  · rintro ⟨first, hfirst, last, hlast, hle⟩
    refine ⟨first, last, hfirst, hlast, ?_⟩
    split_ifs at hle with hlt
    · exact absurd hle refuse_ne_ok
    · omega
  · rintro ⟨first, last, hfirst, hlast, hle⟩
    refine ⟨first, hfirst, last, hlast, ?_⟩
    rw [if_neg (by omega)]
    rfl

lemma validatePageRange_eq_ok {part : List Char} :
    validatePageRange part = .ok () ↔ ∃ first last, PageRange part first last := by
  rw [validatePageRange]
  by_cases hdash : '-' ∈ part
  · obtain ⟨start, stop, rfl, hstart⟩ := List.eq_append_cons_of_mem hdash
    rw [splitOnce_append hstart, Option.getD_some]
    refine validateEnds_eq_ok.trans (exists₂_congr fun first last => ?_)
    rw [pageRange_iff_splitOn, List.splitOn_append_cons_self, List.splitOn_eq_singleton hstart]
    constructor
    · rintro ⟨hfirst, hlast, hle⟩
      refine .inr ⟨start, stop, ?_, hfirst, hlast, hle⟩
      rw [List.splitOn_eq_singleton (hlast.not_mem (by decide))]
      rfl
    · rintro (⟨_, hsplit, -⟩ | ⟨a, b, hsplit, hfirst, hlast, hle⟩)
      · have hlength := congrArg List.length hsplit
        have hpos := List.length_pos_of_ne_nil (List.splitOn_ne_nil '-' stop)
        simp only [List.length_append, List.length_cons, List.length_nil] at hlength
        omega
      · rw [List.singleton_append, List.cons.injEq] at hsplit
        obtain ⟨rfl, hstop⟩ := hsplit
        have hjoin : ['-'].intercalate (stop.splitOn '-') = stop := List.intercalate_splitOn '-'
        rw [hstop, List.intercalate_singleton] at hjoin
        rw [← hjoin]
        exact ⟨hfirst, hlast, hle⟩
  · rw [splitOnce_eq_none hdash, Option.getD_none]
    refine validateEnds_eq_ok.trans ?_
    constructor
    · rintro ⟨first, last, hfirst, -, -⟩
      exact ⟨first, first, .single hfirst⟩
    · rintro ⟨first, last, hrange⟩
      cases hrange with
      | single hpage => exact ⟨first, first, hpage, hpage, le_refl first⟩
      | pair _ _ _ => exact absurd (List.mem_append_right _ List.mem_cons_self) hdash

lemma PageNumber.ascii {cs : List Char} {page : ℕ} (h : PageNumber cs page) :
    ∀ c ∈ cs, c.toNat < 0x80 :=
  fun c hc => lt_of_isDigit (h.digits c hc)

lemma PageRange.ascii {cs : List Char} {first last : ℕ} (h : PageRange cs first last) :
    ∀ c ∈ cs, c.toNat < 0x80 := by
  cases h with
  | single hpage => exact hpage.ascii
  | pair hfirst hlast _ =>
      intro c hc
      rw [List.mem_append, List.mem_cons] at hc
      rcases hc with hc | rfl | hc
      · exact hfirst.ascii c hc
      · decide
      · exact hlast.ascii c hc

lemma PageRanges.ascii {cs : List Char} {ranges : List (ℕ × ℕ)} (h : PageRanges cs ranges) :
    ∀ c ∈ cs, c.toNat < 0x80 := by
  induction h with
  | last hrange => exact hrange.ascii
  | more hrange _ ih =>
      intro c hc
      rw [List.mem_append, List.mem_cons] at hc
      rcases hc with hc | rfl | hc
      · exact hrange.ascii c hc
      · decide
      · exact ih c hc

lemma PageRange.positive {part : List Char} {first last : ℕ} (h : PageRange part first last) :
    1 ≤ first := by
  cases h with
  | single hpage => exact hpage.positive
  | pair hfirst _ _ => exact hfirst.positive

lemma PageRange.ne_nil {cs : List Char} {first last : ℕ} (h : PageRange cs first last) :
    cs ≠ [] := by
  cases h with
  | single hpage =>
      rintro rfl
      exact absurd hpage.lower (by decide)
  | pair _ _ _ => exact List.append_ne_nil_of_right_ne_nil _ (List.cons_ne_nil _ _)

lemma PageRanges.ne_nil {cs : List Char} {ranges : List (ℕ × ℕ)} (h : PageRanges cs ranges) :
    cs ≠ [] := by
  cases h with
  | last hrange => exact hrange.ne_nil
  | more _ _ => exact List.append_ne_nil_of_right_ne_nil _ (List.cons_ne_nil _ _)

/-- Every part of an expression stands for a range if there are ranges that the whole stands for. -/
lemma exists_pageRanges_iff {cs : List Char} : (∃ ranges, PageRanges cs ranges) ↔
    ∀ part ∈ cs.splitOn ',', ∃ first last, PageRange part first last := by
  simp only [pageRanges_iff_splitOn]
  generalize cs.splitOn ',' = parts
  induction parts with
  | nil => simp
  | cons part parts ih =>
      rw [List.forall_mem_cons, ← ih]
      constructor
      · rintro ⟨ranges, hranges⟩
        obtain ⟨range, rest, hrange, hrest, -⟩ := List.forall₂_cons_left_iff.mp hranges
        exact ⟨⟨range.1, range.2, hrange⟩, rest, hrest⟩
      · rintro ⟨⟨first, last, hrange⟩, rest, hrest⟩
        exact ⟨(first, last) :: rest, .cons hrange hrest⟩

/-- **The Rust crate accepts the grammar.** -/
theorem validatePageRanges_iff {value : String} :
    validatePageRanges value = .ok () ↔ ∃ ranges, IsPageRanges value ranges := by
  simp only [IsPageRanges, exists_and_right]
  rw [exists_pageRanges_iff]
  have hparts : validateEach (fun _ part => validatePageRange part) 0 (value.toList.splitOn ',') =
      .ok () ↔ ∀ part ∈ value.toList.splitOn ',', ∃ first last, PageRange part first last := by
    simp only [validateEach_eq_ok, validatePageRange_eq_ok, List.forall_mem_iff_forall_getElem]
  have hsize (h : ∃ ranges, PageRanges value.toList ranges) :
      value.isEmpty = false ∧ value.utf8ByteSize = value.toList.length := by
    obtain ⟨ranges, hranges⟩ := h
    have hbytes := utf8ByteSize_of_ascii hranges.ascii
    rw [String.ofList_toList] at hbytes
    refine ⟨?_, hbytes⟩
    have hne := hranges.ne_nil
    simpa [String.isEmpty_iff] using hne
  rw [validatePageRanges]
  split_ifs with hlong
  · refine iff_of_false refuse_ne_ok ?_
    rintro ⟨hranges, hlength⟩
    obtain ⟨hne, hbytes⟩ := hsize (exists_pageRanges_iff.mpr hranges)
    rw [hne, hbytes, Bool.false_or, decide_eq_true_eq] at hlong
    omega
  · rw [hparts]
    refine (and_iff_left_of_imp fun hranges => ?_).symm
    obtain ⟨-, hbytes⟩ := hsize (exists_pageRanges_iff.mpr hranges)
    rw [hbytes, Bool.or_eq_true, decide_eq_true_eq, not_or] at hlong
    omega

/-! ## The check of the TypeScript package, for texts -/

lemma characterClass {c : Char} (hc : c.toNat < 0x80) :
    Utf16.Class (· == unit c) (· == c) false where
  ascii d hd := by
    rw [Bool.eq_iff_iff, beq_iff_eq, beq_iff_eq, ← UInt16.toNat_inj, toNat_unit (by omega),
      toNat_unit (by omega), Char.toNat_inj]
  unit u hu := by
    rw [beq_eq_false_iff_ne]
    rintro rfl
    rw [toNat_unit (by omega)] at hu
    omega
  char d hd := by
    rw [beq_eq_false_iff_ne]
    rintro rfl
    omega

lemma digitClass : Utf16.Class (within 0x30 0x39) Char.isDigit false where
  ascii c hc := by
    have hval : c.toNat = c.val.toNat := rfl
    simp only [within, Char.isDigit, toNat_unit (c := c) (by omega), ge_iff_le,
      UInt32.le_iff_toNat_le, hval]
    rfl
  unit u hu := by
    rw [← Bool.not_eq_true, within_iff]
    omega
  char c hc := by
    rw [← Bool.not_eq_true]
    intro hdigit
    have hlt := lt_of_isDigit hdigit
    omega

lemma splitOn_encode {c : Char} (hc : c.toNat < 0x80) (cs : List Char) :
    (encode cs).splitOn (unit c) = (cs.splitOn c).map encode := by
  rw [List.splitOn_eq_splitOnP, List.splitOn_eq_splitOnP, (characterClass hc).splitOnP_encode]

lemma length_encode_of_ascii {cs : List Char} (hascii : ∀ c ∈ cs, c.toNat < 0x80) :
    (encode cs).length = cs.length := by
  rw [encode_of_ascii hascii, List.length_map]

lemma test_pageNumberPattern {cs : List Char} : pageNumberPattern.test (encode cs) = true ↔
    1 ≤ cs.length ∧ cs.length ≤ 5 ∧ ∀ c ∈ cs, c.isDigit = true := by
  rw [Regex.test_iff, pageNumberPattern, digit, Regex.mem_between_letter (by omega),
    digitClass.all_encode, List.all_eq_true, ← and_assoc, ← and_assoc]
  refine and_congr_left fun hdigits => ?_
  rw [length_encode_of_ascii fun c hc => lt_of_isDigit (hdigits c hc)]

lemma numberOf_encode {cs : List Char} (hascii : ∀ c ∈ cs, c.toNat < 0x80) :
    numberOf (encode cs) = decimal cs := by
  rw [encode_of_ascii hascii, numberOf, List.foldl_map, decimal]
  refine List.foldl_ext _ _ _ fun n c hc => ?_
  have hlt := hascii c hc
  rw [toNat_unit (by omega)]

lemma isValidEnds_encode {start stop : List Char} :
    isValidEnds (encode start) (encode stop) = true ↔
      ∃ first last, PageNumber start first ∧ PageNumber stop last ∧ first ≤ last := by
  simp only [isValidEnds, Bool.and_eq_true, decide_eq_true_eq, test_pageNumberPattern]
  constructor
  · rintro ⟨⟨⟨⟨hlower, hupper, hdigits⟩, hlower', hupper', hdigits'⟩, hpositive⟩, hle⟩
    rw [numberOf_encode fun c hc => lt_of_isDigit (hdigits c hc)] at hpositive hle
    rw [numberOf_encode fun c hc => lt_of_isDigit (hdigits' c hc)] at hle
    exact ⟨_, _, ⟨hlower, hupper, hdigits, rfl, hpositive⟩,
      ⟨hlower', hupper', hdigits', rfl, hpositive.trans hle⟩, hle⟩
  · rintro ⟨first, last, hfirst, hlast, hle⟩
    rw [numberOf_encode hfirst.ascii, numberOf_encode hlast.ascii, hfirst.value, hlast.value]
    exact ⟨⟨⟨⟨hfirst.lower, hfirst.upper, hfirst.digits⟩, hlast.lower, hlast.upper, hlast.digits⟩,
      hfirst.positive⟩, hle⟩

lemma PageNumber.unique {cs : List Char} {page page' : ℕ} (h : PageNumber cs page)
    (h' : PageNumber cs page') : page = page' :=
  h.value.symm.trans h'.value

lemma isValidPart_encode {part : List Char} :
    isValidPart (encode part) = true ↔ ∃ first last, PageRange part first last := by
  simp only [isValidPart, splitOn_encode (show '-'.toNat < 0x80 by decide), pageRange_iff_splitOn]
  rcases part.splitOn '-' with _ | ⟨start, _ | ⟨stop, _ | ⟨next, rest⟩⟩⟩
  · simp
  · simp only [List.map_cons, List.map_nil, isValidEnds_encode]
    constructor
    · rintro ⟨first, last, hfirst, -, -⟩
      exact ⟨first, first, .inl ⟨start, rfl, hfirst, rfl⟩⟩
    · rintro ⟨first, last, ⟨_, hsplit, hfirst, rfl⟩ | ⟨_, _, hsplit, -⟩⟩
      · cases hsplit
        exact ⟨_, _, hfirst, hfirst, le_refl _⟩
      · cases hsplit
  · simp only [List.map_cons, List.map_nil, isValidEnds_encode]
    refine exists₂_congr fun first last => ?_
    constructor
    · rintro ⟨hfirst, hlast, hle⟩
      exact .inr ⟨start, stop, rfl, hfirst, hlast, hle⟩
    · rintro (⟨_, hsplit, -⟩ | ⟨_, _, hsplit, hfirst, hlast, hle⟩)
      · cases hsplit
      · cases hsplit
        exact ⟨hfirst, hlast, hle⟩
  · simp

/-- **The TypeScript package accepts the grammar.** -/
theorem isValidPageRanges_iff {value : String} :
    isValidPageRanges (encode value.toList) = true ↔ ∃ ranges, IsPageRanges value ranges := by
  simp only [IsPageRanges, exists_and_right]
  have hparts : ((encode value.toList).splitOn (unit ',')).all isValidPart = true ↔
      ∃ ranges, PageRanges value.toList ranges := by
    rw [exists_pageRanges_iff, splitOn_encode (by decide), List.all_eq_true, List.forall_mem_map]
    simp only [isValidPart_encode]
  rw [isValidPageRanges]
  split_ifs with hlong
  · refine iff_of_false not_false ?_
    rintro ⟨⟨ranges, hranges⟩, hlength⟩
    rw [length_encode_of_ascii hranges.ascii, List.length_eq_zero_iff] at hlong
    rcases hlong with hnil | hlong
    · exact hranges.ne_nil hnil
    · exact absurd hlength (Nat.not_le_of_lt hlong)
  · rw [hparts]
    refine (and_iff_left_of_imp ?_).symm
    rintro ⟨ranges, hranges⟩
    rw [length_encode_of_ascii hranges.ascii, not_or] at hlong
    exact Nat.le_of_not_lt hlong.2

end Oppa.Protocol
