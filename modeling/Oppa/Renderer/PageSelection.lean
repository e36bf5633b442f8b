import Oppa.Protocol.PageRanges

/-!
# The pages that an expression selects

The renderer resolves a page-range expression against the number of pages of the document, by a
table with one entry for each page.

* `parsePage`, `selectPart`, `resolvePageSelection` — the resolver.
* `mem_markPages` — which entries of the table are set by one range.
* `selectParts_spec` — a run over all parts.

**`pageRanges_mean_the_same`** says that the checks of both packages accept one language and that
the resolver selects what an expression stands for.
-/

namespace Oppa.Renderer

open Protocol Protocol.Schema Utf16 Result

/-- `RendererError::InvalidPageRange`. -/
structure InvalidPageRange where
  text : String
  deriving DecidableEq, Repr

/-- `str::parse::<usize>`, with its leading plus sign. -/
def parseUsize (value : List Char) : Option ℕ :=
  let digits := match value with
    | '+' :: rest => rest
    | _ => value
  if digits.isEmpty || !digits.all Char.isDigit then none
  else if decimal digits < 2 ^ 64 then some (decimal digits) else none

/-- `parse_page`. -/
def parsePage (value : List Char) : Except InvalidPageRange ℕ :=
  match parseUsize value with
  | some page => .ok page
  | none => .error ⟨"page numbers must be integers"⟩

/-- `for page in start..=end { selected[page - 1] = true; }`. -/
def markPages (start stop : ℕ) (selected : List Bool) : List Bool :=
  (List.range' start (stop + 1 - start)).foldl (fun selected page => selected.set (page - 1) true)
    selected

/-- One turn of the loop over the parts of an expression. -/
def selectPart (pageCount : ℕ) (selected : List Bool) (part : List Char) :
    Except InvalidPageRange (List Bool) := do
  let (start, stop) := (splitOnce '-' part).getD (part, part)
  let start ← parsePage start
  let stop ← parsePage stop
  if pageCount < stop then
    .error ⟨"page " ++ toString stop ++ " does not exist; the document has " ++
      toString pageCount ++ " pages"⟩
  else pure (markPages start stop selected)

/-- The indices of the entries that are set. -/
def chosenPages (selected : List Bool) : List ℕ :=
  selected.zipIdx.filterMap fun (chosen, index) => if chosen then some index else none

/-- `resolve_page_selection`. -/
def resolvePageSelection (ranges : Option String) (pageCount : ℕ) :
    Except InvalidPageRange (List ℕ) :=
  match ranges with
  | none => .ok (List.range pageCount)
  | some ranges => do
    (validatePageRanges ranges).mapError fun error => (⟨error.display⟩ : InvalidPageRange)
    let selected ← (ranges.toList.splitOn ',').foldlM (selectPart pageCount)
      (List.replicate pageCount false)
    pure (chosenPages selected)

/-! ## Page numbers -/

lemma digit_le {c : Char} (hc : c.isDigit = true) : c.toNat - 48 ≤ 9 := by
  simp only [Char.isDigit, Bool.and_eq_true, decide_eq_true_eq, ge_iff_le, UInt32.le_iff_toNat_le]
    at hc
  have hval : c.toNat = c.val.toNat := rfl
  have hnine : '9'.val.toNat = 57 := rfl
  omega

/-- A number is below the power of ten with one zero for each digit. -/
lemma decimal_lt {cs : List Char} (hdigits : ∀ c ∈ cs, c.isDigit = true) :
    decimal cs < 10 ^ cs.length := by
  have hrun : ∀ n, cs.foldl (fun n c => 10 * n + (c.toNat - 48)) n < (n + 1) * 10 ^ cs.length := by
    induction cs with
    | nil =>
        intro n
        rw [List.foldl_nil, List.length_nil, Nat.pow_zero]
        omega
    | cons c cs ih =>
        intro n
        have hc := digit_le (hdigits c List.mem_cons_self)
        refine lt_of_lt_of_le
          (ih (fun d hd => hdigits d (List.mem_cons_of_mem _ hd)) (10 * n + (c.toNat - 48))) ?_
        rw [List.length_cons, Nat.pow_succ', ← Nat.mul_assoc]
        exact Nat.mul_le_mul_right _ (by omega)
  simpa [decimal] using hrun 0

lemma parsePage_eq_ok {cs : List Char} {page : ℕ} (h : PageNumber cs page) :
    parsePage cs = .ok page := by
  obtain ⟨hlower, hupper, hdigits, hvalue, -⟩ := h
  have hlt : decimal cs < 2 ^ 64 := by
    have hbound := decimal_lt hdigits
    have hpow : 10 ^ cs.length ≤ 10 ^ 5 := Nat.pow_le_pow_right (by omega) hupper
    omega
  have hall : cs.all Char.isDigit = true := List.all_eq_true.mpr hdigits
  have hparse : parseUsize cs = some page := by
    cases cs with
    | nil => exact absurd hlower (by decide)
    | cons c cs =>
        have hplus : c ≠ '+' := by
          rintro rfl
          have hfalse := hdigits '+' List.mem_cons_self
          cases hfalse
        rw [parseUsize, hall, if_neg (by simp), if_pos hlt, hvalue]
        intro rest heq
        exact hplus (List.cons.inj heq).1
  rw [parsePage, hparse]

/-! ## The table of pages -/

/-- Setting some entries of a table. -/
lemma getElem?_markEach (pages : List ℕ) {selected : List Bool} {index : ℕ}
    (hpages : ∀ page ∈ pages, 1 ≤ page) (hindex : index < selected.length) :
    (pages.foldl (fun selected page => selected.set (page - 1) true) selected)[index]? = some true ↔
      selected[index]? = some true ∨ index + 1 ∈ pages := by
  induction pages generalizing selected with
  | nil => simp
  | cons page pages ih =>
      rw [List.forall_mem_cons] at hpages
      rw [List.foldl_cons, ih hpages.2 (by rw [List.length_set]; exact hindex), List.mem_cons]
      by_cases heq : page - 1 = index
      · have hpage : index + 1 = page := by omega
        rw [heq, List.getElem?_set_self hindex]
        exact iff_of_true (.inl rfl) (.inr (.inl hpage))
      · have hpage : index + 1 ≠ page := by omega
        rw [List.getElem?_set_ne heq]
        simp only [hpage, false_or]

lemma length_markPages (start stop : ℕ) (selected : List Bool) :
    (markPages start stop selected).length = selected.length := by
  rw [markPages]
  generalize List.range' start (stop + 1 - start) = pages
  induction pages generalizing selected with
  | nil => rfl
  | cons page pages ih => rw [List.foldl_cons, ih, List.length_set]

/-- A range adds its pages and keeps the others. -/
lemma mem_markPages {start stop index : ℕ} {selected : List Bool} (hstart : 1 ≤ start)
    (hindex : index < selected.length) :
    (markPages start stop selected)[index]? = some true ↔
      selected[index]? = some true ∨ start ≤ index + 1 ∧ index + 1 ≤ stop := by
  rw [markPages, getElem?_markEach _ _ hindex, List.mem_range'_1]
  · refine or_congr_right ⟨?_, ?_⟩ <;>
      · rintro ⟨hlow, hhigh⟩
        exact ⟨hlow, by omega⟩
  · intro page hpage
    rw [List.mem_range'_1] at hpage
    omega

lemma mem_chosenPages {selected : List Bool} {index : ℕ} :
    index ∈ chosenPages selected ↔ selected[index]? = some true := by
  rw [chosenPages, List.mem_filterMap]
  constructor
  · rintro ⟨⟨chosen, i⟩, hmem, hchosen⟩
    rw [List.mk_mem_zipIdx_iff_getElem?] at hmem
    cases chosen with
    | false => cases hchosen
    | true =>
        cases hchosen
        exact hmem
  · intro h
    exact ⟨(true, index), List.mk_mem_zipIdx_iff_getElem?.mpr h, rfl⟩

/-- The selection is in the order of the document. -/
lemma pairwise_chosenPages (selected : List Bool) :
    (chosenPages selected).Pairwise (· < ·) := by
  rw [chosenPages, List.pairwise_filterMap]
  have hindices : (selected.zipIdx.map Prod.snd).Pairwise (· < ·) := by
    rw [List.zipIdx_map_snd, ← List.range_eq_range']
    exact List.pairwise_lt_range
  refine (List.pairwise_map.mp hindices).imp ?_
  rintro ⟨chosen, i⟩ ⟨chosen', j⟩ hlt a ha b hb
  cases chosen <;> cases chosen' <;> cases ha <;> cases hb
  exact hlt

/-! ## The resolver -/

/-- The two ends that the resolver reads are those of the grammar. -/
lemma selectPart_eq {pageCount : ℕ} {selected : List Bool} {part : List Char} {first last : ℕ}
    (h : PageRange part first last) :
    selectPart pageCount selected part =
      if pageCount < last then
        .error ⟨"page " ++ toString last ++ " does not exist; the document has " ++
          toString pageCount ++ " pages"⟩
      else .ok (markPages first last selected) := by
  rw [selectPart]
  cases h with
  | single hpage =>
      rw [splitOnce_eq_none (hpage.not_mem (by decide)), Option.getD_none]
      simp only [parsePage_eq_ok hpage]
      rfl
  | pair hfirst hlast _ =>
      rw [splitOnce_append (hfirst.not_mem (by decide)), Option.getD_some]
      simp only [parsePage_eq_ok hfirst, parsePage_eq_ok hlast]
      rfl

/-- **A run over all parts** sets the entries of every range, or fails at the first range that goes
beyond the document. -/
lemma selectParts_spec {pageCount : ℕ} {parts : List (List Char)} {ranges : List (ℕ × ℕ)}
    (h : List.Forall₂ (fun part range => PageRange part range.1 range.2) parts ranges)
    {selected : List Bool} (hlength : selected.length = pageCount) :
    ((∃ range ∈ ranges, pageCount < range.2) ∧
        ∃ error, parts.foldlM (selectPart pageCount) selected = .error error) ∨
      (∀ range ∈ ranges, range.2 ≤ pageCount) ∧
        ∃ selected', parts.foldlM (selectPart pageCount) selected = .ok selected' ∧
          selected'.length = pageCount ∧
          ∀ index < pageCount, selected'[index]? = some true ↔ selected[index]? = some true ∨
            ∃ range ∈ ranges, range.1 ≤ index + 1 ∧ index + 1 ≤ range.2 := by
  induction h generalizing selected with
  | nil => exact .inr ⟨by simp, selected, rfl, hlength, by simp⟩
  | @cons part range parts ranges hrange _ ih =>
      rw [List.foldlM_cons, selectPart_eq hrange, List.exists_mem_cons_iff, List.forall_mem_cons]
      split_ifs with hbeyond
      · exact .inl ⟨.inl hbeyond, _, rfl⟩
      · rcases ih ((length_markPages range.1 range.2 selected).trans hlength) with
          ⟨hsome, herror⟩ | ⟨hall, selected', hok, hlength', hmem⟩
        · exact .inl ⟨.inr hsome, herror⟩
        · refine .inr ⟨⟨by omega, hall⟩, selected', hok, hlength', fun index hindex => ?_⟩
          rw [hmem index hindex, mem_markPages hrange.positive (by omega), List.exists_mem_cons_iff,
            or_assoc]

lemma resolvePageSelection_spec {value : String} {ranges : List (ℕ × ℕ)}
    (h : IsPageRanges value ranges) (pageCount : ℕ) :
    ((∃ range ∈ ranges, pageCount < range.2) ∧
        ∃ error, resolvePageSelection (some value) pageCount = .error error) ∨
      (∀ range ∈ ranges, range.2 ≤ pageCount) ∧
        ∃ pages, resolvePageSelection (some value) pageCount = .ok pages ∧
          pages.Pairwise (· < ·) ∧ (∀ index ∈ pages, index < pageCount) ∧
          ∀ index, index ∈ pages ↔
            ∃ range ∈ ranges, range.1 ≤ index + 1 ∧ index + 1 ≤ range.2 := by
  have hvalid : validatePageRanges value = .ok () := validatePageRanges_iff.mpr ⟨ranges, h⟩
  have hparts := pageRanges_iff_splitOn.mp h.1
  rw [resolvePageSelection, hvalid]
  rcases selectParts_spec hparts (List.length_replicate (n := pageCount) (a := false)) with
    ⟨hsome, error, herror⟩ | ⟨hall, selected, hok, hlength, hmem⟩
  · refine .inl ⟨hsome, error, ?_⟩
    simp only [Except.mapError, herror]
    rfl
  · refine .inr ⟨hall, chosenPages selected, ?_, pairwise_chosenPages selected, ?_, ?_⟩
    · simp only [Except.mapError, hok]
      rfl
    · intro index hindex
      obtain ⟨hlt, -⟩ := List.getElem?_eq_some_iff.mp (mem_chosenPages.mp hindex)
      omega
    · intro index
      rw [mem_chosenPages]
      constructor
      · intro hchosen
        obtain ⟨hlt, -⟩ := List.getElem?_eq_some_iff.mp hchosen
        rcases (hmem index (by omega)).mp hchosen with hbefore | hrange
        · rw [List.getElem?_replicate_of_lt (by omega)] at hbefore
          cases hbefore
        · exact hrange
      · rintro ⟨range, hrange, hlow, hhigh⟩
        have hle := hall range hrange
        exact (hmem index (by omega)).mpr (.inr ⟨range, hrange, hlow, hhigh⟩)

/-- **Page ranges mean the same everywhere.**  Both checks accept the expressions of the grammar,
and an expression selects the pages of its ranges, each once and in the order of the document,
unless one of them goes beyond it. -/
theorem pageRanges_mean_the_same :
    (∀ value : String,
      (isValidPageRanges (encode value.toList) = true ↔ ∃ ranges, IsPageRanges value ranges) ∧
      (validatePageRanges value = .ok () ↔ ∃ ranges, IsPageRanges value ranges)) ∧
    ∀ value ranges, IsPageRanges value ranges → ∀ pageCount : ℕ,
      ((∃ range ∈ ranges, pageCount < range.2) ∧
          ∃ error, resolvePageSelection (some value) pageCount = .error error) ∨
        (∀ range ∈ ranges, range.2 ≤ pageCount) ∧
          ∃ pages, resolvePageSelection (some value) pageCount = .ok pages ∧
            pages.Pairwise (· < ·) ∧ (∀ index ∈ pages, index < pageCount) ∧
            ∀ index, index ∈ pages ↔
              ∃ range ∈ ranges, range.1 ≤ index + 1 ∧ index + 1 ≤ range.2 := by
  refine ⟨fun value => ⟨isValidPageRanges_iff, validatePageRanges_iff⟩, ?_⟩
  intro value ranges h pageCount
  exact resolvePageSelection_spec h pageCount

/-- Overlapping ranges in any order. -/
theorem pageRanges_mean_the_same_overlap :
    IsPageRanges "5,1-3,02" [(5, 5), (1, 3), (2, 2)] ∧
      ∃ pages, resolvePageSelection (some "5,1-3,02") 5 = .ok pages ∧ ∀ index, index ∈ pages ↔
        ∃ range ∈ [(5, 5), (1, 3), (2, 2)], range.1 ≤ index + 1 ∧ index + 1 ≤ range.2 := by
  have hranges : IsPageRanges "5,1-3,02" [(5, 5), (1, 3), (2, 2)] := by
    refine ⟨?_, by decide⟩
    have hpage (cs : List Char) (page : ℕ) (hlength : 1 ≤ cs.length ∧ cs.length ≤ 5)
        (hdigits : cs.all Char.isDigit = true) (hvalue : decimal cs = page ∧ 1 ≤ page) :
        PageNumber cs page :=
      ⟨hlength.1, hlength.2, List.all_eq_true.mp hdigits, hvalue.1, hvalue.2⟩
    have hfive := hpage ['5'] 5 (by decide) (by decide) (by decide)
    have hone := hpage ['1'] 1 (by decide) (by decide) (by decide)
    have hthree := hpage ['3'] 3 (by decide) (by decide) (by decide)
    have htwo := hpage ['0', '2'] 2 (by decide) (by decide) (by decide)
    exact .more (.single hfive) (.more (.pair hone hthree (by decide)) (.last (.single htwo)))
  refine ⟨hranges, ?_⟩
  rcases pageRanges_mean_the_same.2 _ _ hranges 5 with ⟨hbeyond, -⟩ | ⟨-, pages, hok, -, -, hmem⟩
  · exact absurd hbeyond (by decide)
  · exact ⟨pages, hok, hmem⟩

end Oppa.Renderer
