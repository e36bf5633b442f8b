import Mathlib.Data.List.Count
import Mathlib.Data.List.GetD
import Oppa.Renderer.EscPos

/-!
# Lines of wrapped text

What is known about the lines that `wrap_text` and `layout_row` produce, given how wide texts are.

* `Measures`, `Spaces` — what is assumed of the width of texts.
* `Wrapping.Fits`, `Wrapping.Marked`, `Wrapping.Spells` — the invariants of the loop over words: no
  line is too wide, no line is blank, and the words so far are on the lines in order.
* `WrapsCompletely`, `RowExact` — what the lines of a text and of a row promise.

**`wrapText_complete_iff`** and **`layoutRow_exact`** say when the promises are kept: a line of
nothing but white space contributes no line, and a row that fits as it is keeps its line breaks.
-/

namespace Oppa.Renderer

open Protocol Text

/-! ## Widths -/

/-- **How wide texts are**: nothing takes no column, a blank takes one, and a text is no wider than
its parts. -/
structure Measures (lib : Libraries) : Prop where
  empty : lib.width [] = 0
  blank : lib.width [' '] = 1
  append : ∀ front back, lib.width (front ++ back) ≤ lib.width front + lib.width back

/-- Blanks keep what is on both sides of them apart. -/
structure Spaces (lib : Libraries) : Prop extends Measures lib where
  spaced : ∀ front back n, lib.width (front ++ List.replicate (n + 1) ' ' ++ back) =
    lib.width front + (n + 1) + lib.width back

/-- No cluster of a word of the text is wider than a line. -/
def ClustersFit (lib : Libraries) (value : List Char) (width : ℕ) : Prop :=
  ∀ line ∈ value.splitOn '\n', ∀ word ∈ splitWhitespace line, ∀ cluster ∈ lib.graphemes word,
    lib.width cluster ≤ width

/-! A library in which every character takes one column. -/

namespace Sample

lemma spaces : Spaces libraries where
  empty := rfl
  blank := rfl
  append front back := by
    show (front ++ back).length ≤ front.length + back.length
    rw [List.length_append]
  spaced front back n := by
    show (front ++ List.replicate (n + 1) ' ' ++ back).length = front.length + (n + 1) + back.length
    rw [List.length_append, List.length_append, List.length_replicate]

lemma clustersFit (value : List Char) {width : ℕ} (hwidth : 1 ≤ width) :
    ClustersFit libraries value width := by
  intro line _ word _ cluster hcluster
  obtain ⟨c, -, rfl⟩ := List.mem_map.mp hcluster
  exact hwidth

end Sample

/-! ## No line is too wide -/

namespace Wrapping

variable {lib : Libraries} {width : ℕ} {w : Wrapping}

@[simp] lemma current_flush : w.flush.current = [] := by
  rw [flush]
  split_ifs with h
  · exact h
  · rfl

/-- Either there is room, or the line was finished. -/
lemma flushBefore_cases (w : Wrapping) (width needed : ℕ) :
    (needed ≤ width ∧ w.flushBefore width needed = w) ∨ w.flushBefore width needed = w.flush := by
  rw [flushBefore]
  split_ifs with h
  · exact .inr rfl
  · exact .inl ⟨Nat.le_of_not_lt h, rfl⟩

/-- No line is wider than the limit. -/
structure Fits (lib : Libraries) (width : ℕ) (w : Wrapping) : Prop where
  lines : ∀ line ∈ w.lines, lib.width line ≤ width
  current : lib.width w.current ≤ width

lemma Fits.flush (hmeasures : Measures lib) (h : w.Fits lib width) : w.flush.Fits lib width := by
  rw [Wrapping.flush]
  split_ifs
  · exact h
  · refine ⟨?_, ?_⟩
    · intro line hline
      rcases List.mem_append.mp hline with hline | hline
      · exact h.lines line hline
      · rw [List.mem_singleton.mp hline]
        exact h.current
    · rw [hmeasures.empty]
      exact Nat.zero_le _

lemma Fits.grapheme (hmeasures : Measures lib) (h : w.Fits lib width) {cluster : List Char}
    (hcluster : lib.width cluster ≤ width) : (w.grapheme lib width cluster).Fits lib width := by
  simp only [Wrapping.grapheme]
  rcases flushBefore_cases w width (lib.width w.current + lib.width cluster) with
    ⟨hroom, hsame⟩ | hflush
  · rw [hsame]
    exact ⟨h.lines, (hmeasures.append _ _).trans hroom⟩
  · rw [hflush]
    refine ⟨(h.flush hmeasures).lines, ?_⟩
    rw [current_flush]
    exact hcluster

lemma Fits.graphemes (hmeasures : Measures lib) {clusters : List (List Char)}
    (hclusters : ∀ cluster ∈ clusters, lib.width cluster ≤ width) (h : w.Fits lib width) :
    (clusters.foldl (Wrapping.grapheme lib width) w).Fits lib width := by
  induction clusters generalizing w with
  | nil => exact h
  | cons cluster clusters ih =>
      rw [List.forall_mem_cons] at hclusters
      exact ih hclusters.2 (h.grapheme hmeasures hclusters.1)

/-- A word is put where there is room for it and for the blank before it, or cut into clusters. -/
lemma Fits.word (hmeasures : Measures lib) (h : w.Fits lib width) {next : List Char}
    (hclusters : ∀ cluster ∈ lib.graphemes next, lib.width cluster ≤ width) :
    (w.word lib width next).Fits lib width := by
  simp only [Wrapping.word]
  generalize hneeded :
    lib.width w.current + (if w.current = [] then 0 else 1) + lib.width next = needed
  have hbefore : (w.flushBefore width needed).Fits lib width := by
    rcases flushBefore_cases w width needed with ⟨-, hsame⟩ | hflush
    · rw [hsame]
      exact h
    · rw [hflush]
      exact h.flush hmeasures
  split_ifs with hlong hempty
  · exact (hbefore.flush hmeasures).graphemes hmeasures hclusters
  · exact ⟨hbefore.lines, Nat.le_of_not_lt hlong⟩
  · refine ⟨hbefore.lines, ?_⟩
    rcases flushBefore_cases w width needed with ⟨hroom, hsame⟩ | hflush
    · rw [hsame] at hempty ⊢
      rw [if_neg hempty] at hneeded
      have hfirst := hmeasures.append w.current (' ' :: next)
      have hsecond := hmeasures.append [' '] next
      rw [List.singleton_append, hmeasures.blank] at hsecond
      show lib.width (w.current ++ ' ' :: next) ≤ width
      omega
    · rw [hflush, current_flush] at hempty
      exact absurd rfl hempty

lemma Fits.words (hmeasures : Measures lib) {list : List (List Char)}
    (hclusters : ∀ word ∈ list, ∀ cluster ∈ lib.graphemes word, lib.width cluster ≤ width)
    (h : w.Fits lib width) : (list.foldl (Wrapping.word lib width) w).Fits lib width := by
  induction list generalizing w with
  | nil => exact h
  | cons next list ih =>
      rw [List.forall_mem_cons] at hclusters
      exact ih hclusters.2 (h.word hmeasures hclusters.1)

/-! ## No line is blank -/

/-- Every line has a mark on it, and so does the line being filled unless nothing is on it. -/
structure Marked (w : Wrapping) : Prop where
  lines : ∀ line ∈ w.lines, ink line ≠ []
  current : w.current ≠ [] → ink w.current ≠ []

lemma Marked.flush (h : w.Marked) : w.flush.Marked := by
  rw [Wrapping.flush]
  split_ifs with hempty
  · exact h
  · refine ⟨?_, fun hne => absurd rfl hne⟩
    intro line hline
    rcases List.mem_append.mp hline with hline | hline
    · exact h.lines line hline
    · rw [List.mem_singleton.mp hline]
      exact h.current hempty

lemma Marked.flushBefore (h : w.Marked) (needed : ℕ) : (w.flushBefore width needed).Marked := by
  rcases flushBefore_cases w width needed with ⟨-, hsame⟩ | hflush
  · rw [hsame]
    exact h
  · rw [hflush]
    exact h.flush

/-- What is added ends in marks, if it is anything. -/
lemma Marked.append (h : w.Marked) {added : List Char} (hadded : added ≠ [] → ink added ≠ []) :
    ({ w with current := w.current ++ added } : Wrapping).Marked := by
  refine ⟨h.lines, fun hne hnone => ?_⟩
  show False
  rw [ink_append, List.append_eq_nil_iff] at hnone
  have hcurrent : w.current = [] := by_contra fun hcurrent => h.current hcurrent hnone.1
  have hadded' : added = [] := by_contra fun hne' => hadded hne' hnone.2
  exact hne (by rw [hcurrent, hadded']; rfl)

lemma Marked.graphemes {clusters : List (List Char)} (hclusters : ∀ cs ∈ clusters, IsWord cs)
    (h : w.Marked) : (clusters.foldl (Wrapping.grapheme lib width) w).Marked := by
  induction clusters generalizing w with
  | nil => exact h
  | cons cluster clusters ih =>
      rw [List.forall_mem_cons] at hclusters
      refine ih hclusters.2 ((h.flushBefore _).append fun hne => ?_)
      rw [hclusters.1.ink]
      exact hne

lemma Marked.word (h : w.Marked) {next : List Char} (hword : IsWord next) (hne : next ≠ []) :
    (w.word lib width next).Marked := by
  simp only [Wrapping.word]
  generalize hkept : w.flushBefore width _ = kept
  have hbefore : kept.Marked := hkept ▸ h.flushBefore _
  split_ifs with hlong hempty
  · refine Marked.graphemes (fun cs hcs c hc => hword c ?_) hbefore.flush
    exact lib.graphemes_flatten next ▸ List.mem_flatten_of_mem hcs hc
  · refine ⟨hbefore.lines, fun _ => ?_⟩
    rw [hword.ink]
    exact hne
  · refine hbefore.append fun _ hnone => hne ?_
    have hmarks : ink (' ' :: next) = ink next := rfl
    rwa [hmarks, hword.ink] at hnone

lemma Marked.words {list : List (List Char)} (hwords : ∀ cs ∈ list, IsWord cs ∧ cs ≠ [])
    (h : w.Marked) : (list.foldl (Wrapping.word lib width) w).Marked := by
  induction list generalizing w with
  | nil => exact h
  | cons next list ih =>
      rw [List.forall_mem_cons] at hwords
      exact ih hwords.2 (h.word hwords.1.1 hwords.1.2)

end Wrapping

/-! ## The lines of a text -/

section Text

variable {lib : Libraries} {width : ℕ}

lemma wrapLine_fits (hmeasures : Measures lib) {source : List Char}
    (hclusters : ∀ word ∈ splitWhitespace source, ∀ cluster ∈ lib.graphemes word,
      lib.width cluster ≤ width) :
    ∀ line ∈ wrapLine lib width source, lib.width line ≤ width := by
  rw [wrapLine]
  split_ifs
  · intro line hline
    rw [List.mem_singleton.mp hline, hmeasures.empty]
    exact Nat.zero_le _
  · have hstart : (⟨[], []⟩ : Wrapping).Fits lib width :=
      ⟨fun line hline => absurd hline List.not_mem_nil, hmeasures.empty ▸ Nat.zero_le _⟩
    exact ((hstart.words hmeasures hclusters).flush hmeasures).lines

/-- Only an empty line of the text is an empty line of the output. -/
lemma wrapLine_marked {source : List Char} (hne : source ≠ []) :
    ∀ line ∈ wrapLine lib width source, ink line ≠ [] := by
  rw [wrapLine, if_neg hne]
  have hstart : (⟨[], []⟩ : Wrapping).Marked :=
    ⟨fun line hline => absurd hline List.not_mem_nil, fun hne => absurd rfl hne⟩
  exact (hstart.words fun cs hcs => isWord_of_mem_splitWhitespace hcs).flush.lines

/-- A line with a mark on it contributes a line. -/
lemma wrapLine_ne_nil {source : List Char} (h : source = [] ∨ ink source ≠ []) :
    wrapLine lib width source ≠ [] := by
  rcases h with rfl | hmarks
  · exact List.cons_ne_nil _ _
  · intro hnone
    have hkeeps := (wrapLine_keeps lib width source).marks
    rw [hnone] at hkeeps
    exact hmarks hkeeps.symm

lemma wrapText_fits (hmeasures : Measures lib) {value : List Char}
    (hclusters : ClustersFit lib value width) :
    ∀ line ∈ wrapText lib value width, lib.width line ≤ width := by
  intro line hline
  obtain ⟨source, hsource, hmem⟩ := List.mem_flatMap.mp hline
  exact wrapLine_fits hmeasures (hclusters source hsource) line hmem

/-- A line of nothing but white space. -/
def IsBlankLine (line : List Char) : Prop := line ≠ [] ∧ ink line = []

instance (line : List Char) : Decidable (IsBlankLine line) := inferInstanceAs (Decidable (_ ∧ _))

/-- **What a wrapped text promises**: no line is too wide, every line of the text contributes at
least one line, in order, and nothing but white space is lost. -/
structure WrapsCompletely (lib : Libraries) (value : List Char) (width : ℕ) : Prop where
  fits : ∀ line ∈ wrapText lib value width, lib.width line ≤ width
  contributes : ∃ parts, wrapText lib value width = parts.flatten ∧
    List.Forall₂ (fun source part => part ≠ [] ∧ ink part.flatten = ink source)
      (value.splitOn '\n') parts
  marks : ink (wrapText lib value width).flatten = ink value

/-! Lines without marks are counted, on both sides. -/

/-- A line without marks. -/
def isInkless (line : List Char) : Bool := (ink line).isEmpty

lemma isInkless_iff {line : List Char} : isInkless line = true ↔ ink line = [] :=
  List.isEmpty_iff

/-- There is a line without marks for each one of the text that contributes. -/
lemma countP_le_of_contributes {sources : List (List Char)} {parts : List (List (List Char))}
    (h : List.Forall₂ (fun source part => part ≠ [] ∧ ink part.flatten = ink source) sources
      parts) :
    sources.countP isInkless ≤ parts.flatten.countP isInkless := by
  induction h with
  | nil => exact le_refl _
  | @cons source part sources parts hpart _ ih =>
      rw [List.flatten_cons, List.countP_append, List.countP_cons]
      split_ifs with hinkless
      · have hfirst : 1 ≤ part.countP isInkless := by
          obtain ⟨line, rest, rfl⟩ := List.exists_cons_of_ne_nil hpart.1
          have hnone := hpart.2.trans (isInkless_iff.mp hinkless)
          rw [List.flatten_cons, ink_append, List.append_eq_nil_iff] at hnone
          rw [List.countP_cons_of_pos (isInkless_iff.mpr hnone.1)]
          omega
        omega
      · omega

/-- The lines without marks are those of the empty lines of the text. -/
lemma countP_flatMap_wrapLine (sources : List (List Char)) :
    (sources.flatMap (wrapLine lib width)).countP isInkless = sources.countP List.isEmpty := by
  induction sources with
  | nil => rfl
  | cons source sources ih =>
      rw [List.flatMap_cons, List.countP_append, ih, List.countP_cons, Nat.add_comm]
      by_cases hne : source = []
      · rw [hne]
        rfl
      · have hnone : (wrapLine lib width source).countP isInkless = 0 := by
          rw [List.countP_eq_zero]
          intro line hline hinkless
          exact wrapLine_marked hne line hline (isInkless_iff.mp hinkless)
        rw [hnone, if_neg (by simpa using hne)]

/-- Where one property is as frequent as another that it follows from, it implies it. -/
lemma imp_of_countP_le {α : Type*} {p q : α → Bool} {l : List α}
    (himp : ∀ a ∈ l, q a = true → p a = true) (hle : l.countP p ≤ l.countP q) :
    ∀ a ∈ l, p a = true → q a = true := by
  induction l with
  | nil =>
      intro a ha
      exact absurd ha List.not_mem_nil
  | cons b l ih =>
      rw [List.forall_mem_cons] at himp
      have hmono : l.countP q ≤ l.countP p := List.countP_mono_left himp.2
      rw [List.countP_cons, List.countP_cons] at hle
      rw [List.forall_mem_cons]
      refine ⟨fun hp => ?_, ih himp.2 ?_⟩
      · by_contra hq
        rw [if_pos hp, if_neg hq] at hle
        omega
      · split_ifs at hle with hp hq hq
        · omega
        · omega
        · exact absurd (himp.1 hq) hp
        · omega

/-- **Wrapping loses nothing exactly if no line is blank.**  Text between line feeds that is not
empty and has no mark on it leaves no line behind; everything else is kept. -/
theorem wrapText_complete_iff (lib : Libraries) (hmeasures : Measures lib) (value : List Char)
    (width : ℕ) (hclusters : ClustersFit lib value width) :
    WrapsCompletely lib value width ↔ ∀ line ∈ value.splitOn '\n', ¬ IsBlankLine line := by
  constructor
  · rintro ⟨-, ⟨parts, hparts, hcontributes⟩, -⟩ line hline ⟨hne, hnone⟩
    have hle := countP_le_of_contributes hcontributes
    rw [← hparts, wrapText, countP_flatMap_wrapLine] at hle
    have hempty : ∀ line ∈ value.splitOn '\n', line.isEmpty = true → isInkless line = true := by
      intro line _ hline
      rw [List.isEmpty_iff.mp hline]
      rfl
    exact hne (List.isEmpty_iff.mp
      (imp_of_countP_le hempty hle line hline (isInkless_iff.mpr hnone)))
  · intro hblank
    refine ⟨wrapText_fits hmeasures hclusters, ?_, (wrapText_keeps lib width value).marks⟩
    refine ⟨(value.splitOn '\n').map (wrapLine lib width), List.flatMap_def, ?_⟩
    rw [List.forall₂_map_right_iff, List.forall₂_same]
    intro line hline
    refine ⟨wrapLine_ne_nil ?_, (wrapLine_keeps lib width line).marks⟩
    by_contra hneither
    rw [not_or, not_not] at hneither
    exact hblank line hline hneither

/-- An empty line is kept. -/
theorem wrapText_complete_emptyLine :
    WrapsCompletely Sample.libraries "a b\n\nc".toList 32 :=
  (wrapText_complete_iff Sample.libraries Sample.spaces.toMeasures "a b\n\nc".toList 32
    (Sample.clustersFit _ (by decide))).mpr (by decide)

/-- A blank line is lost: three lines are wrapped to two. -/
theorem blank_line_is_lost : Measures Sample.libraries ∧
    ClustersFit Sample.libraries "a\n \nb".toList 32 ∧
      ¬ WrapsCompletely Sample.libraries "a\n \nb".toList 32 := by
  refine ⟨Sample.spaces.toMeasures, Sample.clustersFit _ (by decide), ?_⟩
  rintro ⟨-, ⟨parts, hparts, hcontributes⟩, -⟩
  have hlines : (wrapText Sample.libraries "a\n \nb".toList 32).length = 2 := by decide
  have hsources : ("a\n \nb".toList.splitOn '\n').length = 3 := by decide
  have hmany : ("a\n \nb".toList.splitOn '\n').length ≤ parts.flatten.length := by
    generalize "a\n \nb".toList.splitOn '\n' = sources at hcontributes
    clear hparts
    induction hcontributes with
    | nil => exact Nat.zero_le _
    | @cons source part sources parts hpart _ ih =>
        have hpos := List.length_pos_of_ne_nil hpart.1
        rw [List.flatten_cons, List.length_append, List.length_cons]
        omega
  rw [← hparts] at hmany
  omega

end Text

/-! ## Words on lines -/

lemma splitWhitespace_nil : splitWhitespace [] = [] := rfl

lemma splitWhitespace_word {cs : List Char} (hword : Wrapping.IsWord cs) (hne : cs ≠ []) :
    splitWhitespace cs = [cs] := by
  rw [splitWhitespace, List.splitOnP_eq_singleton hword]
  simp [hne]

/-- White space separates words. -/
lemma splitWhitespace_append_cons {c : Char} (hc : isWhitespace c = true) (front back : List Char) :
    splitWhitespace (front ++ c :: back) = splitWhitespace front ++ splitWhitespace back := by
  rw [splitWhitespace, List.splitOnP_append_cons front back hc, List.filter_append, splitWhitespace,
    splitWhitespace]

/-- The words of a text are those of its lines. -/
lemma splitWhitespace_lines (value : List Char) :
    splitWhitespace value = (value.splitOn '\n').flatMap splitWhitespace := by
  have hjoin : ['\n'].intercalate (value.splitOn '\n') = value := List.intercalate_splitOn '\n'
  obtain ⟨part, parts, hparts⟩ := List.exists_cons_of_ne_nil (List.splitOn_ne_nil '\n' value)
  rw [hparts] at hjoin ⊢
  rw [← hjoin]
  clear hparts hjoin
  induction parts generalizing part with
  | nil => rw [List.intercalate_singleton, List.flatMap_singleton]
  | cons next parts ih =>
      rw [List.intercalate_cons_cons, List.append_assoc, List.singleton_append,
        splitWhitespace_append_cons rfl, ih, List.flatMap_cons (x := part)]

/-- **The words are on the lines in order**, each of them whole or in pieces. -/
def Spelled (words lines : List (List Char)) : Prop :=
  ∃ pieces : List (List (List Char)),
    List.Forall₂ (fun word parts => parts.flatten = word) words pieces ∧
      lines.flatMap splitWhitespace = pieces.flatten

section Spelled

variable {words words' lines lines' : List (List Char)}

lemma spelled_self (lines : List (List Char)) : Spelled (lines.flatMap splitWhitespace) lines := by
  refine ⟨(lines.flatMap splitWhitespace).map ([·]), ?_, ?_⟩
  · rw [List.forall₂_map_right_iff, List.forall₂_same]
    intro word _
    exact List.flatten_singleton
  · rw [← List.flatMap_def, List.flatMap_singleton']

lemma Spelled.congr (h : Spelled words lines)
    (hsame : lines'.flatMap splitWhitespace = lines.flatMap splitWhitespace) :
    Spelled words lines' := by
  obtain ⟨pieces, hpieces, hlines⟩ := h
  exact ⟨pieces, hpieces, hsame.trans hlines⟩

lemma Spelled.append (h : Spelled words lines) (h' : Spelled words' lines') :
    Spelled (words ++ words') (lines ++ lines') := by
  obtain ⟨pieces, hpieces, hlines⟩ := h
  obtain ⟨pieces', hpieces', hlines'⟩ := h'
  refine ⟨pieces ++ pieces', List.rel_append hpieces hpieces', ?_⟩
  rw [List.flatMap_append, hlines, hlines', List.flatten_append]

/-- One more word, whole or in pieces. -/
lemma Spelled.snoc (h : Spelled words lines) {word : List Char} {parts : List (List Char)}
    (hparts : parts.flatten = word)
    (hlines : lines'.flatMap splitWhitespace = lines.flatMap splitWhitespace ++ parts) :
    Spelled (words ++ [word]) lines' := by
  obtain ⟨pieces, hpieces, hbefore⟩ := h
  refine ⟨pieces ++ [parts], List.rel_append hpieces (.cons hparts .nil), ?_⟩
  rw [hlines, hbefore, List.flatten_append, List.flatten_singleton]

end Spelled

namespace Wrapping

variable (lib : Libraries) (width : ℕ) {w : Wrapping} {words : List (List Char)}

/-- The lines so far with the one being filled. -/
def all (w : Wrapping) : List (List Char) := w.lines ++ [w.current]

lemma flatMap_all (w : Wrapping) :
    w.all.flatMap splitWhitespace =
      w.lines.flatMap splitWhitespace ++ splitWhitespace w.current := by
  rw [all, List.flatMap_append, List.flatMap_singleton]

lemma flatMap_all_flush (w : Wrapping) :
    w.flush.all.flatMap splitWhitespace = w.all.flatMap splitWhitespace := by
  rw [flush]
  split_ifs
  · rfl
  · rw [flatMap_all, splitWhitespace_nil, List.append_nil]
    rfl

lemma flatMap_all_flushBefore (w : Wrapping) (width needed : ℕ) :
    (w.flushBefore width needed).all.flatMap splitWhitespace = w.all.flatMap splitWhitespace := by
  rcases flushBefore_cases w width needed with ⟨-, hsame⟩ | hflush
  · rw [hsame]
  · rw [hflush, flatMap_all_flush]

/-- Clusters are put together again, to pieces of a word. -/
lemma graphemes_spelled {clusters : List (List Char)} (hclusters : ∀ cs ∈ clusters, IsWord cs)
    (hcurrent : IsWord w.current) : ∃ parts : List (List Char),
      (clusters.foldl (Wrapping.grapheme lib width) w).all.flatMap splitWhitespace =
          w.lines.flatMap splitWhitespace ++ parts ∧
        parts.flatten = w.current ++ clusters.flatten := by
  induction clusters generalizing w with
  | nil =>
      refine ⟨splitWhitespace w.current, flatMap_all w, ?_⟩
      rw [flatten_splitWhitespace, hcurrent.ink, List.flatten_nil, List.append_nil]
  | cons cluster clusters ih =>
      rw [List.forall_mem_cons] at hclusters
      rw [List.foldl_cons, List.flatten_cons]
      have hgrapheme : w.grapheme lib width cluster =
          { w.flushBefore width (lib.width w.current + lib.width cluster) with
            current := (w.flushBefore width (lib.width w.current + lib.width cluster)).current ++
              cluster } := rfl
      have hlines := flatMap_all_flushBefore w width (lib.width w.current + lib.width cluster)
      rw [flatMap_all, flatMap_all] at hlines
      rcases flushBefore_cases w width (lib.width w.current + lib.width cluster) with
        ⟨-, hsame⟩ | hflush
      · have hnext : IsWord (w.grapheme lib width cluster).current := by
          rw [hgrapheme, hsame]
          intro c hc
          rcases List.mem_append.mp hc with hc | hc
          · exact hcurrent c hc
          · exact hclusters.1 c hc
        obtain ⟨parts, hall, hparts⟩ := ih hclusters.2 hnext
        refine ⟨parts, ?_, ?_⟩
        · rw [hall, hgrapheme, hsame]
        · rw [hparts, hgrapheme, hsame, List.append_assoc]
      · have hnext : IsWord (w.grapheme lib width cluster).current := by
          rw [hgrapheme, hflush, current_flush]
          exact hclusters.1
        obtain ⟨parts, hall, hparts⟩ := ih hclusters.2 hnext
        rw [hflush, current_flush, splitWhitespace_nil, List.append_nil] at hlines
        refine ⟨splitWhitespace w.current ++ parts, ?_, ?_⟩
        · rw [hall, hgrapheme, hflush]
          show w.flush.lines.flatMap splitWhitespace ++ parts = _
          rw [hlines, List.append_assoc]
        · rw [List.flatten_append, flatten_splitWhitespace, hcurrent.ink, hparts, hgrapheme, hflush,
            current_flush, List.nil_append]

/-- **A word is put on the lines.** -/
lemma word_spelled (h : Spelled words w.all) {next : List Char} (hword : IsWord next)
    (hne : next ≠ []) : Spelled (words ++ [next]) (w.word lib width next).all := by
  simp only [Wrapping.word]
  generalize hkept : w.flushBefore width _ = kept
  have hbefore : Spelled words kept.all := h.congr (hkept ▸ flatMap_all_flushBefore w width _)
  have hwhole : [next].flatten = next := List.flatten_singleton
  split_ifs with hlong hempty
  · have hclusters : ∀ cs ∈ lib.graphemes next, IsWord cs := fun cs hcs c hc =>
      hword c (lib.graphemes_flatten next ▸ List.mem_flatten_of_mem hcs hc)
    have hnone : IsWord kept.flush.current := by
      rw [current_flush]
      exact fun c hc => absurd hc List.not_mem_nil
    obtain ⟨parts, hall, hparts⟩ := graphemes_spelled lib width hclusters hnone
    rw [current_flush, List.nil_append, lib.graphemes_flatten] at hparts
    refine hbefore.snoc hparts (hall.trans ?_)
    have hlines := flatMap_all_flush kept
    rw [flatMap_all, current_flush, splitWhitespace_nil, List.append_nil] at hlines
    rw [hlines]
  · refine hbefore.snoc hwhole ?_
    rw [flatMap_all, flatMap_all, hempty, splitWhitespace_nil, List.append_nil,
      splitWhitespace_word hword hne]
  · refine hbefore.snoc hwhole ?_
    rw [flatMap_all, flatMap_all, splitWhitespace_append_cons rfl, splitWhitespace_word hword hne,
      List.append_assoc]

lemma words_spelled {list : List (List Char)} (hwords : ∀ cs ∈ list, IsWord cs ∧ cs ≠ [])
    (h : Spelled words w.all) :
    Spelled (words ++ list) (list.foldl (Wrapping.word lib width) w).all := by
  induction list generalizing w words with
  | nil =>
      rw [List.append_nil]
      exact h
  | cons next list ih =>
      rw [List.forall_mem_cons] at hwords
      have hnext := ih hwords.2 (word_spelled lib width h hwords.1.1 hwords.1.2)
      rwa [List.append_assoc] at hnext

end Wrapping

section Spelling

variable (lib : Libraries) (width : ℕ)

lemma wrapLine_spelled (source : List Char) :
    Spelled (splitWhitespace source) (wrapLine lib width source) := by
  rw [wrapLine]
  split_ifs with hempty
  · rw [hempty]
    exact ⟨[], .nil, rfl⟩
  · have hstart : Spelled [] (⟨[], []⟩ : Wrapping).all := ⟨[], .nil, rfl⟩
    have hwords : ∀ cs ∈ splitWhitespace source, Wrapping.IsWord cs ∧ cs ≠ [] :=
      fun cs hcs => isWord_of_mem_splitWhitespace hcs
    have hend := Wrapping.words_spelled lib width hwords hstart
    rw [List.nil_append] at hend
    refine hend.congr ?_
    have hlines := Wrapping.flatMap_all_flush
      ((splitWhitespace source).foldl (Wrapping.word lib width) ⟨[], []⟩)
    rwa [Wrapping.flatMap_all, Wrapping.current_flush, splitWhitespace_nil, List.append_nil]
      at hlines

/-- **The words of a text are on its lines, in order.** -/
lemma wrapText_spelled (value : List Char) :
    Spelled (splitWhitespace value) (wrapText lib value width) := by
  rw [splitWhitespace_lines, wrapText]
  generalize value.splitOn '\n' = sources
  induction sources with
  | nil => exact ⟨[], .nil, rfl⟩
  | cons source sources ih =>
      rw [List.flatMap_cons, List.flatMap_cons]
      exact (wrapLine_spelled lib width source).append ih

end Spelling

/-! ## Rows -/

/-- There is a line feed or a carriage return in a text. -/
def HasBreak (cs : List Char) : Prop := '\n' ∈ cs ∨ '\r' ∈ cs

instance (cs : List Char) : Decidable (HasBreak cs) := inferInstanceAs (Decidable (_ ∨ _))

/-- **What the lines of a row promise**: no line is broken, each is exactly as wide as the paper,
and it has a part of the left column, blanks, and a part of the right column, in which the words of
the columns are in order. -/
structure RowExact (lib : Libraries) (left right : List Char) (width : ℕ)
    (lines : List (List Char)) : Prop where
  unbroken : ∀ line ∈ lines, ¬ HasBreak line
  exact : ∀ line ∈ lines, lib.width line = width
  parts : ∃ parts : List (List Char × ℕ × List Char),
    lines = parts.map (fun part => part.1 ++ List.replicate part.2.1 ' ' ++ part.2.2) ∧
      (∀ part ∈ parts, 1 ≤ part.2.1) ∧
        Spelled (splitWhitespace left) (parts.map fun part => part.1) ∧
          Spelled (splitWhitespace right) (parts.map fun part => part.2.2)

/-- No cluster of a column is wider than the column. -/
def ColumnsFit (lib : Libraries) (left right : List Char) (width : ℕ) : Prop :=
  ClustersFit lib left (max (width * 3 / 5) 1) ∧
    ClustersFit lib right (max (width - (width * 3 / 5 + 1)) 1)

section Rows

variable {lib : Libraries}

/-- The row that fits as it is. -/
lemma layoutRow_of_fits {left right : List Char} {width : ℕ}
    (hfits : rowFits lib left right width = true) : layoutRow lib left right width =
      [left ++ List.replicate (width - lib.width left - lib.width right) ' ' ++ right] := by
  rw [layoutRow, if_pos hfits]

lemma rowExact_of_fits (hspaces : Spaces lib) {left right : List Char} {width : ℕ}
    (hfits : rowFits lib left right width = true) (hleft : ¬ HasBreak left)
    (hright : ¬ HasBreak right) :
    RowExact lib left right width (layoutRow lib left right width) := by
  have hlt : lib.width left + lib.width right < width := of_decide_eq_true hfits
  rw [layoutRow_of_fits hfits]
  refine ⟨?_, ?_, [(left, width - lib.width left - lib.width right, right)], rfl, ?_, ?_, ?_⟩
  · intro line hline hbreak
    rw [List.mem_singleton.mp hline] at hbreak
    have hblank : ∀ c, c ∈ List.replicate (width - lib.width left - lib.width right) ' ' →
        c = ' ' := fun c hc => List.eq_of_mem_replicate hc
    rcases hbreak with hbreak | hbreak
    all_goals
      rw [List.mem_append, List.mem_append] at hbreak
      rcases hbreak with (hmem | hmem) | hmem
    · exact hleft (.inl hmem)
    · cases hblank _ hmem
    · exact hright (.inl hmem)
    · exact hleft (.inr hmem)
    · cases hblank _ hmem
    · exact hright (.inr hmem)
  · intro line hline
    obtain ⟨n, hn⟩ : ∃ n, width - lib.width left - lib.width right = n + 1 :=
      ⟨width - lib.width left - lib.width right - 1, by omega⟩
    rw [List.mem_singleton.mp hline, hn, hspaces.spaced]
    omega
  · intro part hpart
    rw [List.mem_singleton.mp hpart]
    show 1 ≤ width - lib.width left - lib.width right
    omega
  · have hself := spelled_self [left]
    rwa [List.flatMap_singleton] at hself
  · have hself := spelled_self [right]
    rwa [List.flatMap_singleton] at hself

/-- A row whose columns do not fit next to each other, line by line. -/
def rowPart (lib : Libraries) (left right : List Char) (width index : ℕ) :
    List Char × ℕ × List Char :=
  let leftLine := (wrapText lib left (max (width * 3 / 5) 1)).getD index []
  let rightLine := (wrapText lib right (max (width - (width * 3 / 5 + 1)) 1)).getD index []
  (leftLine, max (width - (lib.width leftLine + lib.width rightLine)) 1, rightLine)

/-- The number of lines of such a row. -/
def rowCount (lib : Libraries) (left right : List Char) (width : ℕ) : ℕ :=
  max (wrapText lib left (max (width * 3 / 5) 1)).length
    (wrapText lib right (max (width - (width * 3 / 5 + 1)) 1)).length

lemma layoutRow_of_not_fits {left right : List Char} {width : ℕ}
    (hfits : rowFits lib left right width = false) : layoutRow lib left right width =
      ((List.range (rowCount lib left right width)).map (rowPart lib left right width)).map
        (fun part => part.1 ++ List.replicate part.2.1 ' ' ++ part.2.2) := by
  rw [layoutRow, hfits, if_neg Bool.false_ne_true, List.map_map]
  rfl

/-- Reading a list up to a number that is no less than its length. -/
lemma map_getD_range {α : Type*} (l : List α) (a : α) {n : ℕ} (hn : l.length ≤ n) :
    (List.range n).map (fun i => l.getD i a) = l ++ List.replicate (n - l.length) a := by
  refine List.ext_getElem ?_ fun i hi hi' => ?_
  · rw [List.length_map, List.length_range, List.length_append, List.length_replicate]
    omega
  · rw [List.getElem_map, List.getElem_range]
    rcases Nat.lt_or_ge i l.length with hlt | hge
    · rw [List.getElem_append_left hlt, List.getD_eq_getElem _ _ hlt]
    · rw [List.getElem_append_right hge, List.getElem_replicate, List.getD_eq_default _ _ hge]

/-- Empty lines at the end say nothing. -/
lemma Spelled.pad {words lines : List (List Char)} (h : Spelled words lines) (n : ℕ) :
    Spelled words (lines ++ List.replicate n []) := by
  have hnone : (List.replicate n ([] : List Char)).flatMap splitWhitespace = [] := by
    induction n with
    | zero => rfl
    | succ n ih =>
        rw [List.replicate_succ, List.flatMap_cons, ih, splitWhitespace_nil, List.nil_append]
  refine h.congr ?_
  rw [List.flatMap_append, hnone, List.append_nil]

lemma Spelled.range {words lines : List (List Char)} (h : Spelled words lines) {n : ℕ}
    (hn : lines.length ≤ n) : Spelled words ((List.range n).map fun i => lines.getD i []) := by
  rw [map_getD_range _ _ hn]
  exact h.pad _

lemma getD_width_le (hmeasures : Measures lib) {lines : List (List Char)} {width : ℕ}
    (hlines : ∀ line ∈ lines, lib.width line ≤ width) (index : ℕ) :
    lib.width (lines.getD index []) ≤ width := by
  rcases Nat.lt_or_ge index lines.length with hlt | hge
  · rw [List.getD_eq_getElem _ _ hlt]
    exact hlines _ (List.getElem_mem hlt)
  · rw [List.getD_eq_default _ _ hge, hmeasures.empty]
    exact Nat.zero_le _

lemma rowExact_of_not_fits (hspaces : Spaces lib) (paper : ReceiptWidth) {left right : List Char}
    (hfits : rowFits lib left right (columns paper) = false)
    (hcolumns : ColumnsFit lib left right (columns paper)) :
    RowExact lib left right (columns paper) (layoutRow lib left right (columns paper)) := by
  refine ⟨?_, ?_, ?_⟩
  · intro line hline hbreak
    have hmem : ∀ c ∈ line, c = ' ' ∨ c ∈ ink left ∨ c ∈ ink right := fun c hc =>
      mem_layoutRow hfits (List.mem_flatten_of_mem hline hc)
    have hmark : ∀ c, isWhitespace c = true → c ≠ ' ' → c ∉ line := by
      intro c hwhite hne hc
      rcases hmem c hc with hblank | hleft | hright
      · exact hne hblank
      · rw [(mem_ink.mp hleft).2] at hwhite
        cases hwhite
      · rw [(mem_ink.mp hright).2] at hwhite
        cases hwhite
    rcases hbreak with hbreak | hbreak
    · exact hmark '\n' rfl (by decide) hbreak
    · exact hmark '\r' rfl (by decide) hbreak
  · rw [layoutRow_of_not_fits hfits]
    intro line hline
    obtain ⟨part, hpart, rfl⟩ := List.mem_map.mp hline
    obtain ⟨index, -, rfl⟩ := List.mem_map.mp hpart
    have hleft := getD_width_le hspaces.toMeasures
      (wrapText_fits hspaces.toMeasures hcolumns.1) index
    have hright := getD_width_le hspaces.toMeasures
      (wrapText_fits hspaces.toMeasures hcolumns.2) index
    rw [rowPart]
    simp only
    generalize (wrapText lib left (max (columns paper * 3 / 5) 1)).getD index [] = leftLine at *
    generalize (wrapText lib right (max (columns paper - (columns paper * 3 / 5 + 1)) 1)).getD index
      [] = rightLine at *
    -- both columns and the blank between them are as wide as the paper
    have hroom : lib.width leftLine + lib.width rightLine < columns paper := by
      cases paper <;> simp only [columns] at hleft hright ⊢ <;> omega
    obtain ⟨n, hn⟩ : ∃ n, max (columns paper - (lib.width leftLine + lib.width rightLine)) 1 =
        n + 1 := ⟨columns paper - (lib.width leftLine + lib.width rightLine) - 1, by omega⟩
    rw [hn, hspaces.spaced]
    omega
  · refine ⟨_, layoutRow_of_not_fits hfits, ?_, ?_, ?_⟩
    · intro part hpart
      obtain ⟨index, -, rfl⟩ := List.mem_map.mp hpart
      exact le_max_right _ _
    · rw [List.map_map]
      exact (wrapText_spelled lib _ left).range (le_max_left _ _)
    · rw [List.map_map]
      exact (wrapText_spelled lib _ right).range (le_max_right _ _)

/-- **A row is exact unless it fits as it is and has a line break in it**, provided that a row that
does not fit has no cluster that is wider than its column.  The first half needs no proviso. -/
theorem layoutRow_exact (lib : Libraries) (hspaces : Spaces lib) (paper : ReceiptWidth)
    (left right : List Char) :
    (RowExact lib left right (columns paper) (layoutRow lib left right (columns paper)) →
      rowFits lib left right (columns paper) = true → ¬ HasBreak left ∧ ¬ HasBreak right) ∧
    ((rowFits lib left right (columns paper) = true → ¬ HasBreak left ∧ ¬ HasBreak right) →
      (rowFits lib left right (columns paper) = false →
        ColumnsFit lib left right (columns paper)) →
      RowExact lib left right (columns paper) (layoutRow lib left right (columns paper))) := by
  constructor
  · intro hexact hfits
    have hline := hexact.unbroken _
      (by rw [layoutRow_of_fits hfits]; exact List.mem_singleton_self _)
    constructor
    · rintro (hbreak | hbreak)
      · exact hline (.inl (List.mem_append_left _ (List.mem_append_left _ hbreak)))
      · exact hline (.inr (List.mem_append_left _ (List.mem_append_left _ hbreak)))
    · rintro (hbreak | hbreak)
      · exact hline (.inl (List.mem_append_right _ hbreak))
      · exact hline (.inr (List.mem_append_right _ hbreak))
  · intro hbreak hcolumns
    cases hfits : rowFits lib left right (columns paper) with
    | true => exact rowExact_of_fits hspaces hfits (hbreak hfits).1 (hbreak hfits).2
    | false => exact rowExact_of_not_fits hspaces paper hfits (hcolumns hfits)

end Rows

/-- A total next to its amount, and a row of which the left column takes two lines. -/
theorem layoutRow_exact_receipt :
    RowExact Sample.libraries "Total".toList "9.00".toList 32
        (layoutRow Sample.libraries "Total".toList "9.00".toList 32) ∧
      RowExact Sample.libraries "Espresso with oat milk and syrup".toList "12.50".toList 32
        (layoutRow Sample.libraries "Espresso with oat milk and syrup".toList "12.50".toList 32) :=
  ⟨(layoutRow_exact Sample.libraries Sample.spaces .mm58 "Total".toList "9.00".toList).2
      (by decide) (fun _ => ⟨Sample.clustersFit _ (by decide), Sample.clustersFit _ (by decide)⟩),
    (layoutRow_exact Sample.libraries Sample.spaces .mm58
      "Espresso with oat milk and syrup".toList "12.50".toList).2 (by decide)
      (fun _ => ⟨Sample.clustersFit _ (by decide), Sample.clustersFit _ (by decide)⟩)⟩

/-- A line break in a row that fits as it is stays on the line. -/
theorem row_keeps_break : Spaces Sample.libraries ∧
    ¬ RowExact Sample.libraries "a\nb".toList "1".toList 32
      (layoutRow Sample.libraries "a\nb".toList "1".toList 32) := by
  refine ⟨Sample.spaces, fun hexact => ?_⟩
  have hfits : rowFits Sample.libraries "a\nb".toList "1".toList 32 = true := by decide
  have hline := hexact.unbroken _
    (by rw [layoutRow_of_fits hfits]; exact List.mem_singleton_self _)
  exact hline (.inl (List.mem_append_left _ (List.mem_append_left _ (by decide))))

end Oppa.Renderer
