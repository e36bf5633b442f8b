import Oppa.Foundation.Bytes
import Oppa.Foundation.Result
import Oppa.Protocol.Document

/-!
# The common layout of a receipt

What every renderer starts from: the sections of a valid document as drawing operations, with text
wrapped to the columns of the paper and images packed into black dots.

* `Libraries` — what is used of the crates for Unicode, base64 and images.
* `wrapText`, `layoutRow` — lines of text.
* `ReceiptImage`, `ReceiptElement`, `PrintLayout.fromDocument` — the layout.
-/

namespace Oppa.Renderer

open Protocol Bytes Result Text

/-- Maximum base64-decoded, still-compressed source image accepted by the renderer. -/
def maxDecodedImageBytes : ℕ := 1024 * 1024

/-- Maximum source image dimension accepted before resizing. -/
def maxImageDimension : ℕ := 2048

/-- Renderer failures. -/
inductive RendererError
  | invalidDocument (text : String)
  | unicodeRequiresRasterization
  | invalidImage (text : String)
  | imageTooLarge (text : String)
  | invalidBarcode (format : BarcodeFormat) (reason : String)
  | outputTooLarge (actual maximum : ℕ)
  | invalidRasterPage (text : String)
  | invalidEscPos (offset : ℕ) (reason : String)
  deriving DecidableEq, Repr

/-- Why the decoder of images failed: one of its limits, or something else. -/
inductive ImageError
  | dimensions
  | insufficientMemory
  | unsupportedLimit
  | otherLimit
  | other (text : String)
  deriving DecidableEq, Repr

/-- `map_image_decode_error`. -/
def mapImageDecodeError : ImageError → RendererError
  | .other text => .invalidImage text
  | .dimensions =>
      .imageTooLarge ("width and height must each be at most " ++ toString maxImageDimension ++ "px")
  | .insufficientMemory =>
      .imageTooLarge "decoder allocation exceeds 16777216 bytes"
  | .unsupportedLimit => .imageTooLarge "decoder cannot enforce the required image safety limits"
  | .otherLimit => .imageTooLarge "decoder resource limit exceeded"

/-- **What is used of other crates**, and what the renderer relies on: the clusters of a word make
up the word, a decoded image is not empty and keeps the limits installed in its decoder, and an
image that is resized has the size asked for. -/
structure Libraries where
  /-- `UnicodeWidthStr::width`. -/
  width : List Char → ℕ
  /-- `UnicodeSegmentation::graphemes`, extended. -/
  graphemes : List Char → List (List Char)
  /-- `STANDARD.decode` of the base64 crate. -/
  base64 : String → Except String (List UInt8)
  /-- `DynamicImage`. -/
  Image : Type
  /-- `ImageReader::decode`. -/
  decode : ImageMediaType → List UInt8 → Except ImageError Image
  imageWidth : Image → ℕ
  imageHeight : Image → ℕ
  /-- `resize_exact` with a triangle filter. -/
  resizeExact : Image → ℕ → ℕ → Image
  /-- The pixels of `to_luma8`. -/
  luma : Image → ℕ → ℕ → UInt8
  graphemes_flatten : ∀ cs, (graphemes cs).flatten = cs
  decode_width : ∀ mediaType bytes image, decode mediaType bytes = .ok image →
    0 < imageWidth image ∧ imageWidth image ≤ maxImageDimension
  decode_height : ∀ mediaType bytes image, decode mediaType bytes = .ok image →
    0 < imageHeight image ∧ imageHeight image ≤ maxImageDimension
  resize_width : ∀ image width height, imageWidth (resizeExact image width height) = width
  resize_height : ∀ image width height, imageHeight (resizeExact image width height) = height

variable (lib : Libraries)

/-! ## Text -/

/-- `columns`. -/
def columns : ReceiptWidth → ℕ
  | .mm58 => 32
  | .mm80 => 48

/-- `require_ascii`. -/
def requireAscii (value : String) : Except RendererError Unit :=
  if value.toList.all isAscii then .ok () else .error .unicodeRequiresRasterization

/-- `alignment_code`. -/
def alignmentCode : TextAlignment → UInt8
  | .left => 0
  | .center => 1
  | .right => 2

/-- `str::split_whitespace`. -/
def splitWhitespace (cs : List Char) : List (List Char) :=
  (cs.splitOnP isWhitespace).filter (· ≠ [])

/-- The lines that are finished, and the line being filled. -/
structure Wrapping where
  lines : List (List Char)
  current : List Char

namespace Wrapping

/-- Finishes the line, unless nothing is on it. -/
def flush (w : Wrapping) : Wrapping :=
  if w.current = [] then w else { lines := w.lines ++ [w.current], current := [] }

/-- Finishes the line if what comes next does not fit on it. -/
def flushBefore (width needed : ℕ) (w : Wrapping) : Wrapping :=
  if width < needed then w.flush else w

/-- A cluster of a word that does not fit on a line. -/
def grapheme (width : ℕ) (w : Wrapping) (cluster : List Char) : Wrapping :=
  let w := w.flushBefore width (lib.width w.current + lib.width cluster)
  { w with current := w.current ++ cluster }

/-- The next word of a line. -/
def word (width : ℕ) (w : Wrapping) (next : List Char) : Wrapping :=
  let candidateWidth :=
    lib.width w.current + (if w.current = [] then 0 else 1) + lib.width next
  let w := w.flushBefore width candidateWidth
  if width < lib.width next then (lib.graphemes next).foldl (grapheme lib width) w.flush
  else if w.current = [] then { w with current := next }
  else { w with current := w.current ++ ' ' :: next }

end Wrapping

/-- One source line of `wrap_text`. -/
def wrapLine (width : ℕ) (line : List Char) : List (List Char) :=
  if line = [] then [[]]
  else ((splitWhitespace line).foldl (Wrapping.word lib width) ⟨[], []⟩).flush.lines

/-- `wrap_text`. -/
def wrapText (value : List Char) (width : ℕ) : List (List Char) :=
  (value.splitOn '\n').flatMap (wrapLine lib width)

/-- A row fits on one line as it is. -/
def rowFits (left right : List Char) (width : ℕ) : Bool := lib.width left + lib.width right < width

/-- `layout_row`. -/
def layoutRow (left right : List Char) (width : ℕ) : List (List Char) :=
  if rowFits lib left right width then
    [left ++ List.replicate (width - lib.width left - lib.width right) ' ' ++ right]
  else
    let leftWidth := width * 3 / 5
    let rightWidth := width - (leftWidth + 1)
    let leftLines := wrapText lib left (max leftWidth 1)
    let rightLines := wrapText lib right (max rightWidth 1)
    (List.range (max leftLines.length rightLines.length)).map fun index =>
      let left := leftLines.getD index []
      let right := rightLines.getD index []
      let spacing := max (width - (lib.width left + lib.width right)) 1
      left ++ List.replicate spacing ' ' ++ right

/-! ## Images -/

/-- One monochrome image: packed black bits, most-significant bit first. -/
structure ReceiptImage where
  width : ℕ
  height : ℕ
  dpi : ℕ
  stride : ℕ
  data : List UInt8
  deriving DecidableEq, Repr

/-- `set_packed_bit`. -/
def setPackedBit (data : List UInt8) (stride x y : ℕ) : List UInt8 :=
  data.modify (y * stride + x / 8) fun byte => byte ||| (0x80 >>> UInt8.ofNat (x % 8))

namespace ReceiptImage

/-- The black dots of one row. -/
def packRow (luma : ℕ → ℕ → UInt8) (stride width : ℕ) (data : List UInt8) (y : ℕ) : List UInt8 :=
  (List.range width).foldl
    (fun data x => if luma x y < 160 then setPackedBit data stride x y else data) data

/-- `ReceiptImage::from_gray`. -/
def fromGray (width height : ℕ) (luma : ℕ → ℕ → UInt8) : ReceiptImage :=
  let stride := (width + 7) / 8
  { width := width
    height := height
    dpi := 203
    stride := stride
    data := (List.range height).foldl (packRow luma stride width)
      (List.replicate (stride * height) 0) }

/-- `ReceiptImage::from_mono`. -/
def fromMono (width height : ℕ) (data : List UInt8) : Except RendererError ReceiptImage :=
  let stride := (width + 7) / 8
  if width = 0 ∨ height = 0 ∨ data.length ≠ stride * height then
    .error (.invalidRasterPage "ESC/POS image dimensions do not match its payload")
  else .ok ⟨width, height, 203, stride, data⟩

end ReceiptImage

/-- `mm_to_px`, with its checked arithmetic on 32 bits. -/
def mmToPx (mm dpi : ℕ) : Option ℕ :=
  if mm * dpi * 10 + 127 < 2 ^ 32 then some ((mm * dpi * 10 + 127) / 254) else none

/-- `receipt_pixel_width`. -/
def receiptPixelWidth (width : ReceiptWidth) (dpi : ℕ) : ℕ := (mmToPx width.millimetres dpi).getD 1

/-- `decode_image`. -/
def decodeImage (mediaType : ImageMediaType) (data : String) : Except RendererError lib.Image := do
  let decoded ← (lib.base64 data).mapError .invalidImage
  if maxDecodedImageBytes < decoded.length then
    .error (.imageTooLarge ("decoded image is " ++ toString decoded.length ++
      " bytes; maximum is " ++ toString maxDecodedImageBytes))
  else (lib.decode mediaType decoded).mapError mapImageDecodeError

/-- The image a layout keeps: no wider than the paper. -/
def layoutImage (paper : ReceiptWidth) (decoded : lib.Image) : ReceiptImage :=
  let maximumWidth := receiptPixelWidth paper 203
  let decoded :=
    if maximumWidth < lib.imageWidth decoded then
      lib.resizeExact decoded maximumWidth
        (max (min (lib.imageHeight decoded * maximumWidth) (2 ^ 32 - 1) /
          lib.imageWidth decoded) 1)
    else decoded
  .fromGray (lib.imageWidth decoded) (lib.imageHeight decoded) (lib.luma decoded)

/-! ## Layouts -/

/-- One semantic receipt drawing operation. -/
inductive ReceiptElement
  | text (value : String) (alignment : TextAlignment) (bold : Bool)
  | row (left right : String)
  | divider
  | image (image : ReceiptImage)
  | qr (value : String)
  | barcode (format : BarcodeFormat) (value : String) (heightDots : UInt8) (humanReadable : Bool)
  | feed (lines : UInt8)
  | cut
  deriving DecidableEq, Repr

/-- Compact rendering representation shared by structured and interpreted jobs. -/
structure PrintLayout where
  width : ReceiptWidth
  elements : List ReceiptElement
  deriving DecidableEq, Repr

/-- The drawing operation of one section. -/
def ReceiptElement.fromSection (paper : ReceiptWidth) :
    PrintSection → Except RendererError ReceiptElement
  | .text value align bold => .ok (.text value (align.getD .left) (bold.getD false))
  | .row left right => .ok (.row left right)
  | .divider => .ok .divider
  | .image mediaType data => do
      let decoded ← decodeImage lib mediaType data
      return .image (layoutImage lib paper decoded)
  | .qr value => .ok (.qr value)
  | .barcode format value => .ok (.barcode format value 80 true)
  | .feed lines => .ok (.feed lines)
  | .cut => .ok .cut

/-- `PrintLayout::from_document`. -/
def PrintLayout.fromDocument (document : PrintDocument) : Except RendererError PrintLayout := do
  document.validate.mapError fun error => RendererError.invalidDocument error.display
  let elements ← document.sections.mapM (ReceiptElement.fromSection lib document.width)
  return ⟨document.width, elements⟩

/-! ## What wrapping keeps -/

/-- The characters of a text that leave a mark. -/
def ink (cs : List Char) : List Char := cs.filter fun c => !isWhitespace c

@[simp] lemma ink_append {cs ds : List Char} : ink (cs ++ ds) = ink cs ++ ink ds :=
  List.filter_append ..

lemma mem_ink {c : Char} {cs : List Char} : c ∈ ink cs ↔ c ∈ cs ∧ isWhitespace c = false := by
  simp [ink]

/-- Splitting loses nothing but separators. -/
lemma flatten_splitOnP {p : Char → Bool} (cs : List Char) :
    (cs.splitOnP p).flatten = cs.filter fun c => !p c := by
  induction cs with
  | nil => rfl
  | cons c cs ih =>
      rw [List.splitOnP_cons_eq_if_modifyHead]
      cases hp : p c with
      | true => simp [hp, ih]
      | false =>
          rcases List.exists_cons_of_ne_nil (List.splitOnP_ne_nil p cs) with ⟨first, rest, heq⟩
          rw [heq] at ih ⊢
          simp [hp, ← ih]

lemma flatten_splitWhitespace (cs : List Char) : (splitWhitespace cs).flatten = ink cs := by
  rw [splitWhitespace, List.flatten_filter_ne_nil, flatten_splitOnP, ink]

namespace Wrapping

/-- What is on the lines so far. -/
def content (w : Wrapping) : List Char := w.lines.flatten ++ w.current

/-- The marks on the lines so far, if the only white space there is the blank, of which there are no
more than marks. -/
structure Holds (w : Wrapping) (source : List Char) : Prop where
  marks : ink w.content = source
  blanks : ∀ c ∈ w.content, isWhitespace c = true → c = ' '
  length : w.content.length ≤ 2 * source.length

variable {lib} {w : Wrapping} {marks : List Char} {width : ℕ}

@[simp] lemma content_flush : w.flush.content = w.content := by
  simp only [flush]
  split <;> simp_all [content]

lemma Holds.flush (hholds : w.Holds marks) : w.flush.Holds marks where
  marks := by rw [content_flush, hholds.marks]
  blanks := by rw [content_flush]; exact hholds.blanks
  length := by rw [content_flush]; exact hholds.length

lemma Holds.flushBefore (hholds : w.Holds marks) {needed : ℕ} :
    (w.flushBefore width needed).Holds marks := by
  simp only [Wrapping.flushBefore]
  split
  · exact hholds.flush
  · exact hholds

/-- Marks added to the line. -/
lemma Holds.append (hholds : w.Holds marks) {added new : List Char} (hink : ink added = new)
    (hblanks : ∀ c ∈ added, isWhitespace c = true → c = ' ')
    (hlength : added.length ≤ 2 * new.length) :
    ({ w with current := w.current ++ added } : Wrapping).Holds (marks ++ new) := by
  have hcontent : ({ w with current := w.current ++ added } : Wrapping).content =
      w.content ++ added := by
    simp [content]
  refine ⟨by rw [hcontent, ink_append, hholds.marks, hink], fun c hc => ?_, ?_⟩
  · rw [hcontent] at hc
    rcases List.mem_append.mp hc with hold | hnew
    · exact hholds.blanks c hold
    · exact hblanks c hnew
  · have hbefore := hholds.length
    rw [hcontent, List.length_append, List.length_append]
    omega

/-- A word has no white space in it. -/
def IsWord (cs : List Char) : Prop := ∀ c ∈ cs, isWhitespace c = false

lemma IsWord.ink {cs : List Char} (hword : IsWord cs) : ink cs = cs := by
  refine List.filter_eq_self.mpr fun c hc => ?_
  simp [hword c hc]

lemma IsWord.blanks {cs : List Char} (hword : IsWord cs) :
    ∀ c ∈ cs, isWhitespace c = true → c = ' ' := by
  intro c hc hwhite
  rw [hword c hc] at hwhite
  cases hwhite

lemma Holds.grapheme (hholds : w.Holds marks) {cluster : List Char} (hword : IsWord cluster) :
    (w.grapheme lib width cluster).Holds (marks ++ cluster) := by
  exact hholds.flushBefore.append hword.ink hword.blanks (by omega)

lemma Holds.graphemes {clusters : List (List Char)} (hwords : ∀ cs ∈ clusters, IsWord cs)
    (hholds : w.Holds marks) :
    (clusters.foldl (Wrapping.grapheme lib width) w).Holds (marks ++ clusters.flatten) := by
  induction clusters generalizing w marks with
  | nil => simpa using hholds
  | cons cluster clusters ih =>
      have hhead : (w.grapheme lib width cluster).Holds (marks ++ cluster) :=
        hholds.grapheme (hwords _ List.mem_cons_self)
      have htail := ih (fun cs hcs => hwords cs (List.mem_cons_of_mem _ hcs)) hhead
      simpa [List.append_assoc] using htail

/-- **A word is kept.** -/
lemma Holds.word (hholds : w.Holds marks) {next : List Char} (hword : IsWord next)
    (hne : next ≠ []) :
    (w.word lib width next).Holds (marks ++ next) := by
  simp only [Wrapping.word]
  generalize hkept : w.flushBefore width _ = kept
  have hbefore : kept.Holds marks := hkept ▸ hholds.flushBefore
  split
  · have hclusters : ∀ cs ∈ lib.graphemes next, IsWord cs := by
      intro cs hcs c hc
      exact hword c (lib.graphemes_flatten next ▸ List.mem_flatten_of_mem hcs hc)
    have hsplit : ((lib.graphemes next).foldl (Wrapping.grapheme lib width) kept.flush).Holds
        (marks ++ (lib.graphemes next).flatten) :=
      graphemes hclusters hbefore.flush
    rwa [lib.graphemes_flatten] at hsplit
  · split
    · rename_i hempty
      have hadded := hbefore.append hword.ink hword.blanks (by omega)
      rwa [hempty, List.nil_append] at hadded
    · refine hbefore.append ?_ (fun c hc hwhite => ?_) ?_
      · show ink ([' '] ++ next) = next
        rw [ink_append, hword.ink]
        rfl
      · rcases List.mem_cons.mp hc with rfl | hrest
        · rfl
        · exact hword.blanks c hrest hwhite
      · have hpos := List.length_pos_iff.mpr hne
        rw [List.length_cons]
        omega

lemma Holds.words {list : List (List Char)} (hwords : ∀ cs ∈ list, IsWord cs ∧ cs ≠ [])
    (hholds : w.Holds marks) :
    (list.foldl (Wrapping.word lib width) w).Holds (marks ++ list.flatten) := by
  induction list generalizing w marks with
  | nil => simpa using hholds
  | cons next list ih =>
      have hnext := hwords _ List.mem_cons_self
      have hhead : (w.word lib width next).Holds (marks ++ next) := hholds.word hnext.1 hnext.2
      have htail := ih (fun cs hcs => hwords cs (List.mem_cons_of_mem _ hcs)) hhead
      simpa [List.append_assoc] using htail

end Wrapping

variable {lib} {width : ℕ}

lemma isWord_of_mem_splitWhitespace {cs word : List Char} (hmem : word ∈ splitWhitespace cs) :
    Wrapping.IsWord word ∧ word ≠ [] := by
  refine ⟨fun c hc => ?_, by simpa using (List.mem_filter.mp hmem).2⟩
  have hall : c ∈ (splitWhitespace cs).flatten := List.mem_flatten_of_mem hmem hc
  rw [flatten_splitWhitespace] at hall
  exact (mem_ink.mp hall).2

/-- **The lines of a wrapped text hold its marks**, and blanks between them. -/
structure Keeps (lines : List (List Char)) (source : List Char) : Prop where
  marks : ink lines.flatten = ink source
  blanks : ∀ c ∈ lines.flatten, isWhitespace c = true → c = ' '
  length : lines.flatten.length ≤ 2 * (ink source).length

lemma wrapLine_keeps (lib : Libraries) (width : ℕ) (line : List Char) : Keeps (wrapLine lib width line) line := by
  simp only [wrapLine]
  split
  · rename_i hempty
    exact ⟨by simp [hempty], by simp, by simp⟩
  · have hstart : (⟨[], []⟩ : Wrapping).Holds [] :=
      ⟨rfl, by simp [Wrapping.content], by simp [Wrapping.content]⟩
    have hwords : ∀ word ∈ splitWhitespace line, Wrapping.IsWord word ∧ word ≠ [] :=
      fun _ => isWord_of_mem_splitWhitespace
    have hend : ((splitWhitespace line).foldl (Wrapping.word lib width) ⟨[], []⟩).flush.Holds
        ([] ++ (splitWhitespace line).flatten) :=
      (Wrapping.Holds.words hwords hstart).flush
    rw [List.nil_append, flatten_splitWhitespace] at hend
    set last := ((splitWhitespace line).foldl (Wrapping.word lib width) ⟨[], []⟩).flush with hlast
    have hcontent : last.content = last.lines.flatten := by
      have hempty : last.current = [] := by
        rw [hlast, Wrapping.flush]
        split
        · assumption
        · rfl
      rw [Wrapping.content, hempty, List.append_nil]
    exact ⟨hcontent ▸ hend.marks, hcontent ▸ hend.blanks, hcontent ▸ hend.length⟩

lemma flatMap_keeps (lib : Libraries) (width : ℕ) (source : List (List Char)) :
    Keeps (source.flatMap (wrapLine lib width)) source.flatten := by
  induction source with
  | nil => exact ⟨rfl, by simp, by simp⟩
  | cons line source ih =>
      have hline := wrapLine_keeps lib width line
      rw [List.flatMap_cons, List.flatten_cons]
      refine ⟨?_, fun c hc => ?_, ?_⟩
      · rw [List.flatten_append, ink_append, hline.marks, ih.marks, ink_append]
      · rw [List.flatten_append] at hc
        rcases List.mem_append.mp hc with hfirst | hrest
        · exact hline.blanks c hfirst
        · exact ih.blanks c hrest
      · have hfirst := hline.length
        have hrest := ih.length
        rw [List.flatten_append, ink_append, List.length_append, List.length_append]
        omega

lemma wrapText_keeps (lib : Libraries) (width : ℕ) (value : List Char) :
    Keeps (wrapText lib value width) value := by
  have hink : ink (value.splitOn '\n').flatten = ink value := by
    rw [List.splitOn_eq_splitOnP, flatten_splitOnP]
    simp only [ink, List.filter_filter]
    refine List.filter_congr fun c _ => ?_
    by_cases hline : c = '\n'
    · simp [hline, isWhitespace]
    · simp [hline]
  have hlines := flatMap_keeps lib width (value.splitOn '\n')
  exact ⟨hlines.marks.trans hink, hlines.blanks, hink ▸ hlines.length⟩

/-- A character on the lines of a text is a blank between words, or one of its marks. -/
lemma mem_wrapText {value : List Char} {c : Char} (hmem : c ∈ (wrapText lib value width).flatten) :
    c = ' ' ∨ c ∈ ink value := by
  cases hwhite : isWhitespace c with
  | true => exact Or.inl ((wrapText_keeps lib width value).blanks c hmem hwhite)
  | false =>
      rw [← (wrapText_keeps lib width value).marks]
      exact Or.inr (mem_ink.mpr ⟨hmem, hwhite⟩)

lemma mem_wrapText_of_ink (lib : Libraries) (width : ℕ) {value : List Char} {c : Char} (hmem : c ∈ ink value) :
    c ∈ (wrapText lib value width).flatten := by
  rw [← (wrapText_keeps lib width value).marks] at hmem
  exact (mem_ink.mp hmem).1

lemma mem_getD {lines : List (List Char)} {index : ℕ} {c : Char}
    (hmem : c ∈ lines.getD index []) : c ∈ lines.flatten := by
  rw [List.getD_eq_getElem?_getD] at hmem
  cases hline : lines[index]? with
  | none => simp [hline] at hmem
  | some line =>
      rw [hline] at hmem
      exact List.mem_flatten_of_mem (List.mem_of_getElem? hline) hmem

/-- A character on the lines of a wrapped row is a blank, or a mark of one of its columns. -/
lemma mem_layoutRow {left right : List Char} (hfits : rowFits lib left right width = false)
    {c : Char} (hmem : c ∈ (layoutRow lib left right width).flatten) :
    c = ' ' ∨ c ∈ ink left ∨ c ∈ ink right := by
  simp only [layoutRow, hfits, Bool.false_eq_true, if_false, List.mem_flatten,
    List.mem_map] at hmem
  rcases hmem with ⟨_, ⟨index, -, rfl⟩, hc⟩
  rcases List.mem_append.mp hc with hfirst | hright
  · rcases List.mem_append.mp hfirst with hleft | hblank
    · exact (mem_wrapText (mem_getD hleft)).imp_right Or.inl
    · exact Or.inl (List.eq_of_mem_replicate hblank)
  · exact (mem_wrapText (mem_getD hright)).imp_right Or.inr

lemma mem_layoutRow_of_ink {left right : List Char} (hfits : rowFits lib left right width = false)
    {c : Char} (hmem : c ∈ ink left ∨ c ∈ ink right) :
    c ∈ (layoutRow lib left right width).flatten := by
  simp only [layoutRow, hfits, Bool.false_eq_true, if_false, List.mem_flatten, List.mem_map,
    List.mem_range]
  rcases hmem with hleft | hright
  · rcases List.mem_flatten.mp (mem_wrapText_of_ink lib (max (width * 3 / 5) 1) hleft) with
      ⟨line, hline, hc⟩
    rcases List.getElem_of_mem hline with ⟨index, hlt, rfl⟩
    refine ⟨_, ⟨index, lt_max_of_lt_left hlt, rfl⟩, ?_⟩
    simp [List.getD_eq_getElem?_getD, List.getElem?_eq_getElem hlt, hc]
  · rcases List.mem_flatten.mp (mem_wrapText_of_ink lib
      (max (width - (width * 3 / 5 + 1)) 1) hright) with ⟨line, hline, hc⟩
    rcases List.getElem_of_mem hline with ⟨index, hlt, rfl⟩
    refine ⟨_, ⟨index, lt_max_of_lt_right hlt, rfl⟩, ?_⟩
    simp [List.getD_eq_getElem?_getD, List.getElem?_eq_getElem hlt, hc]

lemma length_line_le {lines : List (List Char)} {line : List Char} (hmem : line ∈ lines) :
    line.length ≤ lines.flatten.length := (List.sublist_flatten_of_mem hmem).length_le

lemma length_getD_le (lines : List (List Char)) (index : ℕ) :
    (lines.getD index []).length ≤ lines.flatten.length := by
  rw [List.getD_eq_getElem?_getD]
  cases hline : lines[index]? with
  | none => simp
  | some line => exact length_line_le (List.mem_of_getElem? hline)

lemma length_ink_le (cs : List Char) : (ink cs).length ≤ cs.length := List.length_filter_le ..

/-- A line of a wrapped text is not longer than twice the text. -/
lemma length_of_mem_wrapText {value line : List Char} (hmem : line ∈ wrapText lib value width) :
    line.length ≤ 2 * value.length := by
  have hkeeps := (wrapText_keeps lib width value).length
  have hink := length_ink_le value
  have hline := length_line_le hmem
  omega

lemma length_of_mem_layoutRow {left right line : List Char}
    (hmem : line ∈ layoutRow lib left right width) :
    line.length ≤ 2 * left.length + 2 * right.length + width + 1 := by
  simp only [layoutRow] at hmem
  split at hmem
  · rw [List.mem_singleton.mp hmem]
    simp only [List.length_append, List.length_replicate]
    omega
  · rcases List.mem_map.mp hmem with ⟨index, -, rfl⟩
    have hleft := (wrapText_keeps lib (max (width * 3 / 5) 1) left).length
    have hright := (wrapText_keeps lib (max (width - (width * 3 / 5 + 1)) 1) right).length
    have hinkLeft := length_ink_le left
    have hinkRight := length_ink_le right
    have hfirst := length_getD_le (wrapText lib left (max (width * 3 / 5) 1)) index
    have hsecond := length_getD_le (wrapText lib right (max (width - (width * 3 / 5 + 1)) 1)) index
    simp only [List.length_append, List.length_replicate]
    omega

/-! ## What a layout contains -/

/-- The dots of an image fill whole bytes, and its size is bounded. -/
structure ReceiptImage.Packed (raster : ReceiptImage) : Prop where
  stride : raster.stride = (raster.width + 7) / 8
  length : raster.data.length = raster.stride * raster.height
  dpi : raster.dpi = 203
  width_pos : 0 < raster.width
  width_le : raster.width ≤ maxImageDimension
  height_pos : 0 < raster.height
  height_le : raster.height ≤ maxImageDimension

@[simp] lemma length_setPackedBit {data : List UInt8} {stride x y : ℕ} :
    (setPackedBit data stride x y).length = data.length := List.length_modify ..

/-- A loop that keeps a length. -/
lemma length_foldl {β : Type} {step : List UInt8 → β → List UInt8} {items : List β}
    (hstep : ∀ data item, (step data item).length = data.length) (data : List UInt8) :
    (items.foldl step data).length = data.length := by
  induction items generalizing data with
  | nil => rfl
  | cons item items ih => rw [List.foldl_cons, ih, hstep]

lemma length_packRow {luma : ℕ → ℕ → UInt8} {stride width : ℕ} (data : List UInt8) (y : ℕ) :
    (ReceiptImage.packRow luma stride width data y).length = data.length := by
  refine length_foldl (fun data x => ?_) data
  split
  · exact length_setPackedBit
  · rfl

lemma packed_fromGray {width height : ℕ} {luma : ℕ → ℕ → UInt8}
    (hwidth : 0 < width ∧ width ≤ maxImageDimension)
    (hheight : 0 < height ∧ height ≤ maxImageDimension) :
    (ReceiptImage.fromGray width height luma).Packed where
  stride := rfl
  length := (length_foldl length_packRow _).trans List.length_replicate
  dpi := rfl
  width_pos := hwidth.1
  width_le := hwidth.2
  height_pos := hheight.1
  height_le := hheight.2

lemma receiptPixelWidth_le (paper : ReceiptWidth) :
    0 < receiptPixelWidth paper 203 ∧ receiptPixelWidth paper 203 ≤ 639 := by
  cases paper <;> decide

/-- An image is not empty after it was made to fit on the paper. -/
lemma packed_layoutImage {paper : ReceiptWidth} {decoded : lib.Image}
    (hwidth : 0 < lib.imageWidth decoded ∧ lib.imageWidth decoded ≤ maxImageDimension)
    (hheight : 0 < lib.imageHeight decoded ∧ lib.imageHeight decoded ≤ maxImageDimension) :
    (layoutImage lib paper decoded).Packed := by
  have hpaper := receiptPixelWidth_le paper
  refine packed_fromGray ?_ ?_
  · split
    · rw [lib.resize_width]
      exact ⟨hpaper.1, hpaper.2.trans (by decide)⟩
    · exact hwidth
  · split
    · rename_i hwide
      rw [lib.resize_height]
      have hscaled : min (lib.imageHeight decoded * receiptPixelWidth paper 203) (2 ^ 32 - 1) /
          lib.imageWidth decoded ≤ lib.imageHeight decoded := by
        refine Nat.div_le_of_le_mul ((min_le_left _ _).trans ?_)
        rw [mul_comm]
        exact Nat.mul_le_mul_right _ hwide.le
      omega
    · exact hheight

/-- What the checks of the protocol say of an operation. -/
def ReceiptElement.Bounded : ReceiptElement → Prop
  | .text value _ _ => utf16Length value ≤ 16384
  | .row left right => utf16Length left ≤ 4096 ∧ utf16Length right ≤ 4096
  | .image raster => raster.Packed
  | .qr value => utf16Length value ≤ 4096
  | .barcode _ _ heightDots humanReadable => heightDots = 80 ∧ humanReadable = true
  | .feed lines => lines ≠ 0
  | _ => True

lemma bounded_fromSection {paper : ReceiptWidth} {item : PrintSection} {element : ReceiptElement}
    (hvalid : item.validate = .ok ())
    (helement : ReceiptElement.fromSection lib paper item = .ok element) : element.Bounded := by
  cases item with
  | image mediaType data =>
      simp only [ReceiptElement.fromSection, bind_eq_ok, pure_eq_ok] at helement
      rcases helement with ⟨decoded, hdecode, rfl⟩
      simp only [decodeImage, bind_eq_ok, mapError_eq_ok] at hdecode
      rcases hdecode with ⟨bytes, -, hdecode⟩
      split at hdecode
      · cases hdecode
      · rw [mapError_eq_ok] at hdecode
        exact packed_layoutImage (lib.decode_width _ _ _ hdecode) (lib.decode_height _ _ _ hdecode)
  | text value align bold =>
      cases helement
      exact (string_of_valid hvalid).2
  | row left right =>
      cases helement
      rw [PrintSection.validate, andThen_eq_ok] at hvalid
      exact ⟨(string_of_valid hvalid.1).2, (string_of_valid hvalid.2).2⟩
  | qr value =>
      cases helement
      exact (string_of_valid hvalid).2
  | feed lines =>
      cases helement
      intro hzero
      simp [PrintSection.validate, hzero] at hvalid
  | barcode format value =>
      cases helement
      exact ⟨rfl, rfl⟩
  | divider | cut =>
      cases helement
      trivial

end Oppa.Renderer
