import Oppa.Renderer.EscPos

/-!
# What a receipt tells the printer

The strings of a receipt are checked to be ASCII and are then copied into the stream of commands.
ASCII contains control characters: wrapping drops those that are white space, and keeps the others.

* `OnlyPrescribed` — a stream prints nothing but printable characters and line feeds, and a device
  finds in it the commands that the sections prescribe.
* `IsPlain` — the strings of a section contain no control character that reaches the printer.
* **`onlyPrescribed_iff`** — a stream tells the printer nothing else exactly when its sections are
  plain.
-/

namespace Oppa.Renderer

open Protocol Bytes Result Text

/-- Printable ASCII. -/
def isPrintableByte (b : UInt8) : Bool := 0x20 ≤ b && b ≤ 0x7e

/-- **A stream tells the printer only what the sections prescribe.**  It is made up of the commands
of the sections and the bytes they print; these are printable or end a line, and so a device finds
in the stream just these commands. -/
def OnlyPrescribed (lib : Libraries) (document : PrintDocument) (bytes : List UInt8) : Prop :=
  ∃ layout, PrintLayout.fromDocument lib document = .ok layout ∧
    bytes = [esc, 0x40] ++ layout.elements.flatMap (fun element =>
      element.commandsBefore.flatten ++ element.printedBytes lib (columns layout.width) ++
        element.commandsAfter.flatten) ∧
    (∀ element ∈ layout.elements, ∀ b ∈ element.printedBytes lib (columns layout.width),
      isPrintableByte b = true ∨ b = lineFeed) ∧
    commands commandSize bytes = layout.commands

/-- **No control character of a section reaches the printer**: those of a text and of a row that is
wrapped are white space, and those of a row that fits on one line are line feeds. -/
def IsPlain (lib : Libraries) (columns : ℕ) : PrintSection → Prop
  | .text value _ _ => ∀ c ∈ value.toList, isControl c = true → isWhitespace c = true
  | .row left right =>
      ∀ c ∈ left.toList ++ right.toList, isControl c = true →
        if rowFits lib left.toList right.toList columns then c = '\n' else isWhitespace c = true
  | _ => True

variable {lib : Libraries} {width : ℕ}

/-! ## Printed lines -/

/-- An ASCII character is printed as it is, unless it is a control character. -/
lemma printable_asciiByte {c : Char} (hascii : isAscii c = true) :
    (isPrintableByte (asciiByte c) = true ∨ asciiByte c = lineFeed) ↔
      (isControl c = true → c = '\n') := by
  have hbyte := toNat_asciiByte hascii
  have hlt : c.toNat < 128 := by simpa [isAscii] using hascii
  have hline : asciiByte c = lineFeed ↔ c.toNat = 10 := by
    rw [← UInt8.toNat_inj, hbyte]
    rfl
  have hfeed : c = '\n' ↔ c.toNat = 10 := by
    rw [← Char.toNat_inj]
    rfl
  rw [hline, hfeed]
  simp only [isPrintableByte, isControl, Bool.and_eq_true, Bool.or_eq_true, decide_eq_true_eq,
    UInt8.le_iff_toNat_le, hbyte]
  show 32 ≤ c.toNat ∧ c.toNat ≤ 126 ∨ c.toNat = 10 ↔ _
  omega

lemma printable_lineBytes {lines : List (List Char)}
    (hascii : ∀ c ∈ lines.flatten, isAscii c = true) :
    (∀ b ∈ lineBytes lines, isPrintableByte b = true ∨ b = lineFeed) ↔
      ∀ c ∈ lines.flatten, isControl c = true → c = '\n' := by
  constructor
  · intro hall c hc
    rcases List.mem_flatten.mp hc with ⟨line, hline, hmem⟩
    refine (printable_asciiByte (hascii c hc)).mp (hall (asciiByte c) ?_)
    refine List.mem_flatMap.mpr ⟨line, hline, List.mem_append_left _ ?_⟩
    rw [encode_of_isAscii fun d hd => hascii d (List.mem_flatten_of_mem hline hd)]
    exact List.mem_map_of_mem hmem
  · intro hall b hb
    rcases List.mem_flatMap.mp hb with ⟨line, hline, hmem⟩
    rcases List.mem_append.mp hmem with htext | hend
    · have hmembers : ∀ d ∈ line, d ∈ lines.flatten := fun d => List.mem_flatten_of_mem hline
      rw [encode_of_isAscii fun d hd => hascii d (hmembers d hd)] at htext
      rcases List.mem_map.mp htext with ⟨c, hc, rfl⟩
      exact (printable_asciiByte (hascii c (hmembers c hc))).mpr (hall c (hmembers c hc))
    · exact Or.inr (List.mem_singleton.mp hend)

lemma all_isAscii {value : String} (hascii : requireAscii value = .ok ()) :
    ∀ c ∈ value.toList, isAscii c = true := by
  simp only [requireAscii] at hascii
  split at hascii
  · rename_i hall
    exact List.all_eq_true.mp hall
  · cases hascii

/-- A text prints no control character but line feeds, unless one of its marks is one. -/
lemma printed_text {value : String} (hascii : requireAscii value = .ok ()) :
    (∀ b ∈ lineBytes (wrapText lib value.toList width),
        isPrintableByte b = true ∨ b = lineFeed) ↔
      ∀ c ∈ value.toList, isControl c = true → isWhitespace c = true := by
  rw [printable_lineBytes]
  · constructor
    · intro hall c hc hcontrol
      by_contra hwhite
      have hink : c ∈ ink value.toList := mem_ink.mpr ⟨hc, by simpa using hwhite⟩
      rw [hall c (mem_wrapText_of_ink lib width hink) hcontrol] at hwhite
      exact hwhite rfl
    · intro hall c hc hcontrol
      rcases mem_wrapText hc with rfl | hink
      · cases hcontrol
      · rcases mem_ink.mp hink with ⟨hmem, hmark⟩
        rw [hall c hmem hcontrol] at hmark
        cases hmark
  · intro c hc
    rcases mem_wrapText hc with rfl | hink
    · rfl
    · exact all_isAscii hascii c (mem_ink.mp hink).1

lemma printed_row {left right : String} (hleft : requireAscii left = .ok ())
    (hright : requireAscii right = .ok ()) :
    (∀ b ∈ lineBytes (layoutRow lib left.toList right.toList width),
        isPrintableByte b = true ∨ b = lineFeed) ↔ IsPlain lib width (.row left right) := by
  have hascii : ∀ c ∈ left.toList ++ right.toList, isAscii c = true := by
    intro c hc
    rcases List.mem_append.mp hc with hc | hc
    · exact all_isAscii hleft c hc
    · exact all_isAscii hright c hc
  simp only [IsPlain]
  cases hfits : rowFits lib left.toList right.toList width with
  | true =>
      simp only [layoutRow, hfits, if_true]
      rw [printable_lineBytes]
      · simp only [List.flatten_cons, List.flatten_nil, List.append_nil, List.mem_append]
        constructor
        · rintro hall c (hc | hc)
          · exact hall c (Or.inl (Or.inl hc))
          · exact hall c (Or.inr hc)
        · rintro hall c ((hc | hblank) | hc) hcontrol
          · exact hall c (Or.inl hc) hcontrol
          · rw [List.eq_of_mem_replicate hblank] at hcontrol
            cases hcontrol
          · exact hall c (Or.inr hc) hcontrol
      · simp only [List.flatten_cons, List.flatten_nil, List.append_nil, List.mem_append]
        rintro c ((hc | hblank) | hc)
        · exact hascii c (List.mem_append_left _ hc)
        · rw [List.eq_of_mem_replicate hblank]
          rfl
        · exact hascii c (List.mem_append_right _ hc)
  | false =>
      simp only [Bool.false_eq_true, if_false]
      rw [printable_lineBytes]
      · constructor
        · intro hall c hc hcontrol
          by_contra hwhite
          have hmark : isWhitespace c = false := by simpa using hwhite
          have hink : c ∈ ink left.toList ∨ c ∈ ink right.toList := by
            rcases List.mem_append.mp hc with hc | hc
            · exact Or.inl (mem_ink.mpr ⟨hc, hmark⟩)
            · exact Or.inr (mem_ink.mpr ⟨hc, hmark⟩)
          rw [hall c (mem_layoutRow_of_ink hfits hink) hcontrol] at hwhite
          exact hwhite rfl
        · intro hall c hc hcontrol
          rcases mem_layoutRow hfits hc with rfl | hink | hink
          · cases hcontrol
          · rcases mem_ink.mp hink with ⟨hmem, hmark⟩
            rw [hall c (List.mem_append_left _ hmem) hcontrol] at hmark
            cases hmark
          · rcases mem_ink.mp hink with ⟨hmem, hmark⟩
            rw [hall c (List.mem_append_right _ hmem) hcontrol] at hmark
            cases hmark
      · intro c hc
        rcases mem_layoutRow hfits hc with rfl | hink | hink
        · rfl
        · exact hascii c (List.mem_append_left _ (mem_ink.mp hink).1)
        · exact hascii c (List.mem_append_right _ (mem_ink.mp hink).1)

/-- **A section prints nothing but printable characters and line feeds** when it is plain. -/
lemma printed_section {paper : ReceiptWidth} {item : PrintSection} {element : ReceiptElement}
    {bytes : List UInt8}
    (helement : ReceiptElement.fromSection lib paper item = .ok element)
    (hrender : renderElement lib width element = .ok bytes) :
    (∀ b ∈ element.printedBytes lib width, isPrintableByte b = true ∨ b = lineFeed) ↔
      IsPlain lib width item := by
  cases item with
  | text value align bold =>
      cases helement
      simp only [renderElement, bind_eq_ok] at hrender
      rcases hrender with ⟨_, hascii, -⟩
      exact printed_text hascii
  | row left right =>
      cases helement
      simp only [renderElement, bind_eq_ok] at hrender
      rcases hrender with ⟨_, hleft, _, hright, -⟩
      exact printed_row hleft hright
  | divider =>
      cases helement
      refine iff_of_true (fun b hb => ?_) trivial
      rcases List.mem_append.mp hb with hdash | hend
      · rw [List.eq_of_mem_replicate hdash]
        exact Or.inl rfl
      · exact Or.inr (List.mem_singleton.mp hend)
  | image mediaType data =>
      simp only [ReceiptElement.fromSection, bind_eq_ok, pure_eq_ok] at helement
      rcases helement with ⟨_, -, rfl⟩
      exact iff_of_true (fun b hb => by cases hb) trivial
  | _ =>
      cases helement
      exact iff_of_true (fun b hb => by cases hb) trivial

/-! ## Streams -/

variable {elements : List ReceiptElement} {parts : List (List UInt8)}

/-- The operations of a receipt, one after the other. -/
lemma parts_emit
    (hparts : List.Forall₂ (fun element bytes => renderElement lib width element = .ok bytes)
      elements parts) :
    parts.flatten = elements.flatMap fun element =>
      element.commandsBefore.flatten ++ element.printedBytes lib width ++
        element.commandsAfter.flatten := by
  induction hparts with
  | nil => rfl
  | cons hhead _ ih => rw [List.flatten_cons, List.flatMap_cons, renderElement_emits hhead, ih]

/-- **A device finds the commands of the sections**, if what they print is text. -/
lemma commands_parts
    (hparts : List.Forall₂ (fun element bytes => renderElement lib width element = .ok bytes)
      elements parts)
    (hbounded : ∀ element ∈ elements, element.Bounded)
    (htext : ∀ element ∈ elements, ∀ b ∈ element.printedBytes lib width,
      isPrintableByte b = true ∨ b = lineFeed) (after : List UInt8) :
    commands commandSize (parts.flatten ++ after) =
      (elements.flatMap fun element => element.commandsBefore ++ element.commandsAfter) ++
        commands commandSize after := by
  induction hparts with
  | nil => rfl
  | @cons element bytes elements parts hhead _ ih =>
      have hcommands := isCommand_of_mem_commands (hbounded _ List.mem_cons_self) hhead
      have hprinted : ∀ b ∈ element.printedBytes lib width, ∀ rest,
          commandSize (b :: rest) = none := by
        intro b hb
        rcases htext _ List.mem_cons_self b hb with hprintable | rfl
        · refine commandSize_text ?_ ?_
          · rintro rfl
            cases hprintable
          · rintro rfl
            cases hprintable
        · exact commandSize_text (by decide) (by decide)
      have hrest := ih (fun other hother => hbounded other (List.mem_cons_of_mem _ hother))
        fun other hother => htext other (List.mem_cons_of_mem _ hother)
      simp only [List.flatten_cons, renderElement_emits hhead, List.append_assoc]
      rw [commands_flatten fun command hmem => hcommands command (List.mem_append_left _ hmem),
        commands_text hprinted,
        commands_flatten fun command hmem => hcommands command (List.mem_append_right _ hmem),
        hrest]
      simp [List.append_assoc]

/-- **What a receipt tells the printer.**  A stream that was rendered for a valid document prints
nothing but printable characters and line feeds, and contains no other command than those the
sections prescribe, exactly when no control character of a section reaches the printer. -/
theorem onlyPrescribed_iff {maxOutputBytes : ℕ} {document : PrintDocument} {bytes : List UInt8}
    (hrender : renderEscPos lib maxOutputBytes document = .ok bytes) :
    OnlyPrescribed lib document bytes ↔
      ∀ item ∈ document.sections, IsPlain lib (columns document.width) item := by
  rcases renderEscPos_eq_ok hrender with ⟨hvalid, layout, hlayout, hbytes⟩
  rcases fromDocument_eq_ok.mp hlayout with ⟨-, hwidth, helements⟩
  simp only [renderLayout, bind_eq_ok, pure_eq_ok, mapM_eq_ok] at hbytes
  rcases hbytes with ⟨parts, hparts, rfl⟩
  have hrendered : ∀ element ∈ layout.elements, ∃ output,
      renderElement lib (columns layout.width) element = .ok output := by
    intro element hmem
    rcases exists_of_forall₂' hparts hmem with ⟨output, -, houtput⟩
    exact ⟨output, houtput⟩
  constructor
  · rintro ⟨other, hother, -, hprinted, -⟩ item hmem
    obtain rfl : layout = other := Except.ok.inj (hlayout.symm.trans hother)
    rcases exists_of_forall₂' helements hmem with ⟨element, helement, hsection⟩
    rcases hrendered element helement with ⟨output, houtput⟩
    rw [← hwidth]
    exact (printed_section hsection houtput).mp (hprinted element helement)
  · intro hplain
    have hprinted : ∀ element ∈ layout.elements,
        ∀ b ∈ element.printedBytes lib (columns layout.width),
          isPrintableByte b = true ∨ b = lineFeed := by
      intro element helement
      rcases exists_of_forall₂ helements helement with ⟨item, hmem, hsection⟩
      rcases hrendered element helement with ⟨output, houtput⟩
      exact (printed_section hsection houtput).mpr (hwidth ▸ hplain item hmem)
    have hbounded := bounded_of_fromDocument hlayout
    refine ⟨layout, hlayout, by rw [parts_emit hparts], hprinted, ?_⟩
    rw [commands_command isCommand_reset, ← List.append_nil parts.flatten,
      commands_parts hparts hbounded hprinted, commands_nil, List.append_nil]
    rfl

namespace Sample

/-- A text that opens the cash drawer: `ESC p`. -/
def drawer : PrintDocument := receipt "\x1bp0"

end Sample

/-- A plain text prints nothing else. -/
theorem onlyPrescribed_plain :
    renderEscPos Sample.libraries 1024 (Sample.receipt "Total 9.00") = .ok Sample.receiptBytes ∧
      (OnlyPrescribed Sample.libraries (Sample.receipt "Total 9.00") Sample.receiptBytes ↔
        ∀ item ∈ (Sample.receipt "Total 9.00").sections,
          IsPlain Sample.libraries (columns .mm58) item) := by
  have hrender : renderEscPos Sample.libraries 1024 (Sample.receipt "Total 9.00") =
      .ok Sample.receiptBytes := by
    decide +kernel
  exact ⟨hrender, onlyPrescribed_iff hrender⟩

/-- **A text may contain a command of its own**, which is sent to the printer as it is. -/
theorem drawer_opened :
    ¬ ∀ (lib : Libraries) (maxOutputBytes : ℕ) (document : PrintDocument) (bytes : List UInt8),
      renderEscPos lib maxOutputBytes document = .ok bytes →
        OnlyPrescribed lib document bytes := by
  intro hall
  have hrender : renderEscPos Sample.libraries 1024 Sample.drawer =
      .ok [esc, 0x40, esc, 0x61, 0, esc, 0x45, 0, esc, 0x70, 0x30, lineFeed, esc, 0x45, 0, gs, 0x56,
        0] := by
    decide +kernel
  have hlayout : PrintLayout.fromDocument Sample.libraries Sample.drawer =
      .ok ⟨.mm58, [.text "\x1bp0" .left false, .cut]⟩ := by
    decide +kernel
  rcases hall _ _ _ _ hrender with ⟨layout, hsame, -, hprinted, -⟩
  cases hlayout.symm.trans hsame
  rcases hprinted _ List.mem_cons_self esc (by decide +kernel) with hprintable | hline
  · cases hprintable
  · cases hline

end Oppa.Renderer
