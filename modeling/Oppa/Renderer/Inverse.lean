import Oppa.Renderer.Interpreter

/-!
# Reading back what was encoded

The interpreter is there for the stream the encoder emits.  It finds in it the images, the codes and
the cuts of the layout, in order, and feeds the paper where the layout says so or a line of text is
empty.

* `Inverts` — what is found in a stream is what the layout holds.
* `Progress` — what some turns of the parser have found, with one lemma for each operation:
  `progress_line`, `progress_image`, `progress_qr`, …
* **`inverts_iff`** — a stream is read back exactly when its QR codes fit the limit of the
  interpreter, which counts bytes where the protocol counts UTF-16 code units.
-/

namespace Oppa.Renderer

open Protocol Bytes Result Text

/-! ## What is compared -/

/-- The operations that are not lines of text or feeds. -/
def ReceiptElement.isDevice : ReceiptElement → Bool
  | .image _ | .qr _ | .barcode _ _ _ _ | .cut => true
  | _ => false

/-- An image whose width is rounded up to a whole byte. -/
def ReceiptElement.rounded : ReceiptElement → ReceiptElement
  | .image raster => .image { raster with width := (raster.width + 7) / 8 * 8 }
  | element => element

/-- The images, the codes and the cuts of a layout. -/
def deviceOperations (elements : List ReceiptElement) : List ReceiptElement :=
  elements.filter ReceiptElement.isDevice

/-- The lines an operation feeds. -/
def ReceiptElement.feeds : ReceiptElement → ℕ
  | .feed lines => lines.toNat
  | _ => 0

/-- The lines a layout feeds. -/
def feedLines (elements : List ReceiptElement) : ℕ := (elements.map ReceiptElement.feeds).sum

/-- The printed lines, cut where a text contains a line feed of its own. -/
def sourceLines (lines : List (List Char)) : List (List Char) := lines.flatMap (·.splitOn '\n')

/-- The empty lines of text an operation prints. -/
def ReceiptElement.emptyLines (lib : Libraries) (columns : ℕ) (element : ReceiptElement) : ℕ :=
  (sourceLines (element.printedLines lib columns)).count []

/-- **A stream is read back**: no command of it is unsupported, the images, the codes and the cuts
are those of the layout, and the lines that are fed are those it feeds and its empty lines. -/
def Inverts (lib : Libraries) (layout : PrintLayout) (bytes : List UInt8) : Prop :=
  ∃ result, interpret bytes layout.width = .ok result ∧
    result.diagnostics.unsupportedCommands = [] ∧
    deviceOperations result.layout.elements =
      (deviceOperations layout.elements).map ReceiptElement.rounded ∧
    feedLines result.layout.elements = feedLines layout.elements +
      (layout.elements.map (ReceiptElement.emptyLines lib (columns layout.width))).sum ∧
    result.diagnostics.feedLines = feedLines result.layout.elements

/-- Printable ASCII and line feeds. -/
def isPrintableText (c : Char) : Bool := (0x20 ≤ c.toNat && c.toNat ≤ 0x7e) || c = '\n'

/-- The texts and rows of a section contain only printable ASCII and line feeds. -/
def IsPrintable : PrintSection → Prop
  | .text value _ _ => ∀ c ∈ value.toList, isPrintableText c = true
  | .row left right => ∀ c ∈ left.toList ++ right.toList, isPrintableText c = true
  | _ => True

/-! ## Progress of the parser -/

namespace Parser

/-- A parser between two operations. -/
structure Ready (p : Parser) : Prop where
  text : p.text = []
  going : p.stopped = false
  supported : p.diagnostics.unsupportedCommands = []
  counted : p.diagnostics.feedLines = feedLines p.elements

end Parser

/-- **What some turns have found**: the operations of a device, and how many lines are fed. -/
structure Progress (p q : Parser) (after : List UInt8) (devices : List ReceiptElement)
    (feeds : ℕ) : Prop where
  advances : Parser.Advances p q
  rest : q.rest = after
  ready : q.Ready
  width : q.width = p.width
  devices : deviceOperations q.elements = deviceOperations p.elements ++ devices
  feeds : feedLines q.elements = feedLines p.elements + feeds

variable {lib : Libraries} {p q r : Parser} {after : List UInt8}
  {devices others : List ReceiptElement} {feeds more : ℕ}

lemma Progress.trans {mid : List UInt8} (hfirst : Progress p q mid devices feeds)
    (hsecond : Progress q r after others more) :
    Progress p r after (devices ++ others) (feeds + more) where
  advances := hfirst.advances.trans hsecond.advances
  rest := hsecond.rest
  ready := hsecond.ready
  width := hsecond.width.trans hfirst.width
  devices := by rw [hsecond.devices, hfirst.devices, List.append_assoc]
  feeds := by rw [hsecond.feeds, hfirst.feeds, add_assoc]

@[simp] lemma deviceOperations_append {elements : List ReceiptElement} :
    deviceOperations (elements ++ others) =
      deviceOperations elements ++ deviceOperations others := List.filter_append ..

@[simp] lemma feedLines_append {elements : List ReceiptElement} :
    feedLines (elements ++ others) = feedLines elements + feedLines others := by
  simp [feedLines]

/-- One turn that adds some operations to the layout. -/
lemma progress_turn (added : List ReceiptElement) (hready : p.Ready) (hne : p.rest ≠ [])
    (hstep : p.step = .ok q) (helements : q.elements = p.elements ++ added)
    (hrest : q.rest = after) (htext : q.text = p.text) (hgoing : q.stopped = p.stopped)
    (hwidth : q.width = p.width)
    (hsupported : q.diagnostics.unsupportedCommands = p.diagnostics.unsupportedCommands)
    (hcounted : q.diagnostics.feedLines = p.diagnostics.feedLines + feedLines added) :
    Progress p q after (deviceOperations added) (feedLines added) where
  advances := .single ⟨hne, hready.going, hstep⟩
  rest := hrest
  ready := ⟨htext.trans hready.text, hgoing.trans hready.going,
    hsupported.trans hready.supported, by
      rw [hcounted, hready.counted, helements, feedLines_append]⟩
  width := hwidth
  devices := by rw [helements, deviceOperations_append]
  feeds := by rw [helements, feedLines_append]

/-- One turn that changes a setting. -/
lemma progress_setting (hready : p.Ready) (hne : p.rest ≠ []) (hstep : p.step = .ok q)
    (helements : q.elements = p.elements) (hrest : q.rest = after) (htext : q.text = p.text)
    (hgoing : q.stopped = p.stopped) (hwidth : q.width = p.width)
    (hsupported : q.diagnostics.unsupportedCommands = p.diagnostics.unsupportedCommands)
    (hcounted : q.diagnostics.feedLines = p.diagnostics.feedLines) :
    Progress p q after [] 0 :=
  progress_turn [] hready hne hstep (helements.trans (List.append_nil _).symm) hrest
    htext hgoing hwidth hsupported hcounted

/-! ## Commands -/

/-- The parser after the two bytes that begin a command. -/
def Parser.begun (p : Parser) : Parser :=
  { p with
    rest := p.rest.drop 2
    offset := p.offset + 2
    diagnostics :=
      { p.diagnostics with interpretedCommands := p.diagnostics.interpretedCommands + 1 } }

lemma command_of_ready {first second : UInt8} {commandOffset : ℕ} {description : String}
    (htext : p.text = []) (hrest : p.rest = first :: second :: after) :
    p.command commandOffset description = .ok (second, p.begun) := by
  simp [Parser.command, Parser.flushText, htext, hrest, bind, Except.bind, pure, Except.pure,
    Parser.begun, Parser.skip]

lemma rest_begun {first second : UInt8} (hrest : p.rest = first :: second :: after) :
    p.begun.rest = after := by
  simp [Parser.begun, hrest]

lemma takeByte_cons {value : UInt8} {commandOffset : ℕ} {description : String}
    (hrest : p.rest = value :: after) :
    p.takeByte commandOffset description = .ok (value, p.skip 1) := by
  simp [Parser.takeByte, hrest]

lemma takePayload_append {payload : List UInt8} {length commandOffset : ℕ} {description : String}
    (hrest : p.rest = payload ++ after) (hlength : payload.length = length) :
    p.takePayload length commandOffset description = .ok (payload, p.skip length) := by
  subst hlength
  simp [Parser.takePayload, hrest]

lemma step_esc {tail : List UInt8} (hrest : p.rest = esc :: tail) :
    p.step = p.parseEscape p.offset := by
  simp [Parser.step, hrest]

lemma step_gs {tail : List UInt8} (hrest : p.rest = gs :: tail) :
    p.step = p.parseGroupSeparator p.offset := by
  simp [Parser.step, hrest]

lemma progress_reset (hready : p.Ready) (hrest : p.rest = [esc, 0x40] ++ after) :
    ∃ q, Progress p q after [] 0 := by
  have hstep : p.step =
      .ok { p.begun with alignment := .left, bold := false, qrPayload := none } := by
    rw [step_esc hrest, Parser.parseEscape, command_of_ready hready.text hrest]
    rfl
  exact ⟨_, progress_setting hready (by simp [hrest]) hstep rfl (rest_begun hrest) rfl rfl rfl rfl
    rfl⟩

/-- A command with one operand, of which the parser is left with what comes after it. -/
lemma rest_operand {first second operand : UInt8}
    (hrest : p.rest = first :: second :: operand :: after) :
    p.begun.rest = operand :: after ∧ (p.begun.skip 1).rest = after := by
  simp [Parser.begun, hrest]

lemma progress_alignment (alignment : TextAlignment) (hready : p.Ready)
    (hrest : p.rest = [esc, 0x61, alignmentCode alignment] ++ after) :
    ∃ q, Progress p q after [] 0 := by
  rcases rest_operand hrest with ⟨hoperand, hafter⟩
  have hstep : p.step = .ok { p.begun.skip 1 with alignment := alignment } := by
    rw [step_esc hrest, Parser.parseEscape, command_of_ready hready.text hrest]
    simp only [bind, Except.bind, takeByte_cons hoperand]
    cases alignment <;> rfl
  exact ⟨_, progress_setting hready (by simp [hrest]) hstep rfl hafter rfl rfl rfl rfl rfl⟩

lemma progress_bold (bold : Bool) (hready : p.Ready)
    (hrest : p.rest = [esc, 0x45, if bold then 1 else 0] ++ after) :
    ∃ q, Progress p q after [] 0 := by
  rcases rest_operand hrest with ⟨hoperand, hafter⟩
  have hstep : p.step = .ok { p.begun.skip 1 with bold := bold } := by
    rw [step_esc hrest, Parser.parseEscape, command_of_ready hready.text hrest]
    simp only [bind, Except.bind, takeByte_cons hoperand]
    cases bold <;> rfl
  exact ⟨_, progress_setting hready (by simp [hrest]) hstep rfl hafter rfl rfl rfl rfl rfl⟩

lemma progress_feed (hready : p.Ready) {lines : UInt8} (hlines : lines ≠ 0)
    (hrest : p.rest = [esc, 0x64, lines] ++ after) :
    ∃ q, Progress p q after [] lines.toNat := by
  rcases rest_operand hrest with ⟨hoperand, hafter⟩
  have hstep : p.step = .ok
      { (p.begun.skip 1).push (.feed lines) with
        diagnostics :=
          { p.begun.diagnostics with
            feedLines := p.begun.diagnostics.feedLines + lines.toNat } } := by
    rw [step_esc hrest, Parser.parseEscape, command_of_ready hready.text hrest]
    simp only [bind, Except.bind, takeByte_cons hoperand]
    exact if_neg hlines
  exact ⟨_, progress_turn [.feed lines] hready (by simp [hrest]) hstep rfl hafter rfl
    rfl rfl rfl rfl⟩

lemma progress_cut (hready : p.Ready) (hrest : p.rest = [gs, 0x56, 0] ++ after) :
    ∃ q, Progress p q after [.cut] 0 := by
  rcases rest_operand hrest with ⟨hoperand, hafter⟩
  have hstep : p.step = .ok
      { (p.begun.skip 1).push .cut with
        diagnostics := { p.begun.diagnostics with cutRequested := true } } := by
    rw [step_gs hrest, Parser.parseGroupSeparator, command_of_ready hready.text hrest]
    simp only [bind, Except.bind, takeByte_cons hoperand]
    rfl
  exact ⟨_, progress_turn [.cut] hready (by simp [hrest]) hstep rfl hafter rfl rfl rfl
    rfl rfl⟩

/-! ## Images and codes -/

/-- A raster block is read as its sizes tell. -/
lemma parseRasterImage_ok (commandOffset : ℕ) {stride height : ℕ} {payload : List UInt8}
    {image : ReceiptImage}
    (hrest : p.rest = [0x30, 0, lowByte stride, highByte stride, lowByte height, highByte height] ++
      (payload ++ after))
    (hstride : stride < 65536) (hheight : height < 65536)
    (hfits : ¬ (stride = 0 ∨ height = 0 ∨ maxRasterBytes < stride * height))
    (hlength : payload.length = stride * height)
    (himage : ReceiptImage.fromMono (stride * 8) height payload = .ok image) :
    p.parseRasterImage commandOffset = .ok
      { p.push (.image image) with
        rest := after
        offset := p.offset + (6 + payload.length)
        diagnostics := { p.diagnostics with images := p.diagnostics.images + 1 } } := by
  simp only [Parser.parseRasterImage, Parser.takeByte, hrest, bind, Except.bind,
    List.cons_append, List.nil_append, Parser.skip, List.drop_succ_cons, List.drop_zero,
    toNat_lowByte_highByte hstride, toNat_lowByte_highByte hheight, hfits, if_false, ne_eq,
    not_true_eq_false, Parser.takePayload]
  simp [← hlength, himage, Parser.push, pure, Except.pure, add_assoc]

/-- A function of a QR symbol is performed with its parameters. -/
lemma parseQrCommand_ok {low high : UInt8} {commandOffset : ℕ} {parameters : List UInt8}
    (hrest : p.rest = [0x6b, low, high] ++ (parameters ++ after))
    (hlength : parameters.length = low.toNat + 256 * high.toNat) (hne : parameters.length ≠ 0)
    (hle : parameters.length ≤ maxQrBytes + 3) :
    p.parseQrCommand commandOffset =
      ({ p with rest := after, offset := p.offset + (3 + parameters.length) } :
        Parser).symbolFunction commandOffset parameters := by
  have hfits : ¬ (parameters.length = 0 ∨ maxQrBytes + 3 < parameters.length) := by omega
  simp only [Parser.parseQrCommand, Parser.takeByte, hrest, bind, Except.bind,
    List.cons_append, List.nil_append, Parser.skip, List.drop_succ_cons, List.drop_zero,
    ← hlength, hfits, if_false, ne_eq, not_true_eq_false, Parser.takePayload]
  simp [add_assoc]

/-- A symbol with more parameters than the limit is refused. -/
lemma parseQrCommand_error (commandOffset : ℕ) {low high : UInt8}
    (hrest : p.rest = 0x6b :: low :: high :: after)
    (hlong : maxQrBytes + 3 < low.toNat + 256 * high.toNat) :
    p.parseQrCommand commandOffset =
      .error (.invalidEscPos commandOffset "QR payload length exceeds its limit") := by
  simp only [Parser.parseQrCommand, Parser.takeByte, hrest, bind, Except.bind, Parser.skip,
    List.drop_succ_cons, List.drop_zero, hlong, or_true, if_true, ne_eq, not_true_eq_false,
    if_false]
  rfl

lemma parseBarcode_ok (commandOffset : ℕ) {command : UInt8} {format : BarcodeFormat}
    {payload data : List UInt8} {value : String}
    (hrest : p.rest = [command, UInt8.ofNat payload.length] ++ (payload ++ after))
    (hle : payload.length ≤ 255)
    (hsymbology : Parser.symbology command payload = .ok (format, data))
    (hdecode : decode data = some value) :
    p.parseBarcode commandOffset = .ok
      { p.push (.barcode format value p.barcodeHeightDots p.barcodeHri) with
        rest := after
        offset := p.offset + (2 + payload.length)
        diagnostics := { p.diagnostics with barcodes := p.diagnostics.barcodes + 1 } } := by
  have hsmall : (UInt8.ofNat payload.length).toNat = payload.length := by
    simp only [UInt8.toNat_ofNat']
    omega
  simp only [Parser.parseBarcode, Parser.takeByte, hrest, bind, Except.bind, List.cons_append,
    List.nil_append, Parser.skip, List.drop_succ_cons, List.drop_zero, hsmall,
    Parser.takePayload]
  simp [hsymbology, hdecode, pure, Except.pure, Parser.push, add_assoc]

/-! The commands with payloads, in one turn each. -/

lemma step_raster {tail : List UInt8} (hready : p.Ready) (hrest : p.rest = gs :: 0x76 :: tail) :
    p.step = p.begun.parseRasterImage p.offset := by
  rw [step_gs hrest, Parser.parseGroupSeparator, command_of_ready hready.text hrest]
  rfl

lemma step_qr {tail : List UInt8} (hready : p.Ready) (hrest : p.rest = gs :: 0x28 :: tail) :
    p.step = p.begun.parseQrCommand p.offset := by
  rw [step_gs hrest, Parser.parseGroupSeparator, command_of_ready hready.text hrest]
  rfl

lemma step_barcode {tail : List UInt8} (hready : p.Ready) (hrest : p.rest = gs :: 0x6b :: tail) :
    p.step = p.begun.parseBarcode p.offset := by
  rw [step_gs hrest, Parser.parseGroupSeparator, command_of_ready hready.text hrest]
  rfl

lemma progress_image (hready : p.Ready) {raster : ReceiptImage} (hpacked : raster.Packed)
    (hrest : p.rest = [gs, 0x76, 0x30, 0, lowByte raster.stride, highByte raster.stride,
      lowByte raster.height, highByte raster.height] ++ raster.data ++ after) :
    ∃ q, Progress p q after [(ReceiptElement.image raster).rounded] 0 := by
  have hwidth := hpacked.width_le
  have hheight := hpacked.height_le
  have hpos := hpacked.width_pos
  have hrows := hpacked.height_pos
  have hstride := hpacked.stride
  simp only [maxImageDimension] at hwidth hheight
  have hfits : ¬ (raster.stride = 0 ∨ raster.height = 0 ∨
      maxRasterBytes < raster.stride * raster.height) := by
    have harea : raster.stride * raster.height ≤ 256 * 2048 :=
      Nat.mul_le_mul (by omega) hheight
    simp only [maxRasterBytes]
    omega
  have hmono : ReceiptImage.fromMono (raster.stride * 8) raster.height raster.data =
      .ok { raster with width := (raster.width + 7) / 8 * 8 } := by
    have hsame : (raster.stride * 8 + 7) / 8 = raster.stride := by omega
    have hlength := hpacked.length
    simp only [ReceiptImage.fromMono, hsame]
    rw [if_neg (by omega), hpacked.dpi, ← hstride]
  have hbegun : p.begun.rest = [0x30, 0, lowByte raster.stride, highByte raster.stride,
      lowByte raster.height, highByte raster.height] ++ (raster.data ++ after) := by
    simp [Parser.begun, hrest]
  have hparsed := parseRasterImage_ok p.offset hbegun (by omega) (by omega) hfits
    hpacked.length hmono
  have hstep := (step_raster hready hrest).trans hparsed
  exact ⟨_, progress_turn [.image { raster with width := (raster.width + 7) / 8 * 8 }]
    hready (by simp [hrest]) hstep rfl rfl rfl rfl rfl rfl rfl⟩

/-- A function of a QR symbol, performed in one turn. -/
lemma step_symbol (hready : p.Ready) {low high : UInt8} {parameters : List UInt8}
    (hrest : p.rest = [gs, 0x28, 0x6b, low, high] ++ parameters ++ after)
    (hlength : parameters.length = low.toNat + 256 * high.toNat) (hne : parameters.length ≠ 0)
    (hle : parameters.length ≤ maxQrBytes + 3) :
    p.step = ({ p.begun with rest := after, offset := p.begun.offset + (3 + parameters.length) } :
      Parser).symbolFunction p.offset parameters := by
  have hbegun : p.begun.rest = [0x6b, low, high] ++ (parameters ++ after) := by
    simp [Parser.begun, hrest]
  rw [step_qr hready hrest, parseQrCommand_ok hbegun hlength hne hle]

/-- The settings of a symbol are accepted. -/
lemma progress_symbol (low : UInt8) (parameters : List UInt8) (hready : p.Ready)
    (hrest : p.rest = [gs, 0x28, 0x6b, low, 0] ++ parameters ++ after)
    (hsetting : (low, parameters) ∈
      [((4 : UInt8), [(49 : UInt8), 65, 50, 0]), (3, [49, 67, 6]), (3, [49, 69, 49])]) :
    ∃ q, Progress p q after [] 0 := by
  simp only [List.mem_cons, Prod.mk.injEq, List.not_mem_nil, or_false] at hsetting
  rcases hsetting with ⟨rfl, rfl⟩ | ⟨rfl, rfl⟩ | ⟨rfl, rfl⟩
  all_goals
    have hstep := step_symbol hready hrest rfl (by simp) (by simp [maxQrBytes])
    exact ⟨_, progress_setting hready (by simp [hrest]) hstep rfl rfl rfl rfl rfl rfl rfl⟩

/-- The content of a symbol is stored. -/
lemma progress_store (hready : p.Ready) {value : String}
    (hle : (encode value.toList).length ≤ maxQrBytes)
    (hrest : p.rest = [gs, 0x28, 0x6b, lowByte ((encode value.toList).length + 3),
      highByte ((encode value.toList).length + 3)] ++ ([49, 80, 48] ++ encode value.toList) ++
        after) :
    ∃ q, Progress p q after [] 0 ∧ q.qrPayload = some value := by
  have hlength : ([49, 80, 48] ++ encode value.toList).length =
      (lowByte ((encode value.toList).length + 3)).toNat +
        256 * (highByte ((encode value.toList).length + 3)).toNat := by
    simp only [maxQrBytes] at hle
    rw [toNat_lowByte_highByte (by omega), List.length_append, add_comm]
    rfl
  have hstep := step_symbol hready hrest hlength (by simp) (by simp; omega)
  have hstored : p.step = .ok
      { p.begun with
        rest := after
        offset := p.begun.offset + (3 + ([49, 80, 48] ++ encode value.toList).length)
        qrPayload := some value } := by
    rw [hstep]
    simp [Parser.symbolFunction]
  exact ⟨_, progress_setting hready (by simp [hrest]) hstored rfl rfl rfl rfl rfl rfl rfl, rfl⟩

/-- The content that is stored is printed. -/
lemma progress_print (hready : p.Ready) {value : String} (hstored : p.qrPayload = some value)
    (hrest : p.rest = [gs, 0x28, 0x6b, 3, 0] ++ [49, 81, 48] ++ after) :
    ∃ q, Progress p q after [.qr value] 0 := by
  have hstep := step_symbol hready hrest rfl (by simp) (by simp [maxQrBytes])
  have hprinted : p.step = .ok
      { p.begun with
        rest := after
        offset := p.begun.offset + 6
        qrPayload := none
        elements := p.elements ++ [.qr value]
        diagnostics :=
          { p.begun.diagnostics with qrCodes := p.begun.diagnostics.qrCodes + 1 } } := by
    rw [hstep]
    simp [Parser.symbolFunction, Parser.begun, hstored, Parser.push]
  exact ⟨_, progress_turn [.qr value] hready (by simp [hrest]) hprinted rfl rfl rfl rfl
    rfl rfl rfl⟩

/-- **A QR code is read back** if it keeps the limit of the interpreter. -/
lemma progress_qr (hready : p.Ready) {value : String}
    (hle : (encode value.toList).length ≤ maxQrBytes)
    (hrest : p.rest = (ReceiptElement.qr value).commandsBefore.flatten ++ after) :
    ∃ q, Progress p q after [.qr value] 0 := by
  simp only [ReceiptElement.commandsBefore, List.flatten_cons, List.flatten_nil,
    List.append_nil, List.append_assoc] at hrest
  rcases progress_symbol 4 [49, 65, 50, 0] hready hrest (by simp) with ⟨p₁, h₁⟩
  rcases progress_symbol 3 [49, 67, 6] h₁.ready h₁.rest (by simp) with ⟨p₂, h₂⟩
  rcases progress_symbol 3 [49, 69, 49] h₂.ready h₂.rest (by simp) with ⟨p₃, h₃⟩
  have hstore : p₃.rest = [gs, 0x28, 0x6b, lowByte ((encode value.toList).length + 3),
      highByte ((encode value.toList).length + 3)] ++ ([49, 80, 48] ++ encode value.toList) ++
        ([gs, 0x28, 0x6b, 3, 0] ++ [49, 81, 48] ++ after) := by
    rw [h₃.rest]
    simp
  rcases progress_store h₃.ready hle hstore with ⟨p₄, h₄, hstored⟩
  rcases progress_print h₄.ready hstored h₄.rest with ⟨p₅, h₅⟩
  exact ⟨p₅, (((h₁.trans h₂).trans h₃).trans h₄).trans h₅⟩

/-- The encoder and the interpreter agree on the number of each symbology. -/
lemma symbology_barcodePayload {format : BarcodeFormat} {value : String} {command : UInt8}
    {payload : List UInt8} (hpayload : barcodePayload format value = .ok (command, payload)) :
    Parser.symbology command payload = .ok (format, encode value.toList) := by
  cases format <;>
  · simp only [barcodePayload] at hpayload
    split at hpayload
    · cases hpayload
    · cases hpayload
      rfl

/-- The settings of a barcode. -/
lemma progress_hri (hready : p.Ready) {human : Bool}
    (hrest : p.rest = [gs, 0x48, if human then 2 else 0] ++ after) :
    ∃ q, Progress p q after [] 0 ∧ q.barcodeHri = human := by
  rcases rest_operand hrest with ⟨hoperand, hafter⟩
  have hstep : p.step = .ok { p.begun.skip 1 with barcodeHri := human } := by
    rw [step_gs hrest, Parser.parseGroupSeparator, command_of_ready hready.text hrest]
    simp only [bind, Except.bind, takeByte_cons hoperand]
    cases human <;> rfl
  exact ⟨_, progress_setting hready (by simp [hrest]) hstep rfl hafter rfl rfl rfl rfl rfl, rfl⟩

lemma progress_height (hready : p.Ready) {height : UInt8}
    (hrest : p.rest = [gs, 0x68, height] ++ after) :
    ∃ q, Progress p q after [] 0 ∧ q.barcodeHeightDots = height ∧
      q.barcodeHri = p.barcodeHri := by
  rcases rest_operand hrest with ⟨hoperand, hafter⟩
  have hstep : p.step = .ok { p.begun.skip 1 with barcodeHeightDots := height } := by
    rw [step_gs hrest, Parser.parseGroupSeparator, command_of_ready hready.text hrest]
    simp only [bind, Except.bind, takeByte_cons hoperand]
    rfl
  exact ⟨_, progress_setting hready (by simp [hrest]) hstep rfl hafter rfl rfl rfl rfl rfl, rfl,
    rfl⟩

/-- **A barcode is read back** with its settings. -/
lemma progress_barcode (hready : p.Ready) {format : BarcodeFormat} {value : String}
    {height command : UInt8} {human : Bool} {payload : List UInt8}
    (hpayload : barcodePayload format value = .ok (command, payload)) (hle : payload.length ≤ 255)
    (hrest : p.rest = [gs, 0x48, if human then 2 else 0] ++ ([gs, 0x68, height] ++
      ([gs, 0x6b, command, UInt8.ofNat payload.length] ++ payload ++ after))) :
    ∃ q, Progress p q after [.barcode format value height human] 0 := by
  rcases progress_hri hready hrest with ⟨p₁, h₁, hhuman⟩
  rcases progress_height h₁.ready h₁.rest with ⟨p₂, h₂, hheight, hsame⟩
  have hbegun : p₂.begun.rest = [command, UInt8.ofNat payload.length] ++ (payload ++ after) := by
    simp [Parser.begun, h₂.rest]
  have hdecode : decode (encode value.toList) = some value := by simp
  have hparsed := parseBarcode_ok p₂.offset hbegun hle
    (symbology_barcodePayload hpayload) hdecode
  have hstep := (step_barcode h₂.ready h₂.rest).trans hparsed
  have hlast := progress_turn [.barcode format value height human]
    h₂.ready (by simp [h₂.rest]) hstep
    (by simp [Parser.begun, Parser.push, hheight, hsame, hhuman]) rfl rfl rfl rfl rfl rfl
  exact ⟨_, (h₁.trans h₂).trans hlast⟩

/-! ## Lines of text -/

/-- Characters that are printed as they are. -/
def isPrintable (c : Char) : Bool := 0x20 ≤ c.toNat && c.toNat ≤ 0x7e

lemma isAscii_of_isPrintable {c : Char} (hprintable : isPrintable c = true) : isAscii c = true := by
  simp only [isPrintable, Bool.and_eq_true, decide_eq_true_eq] at hprintable
  simp only [isAscii, decide_eq_true_eq]
  omega

lemma encode_of_isPrintable {line : List Char} (hline : ∀ c ∈ line, isPrintable c = true) :
    encode line = line.map asciiByte :=
  encode_of_isAscii fun c hc => isAscii_of_isPrintable (hline c hc)

/-- The parser after some bytes of text. -/
def Parser.collected (p : Parser) (bytes after : List UInt8) : Parser :=
  { p with rest := after, offset := p.offset + bytes.length, text := p.text ++ bytes }

lemma collected_nil (hrest : p.rest = after) : p.collected [] after = p := by
  rw [Parser.collected, ← hrest, List.append_nil]
  rfl

lemma collected_collected {bytes others mid : List UInt8} :
    (p.collected bytes mid).collected others after = p.collected (bytes ++ others) after := by
  simp [Parser.collected, add_assoc]

/-- A printable character is collected. -/
lemma step_printable {c : Char} (hprintable : isPrintable c = true)
    (hrest : p.rest = asciiByte c :: after) (hfits : p.text.length + 1 ≤ maxTextBytes) :
    p.step = .ok (p.collected [asciiByte c] after) := by
  have hbyte := toNat_asciiByte (isAscii_of_isPrintable hprintable)
  simp only [isPrintable, Bool.and_eq_true, decide_eq_true_eq] at hprintable
  have hne : ∀ b : UInt8, b.toNat < 0x20 → asciiByte c ≠ b := by
    rintro b hlt rfl
    omega
  have hrange : (0x20 : UInt8) ≤ asciiByte c ∧ asciiByte c ≤ 0x7e := by
    rw [UInt8.le_iff_toNat_le, UInt8.le_iff_toNat_le, hbyte]
    exact hprintable
  simp only [Parser.step, hrest, if_neg (hne esc (by decide)), if_neg (hne gs (by decide)),
    if_neg (hne lineFeed (by decide)), if_neg (hne 0x0d (by decide)), if_pos hrange,
    if_neg (not_lt.mpr hfits)]
  simp [Parser.skip, Parser.collected, hrest]

/-- The characters of a line are collected, one in each turn. -/
lemma advances_text {line : List Char} (hline : ∀ c ∈ line, isPrintable c = true)
    (hgoing : p.stopped = false) (hrest : p.rest = line.map asciiByte ++ after)
    (hfits : p.text.length + line.length ≤ maxTextBytes) :
    Parser.Advances p (p.collected (line.map asciiByte) after) := by
  induction line generalizing p with
  | nil => exact (collected_nil hrest).symm ▸ .refl
  | cons c line ih =>
      simp only [List.map_cons, List.cons_append, List.length_cons] at hrest hfits
      have hstep := step_printable (hline c List.mem_cons_self) hrest (by omega)
      have htail := ih (p := p.collected [asciiByte c] (line.map asciiByte ++ after))
        (fun d hd => hline d (List.mem_cons_of_mem _ hd)) hgoing rfl
        (by simp only [Parser.collected, List.length_append, List.length_singleton]; omega)
      rw [collected_collected] at htail
      exact .head ⟨by simp [hrest], hgoing, hstep⟩ htail

/-- A line feed ends the line. -/
lemma step_lineFeed (hrest : p.rest = lineFeed :: after) :
    p.step = (p.skip 1).finishTextLine := by
  have hesc : lineFeed ≠ esc := by decide
  have hgs : lineFeed ≠ gs := by decide
  simp only [Parser.step, hrest, if_neg hesc, if_neg hgs, if_true]

/-- What a line of text is read as is no operation of a device, and feeds nothing. -/
lemma finishTextLine_ok {line : List Char} (hne : line ≠ []) (htext : p.text = encode line) :
    ∃ element : ReceiptElement, element.isDevice = false ∧ element.feeds = 0 ∧
      p.finishTextLine = .ok
        { p with
          text := []
          elements := p.elements ++ [element]
          diagnostics := { p.diagnostics with textLines := p.diagnostics.textLines + 1 } } := by
  simp only [Parser.finishTextLine, htext, if_neg (encode_ne_nil hne), decode_encode]
  split
  · exact ⟨.divider, rfl, rfl, rfl⟩
  · split
    · exact ⟨.row _ _, rfl, rfl, rfl⟩
    · exact ⟨.text _ _ _, rfl, rfl, rfl⟩

/-- **A line of text is read as one operation, or as a feed** when it is empty. -/
lemma progress_line (line : List Char) (hready : p.Ready)
    (hline : ∀ c ∈ line, isPrintable c = true) (hfits : line.length ≤ maxTextBytes)
    (hrest : p.rest = encode line ++ [lineFeed] ++ after) :
    ∃ q, Progress p q after [] (if line = [] then 1 else 0) := by
  rw [encode_of_isPrintable hline, List.append_assoc] at hrest
  have hcollected := advances_text hline hready.going hrest
    (by rw [hready.text]; simpa using hfits)
  set full := p.collected (line.map asciiByte) ([lineFeed] ++ after) with hfull
  have hbytes : full.text = encode line := by
    rw [hfull, encode_of_isPrintable hline]
    simp [Parser.collected, hready.text]
  have hturn : full.step = (full.skip 1).finishTextLine := step_lineFeed rfl
  have hne : full.rest ≠ [] := by simp [hfull, Parser.collected]
  by_cases hempty : line = []
  · have hnothing : (full.skip 1).text = [] := hbytes.trans (by rw [hempty]; rfl)
    have hfeed : full.step = .ok
        { (full.skip 1).push (.feed 1) with
          diagnostics := { p.diagnostics with feedLines := p.diagnostics.feedLines + 1 } } := by
      rw [hturn, Parser.finishTextLine, if_pos hnothing]
      rfl
    rw [if_pos hempty]
    exact ⟨_, hcollected.tail ⟨hne, hready.going, hfeed⟩, rfl,
      ⟨hnothing, hready.going, hready.supported, by
        simp [hready.counted, Parser.push, Parser.skip, hfull, Parser.collected, feedLines,
          ReceiptElement.feeds]⟩, rfl,
      by simp [Parser.push, Parser.skip, hfull, Parser.collected, deviceOperations,
        ReceiptElement.isDevice],
      by simp [Parser.push, Parser.skip, hfull, Parser.collected, feedLines,
        ReceiptElement.feeds]⟩
  · rcases finishTextLine_ok (p := full.skip 1) hempty hbytes with
      ⟨element, hdevice, hfeeds, hfinish⟩
    rw [if_neg hempty]
    exact ⟨_, hcollected.tail ⟨hne, hready.going, hturn.trans hfinish⟩, rfl,
      ⟨rfl, hready.going, hready.supported, by
        simp [hready.counted, Parser.skip, hfull, Parser.collected, feedLines, hfeeds]⟩, rfl,
      by simp [Parser.skip, hfull, Parser.collected, deviceOperations, hdevice],
      by simp [Parser.skip, hfull, Parser.collected, feedLines, hfeeds]⟩

/-- Several lines of text. -/
lemma progress_lines (hready : p.Ready) {lines : List (List Char)}
    (hlines : ∀ line ∈ lines, (∀ c ∈ line, isPrintable c = true) ∧ line.length ≤ maxTextBytes)
    (hrest : p.rest = lineBytes lines ++ after) :
    ∃ q, Progress p q after [] (lines.count []) := by
  induction lines generalizing p with
  | nil => exact ⟨p, .refl, hrest, hready, rfl, (List.append_nil _).symm, rfl⟩
  | cons line lines ih =>
      have hline := hlines line List.mem_cons_self
      simp only [lineBytes, List.flatMap_cons, List.append_assoc] at hrest
      rcases progress_line line hready hline.1 hline.2 (by rw [hrest, List.append_assoc]) with ⟨q, hq⟩
      rcases ih hq.ready (fun other hother => hlines other (List.mem_cons_of_mem _ hother))
        hq.rest with ⟨r, hr⟩
      refine ⟨r, ?_⟩
      have hboth := hq.trans hr
      rw [List.count_cons, add_comm]
      simpa using hboth

/-! ## Printed lines -/

/-- Lines are cut where they contain a line feed. -/
lemma lineBytes_splitOn (line : List Char) :
    lineBytes (line.splitOn '\n') = encode line ++ [lineFeed] := by
  induction line with
  | nil => rfl
  | cons c line ih =>
      rw [List.splitOn_cons_eq_if_modifyHead]
      split
      · rename_i hfeed
        rw [lineBytes, List.flatMap_cons]
        show encode [] ++ [lineFeed] ++ lineBytes (line.splitOn '\n') = _
        rw [ih, beq_iff_eq.mp hfeed, encode_cons]
        rfl
      · rcases List.exists_cons_of_ne_nil (List.splitOn_ne_nil '\n' line) with ⟨first, rest, heq⟩
        rw [heq] at ih ⊢
        simp only [lineBytes, List.flatMap_cons, List.modifyHead_cons, encode_cons,
          List.append_assoc] at ih ⊢
        rw [ih]

lemma lineBytes_sourceLines (lines : List (List Char)) :
    lineBytes (sourceLines lines) = lineBytes lines := by
  induction lines with
  | nil => rfl
  | cons line lines ih =>
      simp only [sourceLines, lineBytes, List.flatMap_cons, List.flatMap_append] at ih ⊢
      rw [ih]
      congr 1
      exact lineBytes_splitOn line

/-- What is left of a line when it is cut. -/
lemma mem_sourceLines {lines : List (List Char)} {part : List Char}
    (hmem : part ∈ sourceLines lines) :
    ∃ line ∈ lines, part.length ≤ line.length ∧ ∀ c ∈ part, c ∈ line ∧ c ≠ '\n' := by
  rcases List.mem_flatMap.mp hmem with ⟨line, hline, hpart⟩
  have hflatten : (line.splitOn '\n').flatten = line.filter fun c => !(c == '\n') := by
    rw [List.splitOn_eq_splitOnP, flatten_splitOnP]
  refine ⟨line, hline, ?_, fun c hc => ?_⟩
  · have hle := length_line_le hpart
    rw [hflatten] at hle
    exact hle.trans (List.length_filter_le ..)
  · have hall : c ∈ (line.splitOn '\n').flatten := List.mem_flatten_of_mem hpart hc
    rw [hflatten, List.mem_filter] at hall
    exact ⟨hall.1, by simpa using hall.2⟩

/-- A section prints its own characters, and blanks. -/
lemma mem_printedLines {columns : ℕ} {paper : ReceiptWidth} {item : PrintSection}
    {element : ReceiptElement} (hprintable : IsPrintable item)
    (helement : ReceiptElement.fromSection lib paper item = .ok element) {c : Char}
    (hmem : c ∈ (element.printedLines lib columns).flatten) : isPrintableText c = true := by
  cases item with
  | text value align bold =>
      cases helement
      rcases mem_wrapText hmem with rfl | hink
      · rfl
      · exact hprintable c (mem_ink.mp hink).1
  | row left right =>
      cases helement
      cases hfits : rowFits lib left.toList right.toList columns with
      | true =>
          simp only [ReceiptElement.printedLines, layoutRow, hfits, if_true, List.flatten_cons,
            List.flatten_nil, List.append_nil, List.mem_append] at hmem
          rcases hmem with (hleft | hblank) | hright
          · exact hprintable c (List.mem_append_left _ hleft)
          · rw [List.eq_of_mem_replicate hblank]
            rfl
          · exact hprintable c (List.mem_append_right _ hright)
      | false =>
          rcases mem_layoutRow hfits hmem with rfl | hink | hink
          · rfl
          · exact hprintable c (List.mem_append_left _ (mem_ink.mp hink).1)
          · exact hprintable c (List.mem_append_right _ (mem_ink.mp hink).1)
  | image mediaType data =>
      simp only [ReceiptElement.fromSection, bind_eq_ok, pure_eq_ok] at helement
      rcases helement with ⟨_, -, rfl⟩
      cases hmem
  | _ =>
      cases helement
      cases hmem

lemma length_le_utf16Length (value : String) : value.toList.length ≤ utf16Length value := by
  have hsum := List.length_le_sum_of_one_le (value.toList.map utf16Size) fun n hn => by
    rcases List.mem_map.mp hn with ⟨c, -, rfl⟩
    rw [utf16Size]
    split <;> omega
  simpa [utf16Length] using hsum

/-- No line of a receipt reaches the limit of the interpreter. -/
lemma length_printedLines {paper : ReceiptWidth} {element : ReceiptElement}
    (hbounded : element.Bounded) {line : List Char}
    (hmem : line ∈ element.printedLines lib (columns paper)) : line.length ≤ maxTextBytes := by
  have hcolumns : columns paper ≤ 48 := by cases paper <;> decide
  simp only [maxTextBytes]
  cases element with
  | text value alignment bold =>
      have hle := length_of_mem_wrapText hmem
      have hvalue := length_le_utf16Length value
      have hvalid : utf16Length value ≤ 16384 := hbounded
      omega
  | row left right =>
      have hle := length_of_mem_layoutRow hmem
      have hleft := length_le_utf16Length left
      have hright := length_le_utf16Length right
      have hvalid : utf16Length left ≤ 4096 ∧ utf16Length right ≤ 4096 := hbounded
      omega
  | _ => cases hmem

/-- The lines an operation prints are read one by one. -/
lemma progress_printed (hready : p.Ready) {paper : ReceiptWidth} {element : ReceiptElement}
    (hbounded : element.Bounded)
    (hprintable : ∀ c ∈ (element.printedLines lib (columns paper)).flatten,
      isPrintableText c = true)
    (hrest : p.rest = lineBytes (element.printedLines lib (columns paper)) ++ after) :
    ∃ q, Progress p q after [] (element.emptyLines lib (columns paper)) := by
  rw [← lineBytes_sourceLines] at hrest
  refine progress_lines hready (fun part hpart => ?_) hrest
  rcases mem_sourceLines hpart with ⟨line, hline, hlength, hchars⟩
  refine ⟨fun c hc => ?_, hlength.trans (length_printedLines hbounded hline)⟩
  rcases hchars c hc with ⟨hmem, hfeed⟩
  have htext := hprintable c (List.mem_flatten_of_mem hline hmem)
  simp only [isPrintableText, hfeed, decide_false, Bool.or_false] at htext
  exact htext

/-- A QR code that the interpreter has room for. -/
def ReceiptElement.Readable : ReceiptElement → Prop
  | .qr value => (encode value.toList).length ≤ maxQrBytes
  | _ => True

/-- **One operation is read back.** -/
lemma progress_element (hready : p.Ready) {paper : ReceiptWidth} {element : ReceiptElement}
    {bytes : List UInt8} (hbounded : element.Bounded) (hreadable : element.Readable)
    (hprintable : ∀ c ∈ (element.printedLines lib (columns paper)).flatten,
      isPrintableText c = true)
    (hrender : renderElement lib (columns paper) element = .ok bytes)
    (hrest : p.rest = bytes ++ after) :
    ∃ q, Progress p q after ((deviceOperations [element]).map ReceiptElement.rounded)
      (element.feeds + element.emptyLines lib (columns paper)) := by
  have hemits := renderElement_emits hrender
  cases element with
  | text value alignment bold =>
      simp only [hemits, ReceiptElement.commandsBefore, ReceiptElement.commandsAfter,
        List.flatten_cons, List.flatten_nil, List.append_nil, List.append_assoc] at hrest
      rcases progress_alignment alignment hready hrest with ⟨p₁, h₁⟩
      rcases progress_bold bold h₁.ready h₁.rest with ⟨p₂, h₂⟩
      rcases progress_printed h₂.ready hbounded hprintable h₂.rest with ⟨p₃, h₃⟩
      rcases progress_bold false h₃.ready h₃.rest with ⟨p₄, h₄⟩
      have hall := ((h₁.trans h₂).trans h₃).trans h₄
      refine ⟨p₄, ?_⟩
      simpa [ReceiptElement.feeds, deviceOperations, ReceiptElement.isDevice] using hall
  | row left right =>
      simp only [hemits, ReceiptElement.commandsBefore, ReceiptElement.commandsAfter,
        List.flatten_cons, List.flatten_nil, List.append_nil, List.append_assoc] at hrest
      rcases progress_alignment .left hready hrest with ⟨p₁, h₁⟩
      rcases progress_printed h₁.ready hbounded hprintable h₁.rest with ⟨p₂, h₂⟩
      refine ⟨p₂, ?_⟩
      simpa [ReceiptElement.feeds, deviceOperations, ReceiptElement.isDevice] using h₁.trans h₂
  | divider =>
      have hdashes : encode (List.replicate (columns paper) '-') =
          List.replicate (columns paper) 0x2d := by
        rw [encode_of_isPrintable fun c hc => List.eq_of_mem_replicate hc ▸ rfl,
          List.map_replicate]
        rfl
      have hne : List.replicate (columns paper) '-' ≠ [] := by cases paper <;> decide
      rcases progress_line (List.replicate (columns paper) '-') hready
        (fun c hc => List.eq_of_mem_replicate hc ▸ rfl)
        (by cases paper <;> decide)
        (by rw [hrest, hdashes]; cases hrender; rfl) with ⟨q, hq⟩
      rw [if_neg hne] at hq
      exact ⟨q, hq⟩
  | image raster =>
      cases hrender
      exact progress_image hready hbounded hrest
  | qr value =>
      have hcommands : p.rest = (ReceiptElement.qr value).commandsBefore.flatten ++ after := by
        rw [hrest, hemits]
        simp [lineBytes, ReceiptElement.commandsAfter, ReceiptElement.printedBytes,
          ReceiptElement.printedLines]
      exact progress_qr hready hreadable hcommands
  | barcode format value height human =>
      have hencoded := hrender
      simp only [renderElement, renderBarcode, bind_eq_ok] at hencoded
      rcases hencoded with ⟨_, ⟨⟨command, payload⟩, hpayload, hlength⟩, -⟩
      split at hlength
      · cases hlength
      · rename_i hsmall
        have hcommands : p.rest = [gs, 0x48, if human then 2 else 0] ++ ([gs, 0x68, height] ++
            ([gs, 0x6b, command, UInt8.ofNat payload.length] ++ payload ++ after)) := by
          rw [hrest, hemits]
          simp [lineBytes, ReceiptElement.commandsAfter, ReceiptElement.commandsBefore, hpayload,
            ReceiptElement.printedBytes, ReceiptElement.printedLines]
        exact progress_barcode hready hpayload (not_lt.mp hsmall) hcommands
  | feed lines =>
      cases hrender
      exact progress_feed hready hbounded hrest
  | cut =>
      cases hrender
      exact progress_cut hready hrest

variable {paper : ReceiptWidth} {elements : List ReceiptElement} {parts : List (List UInt8)}

/-- What the checks and the texts of a receipt say of its operations. -/
structure Encodable (lib : Libraries) (paper : ReceiptWidth) (element : ReceiptElement) :
    Prop where
  bounded : element.Bounded
  printable : ∀ c ∈ (element.printedLines lib (columns paper)).flatten, isPrintableText c = true

/-- **Some operations are read back**, one after the other. -/
lemma progress_elements (hready : p.Ready)
    (hparts : List.Forall₂
      (fun element bytes => renderElement lib (columns paper) element = .ok bytes) elements parts)
    (hencodable : ∀ element ∈ elements, Encodable lib paper element)
    (hreadable : ∀ element ∈ elements, element.Readable)
    (hrest : p.rest = parts.flatten ++ after) :
    ∃ q, Progress p q after ((deviceOperations elements).map ReceiptElement.rounded)
      (feedLines elements + (elements.map (ReceiptElement.emptyLines lib (columns paper))).sum) := by
  induction hparts generalizing p with
  | nil => exact ⟨p, .refl, hrest, hready, rfl, (List.append_nil _).symm, rfl⟩
  | @cons element bytes elements parts hhead _ ih =>
      have hfirst := hencodable element List.mem_cons_self
      rw [List.flatten_cons, List.append_assoc] at hrest
      rcases progress_element hready hfirst.bounded (hreadable element List.mem_cons_self)
        hfirst.printable hhead hrest with ⟨q, hq⟩
      rcases ih hq.ready (fun other hother => hencodable other (List.mem_cons_of_mem _ hother))
        (fun other hother => hreadable other (List.mem_cons_of_mem _ hother)) hq.rest with
        ⟨r, hr⟩
      refine ⟨r, ?_⟩
      have hboth := hq.trans hr
      have hdevices : (deviceOperations (element :: elements)).map ReceiptElement.rounded =
          (deviceOperations [element]).map ReceiptElement.rounded ++
            (deviceOperations elements).map ReceiptElement.rounded := by
        rw [← List.map_append, ← deviceOperations_append, List.singleton_append]
      have hfeeds : feedLines (element :: elements) +
          ((element :: elements).map (ReceiptElement.emptyLines lib (columns paper))).sum =
          element.feeds + element.emptyLines lib (columns paper) + (feedLines elements +
            (elements.map (ReceiptElement.emptyLines lib (columns paper))).sum) := by
        simp only [feedLines, List.map_cons, List.sum_cons]
        omega
      rw [hdevices, hfeeds]
      exact hboth

/-! ## Streams -/

/-- The parser at the beginning of a stream, after the reset. -/
lemma progress_start (paper : ReceiptWidth) (bytes : List UInt8) :
    ∃ q, Progress (.start ([esc, 0x40] ++ bytes) paper) q bytes [] 0 :=
  progress_reset ⟨rfl, rfl, rfl, rfl⟩ rfl

/-- A QR code that is too long is where the interpreter gives up. -/
lemma step_unreadable (hready : p.Ready) {value : String}
    (hbounded : (ReceiptElement.qr value).Bounded)
    (hlong : ¬ (ReceiptElement.qr value).Readable)
    (hrest : p.rest = (ReceiptElement.qr value).commandsBefore.flatten ++ after) :
    ∃ q failure, Parser.Advances p q ∧ q.rest ≠ [] ∧ q.stopped = false ∧
      q.step = .error failure := by
  have hbytes := length_encode_le hbounded
  have hover : maxQrBytes < (encode value.toList).length := not_le.mp hlong
  simp only [ReceiptElement.commandsBefore, List.flatten_cons, List.flatten_nil,
    List.append_nil, List.append_assoc] at hrest
  rcases progress_symbol 4 [49, 65, 50, 0] hready hrest (by simp) with ⟨p₁, h₁⟩
  rcases progress_symbol 3 [49, 67, 6] h₁.ready h₁.rest (by simp) with ⟨p₂, h₂⟩
  rcases progress_symbol 3 [49, 69, 49] h₂.ready h₂.rest (by simp) with ⟨p₃, h₃⟩
  have hbegun : p₃.begun.rest = 0x6b :: _ := rest_begun h₃.rest
  have hrefused := parseQrCommand_error p₃.offset hbegun
    (by rw [toNat_lowByte_highByte (by omega)]; omega)
  refine ⟨p₃, _, ((h₁.trans h₂).trans h₃).advances, ?_, h₃.ready.going,
    (step_qr h₃.ready h₃.rest).trans hrefused⟩
  rw [h₃.rest]
  simp

/-- The interpreter fails on a stream with such a code. -/
lemma interpret_unreadable (before : List ReceiptElement) (element : ReceiptElement)
    (rest : List ReceiptElement)
    (hparts : List.Forall₂
      (fun element bytes => renderElement lib (columns paper) element = .ok bytes)
      (before ++ element :: rest) parts)
    (hencodable : ∀ other ∈ before ++ element :: rest, Encodable lib paper other)
    (hbefore : ∀ other ∈ before, other.Readable) (hunreadable : ¬ element.Readable) :
    ∃ failure, interpret ([esc, 0x40] ++ parts.flatten) paper = .error failure := by
  rcases forall₂_split hparts with ⟨first, bytes, last, rfl, hfirst, hrender⟩
  rcases progress_start paper (first ++ bytes :: last).flatten with ⟨p, hstart⟩
  have hrest : p.rest = first.flatten ++ (bytes ++ last.flatten) := by
    rw [hstart.rest, List.flatten_append, List.flatten_cons]
  rcases progress_elements hstart.ready hfirst
    (fun other hother => hencodable other (List.mem_append_left _ hother)) hbefore hrest with
    ⟨q, hq⟩
  have hbounded := (hencodable element (by simp)).bounded
  cases element with
  | qr value =>
      have hbytes := renderElement_emits hrender
      simp only [ReceiptElement.printedBytes, ReceiptElement.printedLines, lineBytes,
        List.flatMap_nil, ReceiptElement.commandsAfter, List.flatten_nil, List.append_nil] at hbytes
      rcases step_unreadable hq.ready hbounded hunreadable (by rw [hq.rest, hbytes]) with
        ⟨r, failure, hadvances, hne, hgoing, hstep⟩
      refine ⟨failure, ?_⟩
      rw [interpret, Parser.finish_of_error ((hstart.trans hq).advances.trans hadvances) hne hgoing
        hstep]
      rfl
  | _ => exact absurd trivial hunreadable

/-- The first operation that does not have a property, if there is one. -/
lemma forall_or_split {α : Type} {P : α → Prop} (items : List α) :
    (∀ item ∈ items, P item) ∨
      ∃ before item after, items = before ++ item :: after ∧ (∀ other ∈ before, P other) ∧
        ¬ P item := by
  induction items with
  | nil => exact Or.inl (by simp)
  | cons item items ih =>
      by_cases hitem : P item
      · rcases ih with hall | ⟨before, other, after, rfl, hbefore, hother⟩
        · exact Or.inl (by simpa [hitem] using hall)
        · exact Or.inr ⟨item :: before, other, after, rfl, by simpa [hitem] using hbefore, hother⟩
      · exact Or.inr ⟨[], item, items, rfl, by simp, hitem⟩

/-- **What the interpreter makes of a receipt.**  The stream of a layout that was obtained from a
valid document, whose texts and rows contain only printable ASCII and line feeds, is read back
exactly when the QR codes of the document have no more than 4096 bytes. -/
theorem inverts_iff {document : PrintDocument} {layout : PrintLayout} {bytes : List UInt8}
    (hprintable : ∀ item ∈ document.sections, IsPrintable item)
    (hlayout : PrintLayout.fromDocument lib document = .ok layout)
    (hrender : renderLayout lib layout = .ok bytes) :
    Inverts lib layout bytes ↔
      ∀ value, .qr value ∈ document.sections → value.utf8ByteSize ≤ maxQrBytes := by
  rcases fromDocument_eq_ok.mp hlayout with ⟨-, hwidth, helements⟩
  simp only [renderLayout, bind_eq_ok, pure_eq_ok, mapM_eq_ok] at hrender
  rcases hrender with ⟨parts, hparts, rfl⟩
  have hencodable : ∀ element ∈ layout.elements, Encodable lib layout.width element := by
    intro element hmem
    rcases exists_of_forall₂ helements hmem with ⟨item, hitem, hsection⟩
    exact ⟨bounded_of_fromDocument hlayout element hmem, fun c hc =>
      mem_printedLines (hprintable item hitem) hsection hc⟩
  have hreadable : (∀ element ∈ layout.elements, element.Readable) ↔
      ∀ value, .qr value ∈ document.sections → value.utf8ByteSize ≤ maxQrBytes := by
    have hsize : ∀ value : String, (encode value.toList).length = value.utf8ByteSize := by
      intro value
      rw [length_encode, utf8ByteSize_eq_sum]
    constructor
    · intro hall value hmem
      rcases exists_of_forall₂' helements hmem with ⟨element, helement, hsection⟩
      cases hsection
      exact (hsize value).symm.trans_le (hall _ helement)
    · intro hall element hmem
      rcases exists_of_forall₂ helements hmem with ⟨item, hitem, hsection⟩
      cases item with
      | qr value =>
          cases hsection
          exact (hsize value).trans_le (hall value hitem)
      | image mediaType data =>
          simp only [ReceiptElement.fromSection, bind_eq_ok, pure_eq_ok] at hsection
          rcases hsection with ⟨_, -, rfl⟩
          trivial
      | _ =>
          cases hsection
          trivial
  rw [← hreadable]
  constructor
  · rintro ⟨result, hresult, -⟩
    by_contra hnot
    rcases (forall_or_split layout.elements).resolve_left hnot with
      ⟨before, element, rest, hsplit, hbefore, hunreadable⟩
    rw [hsplit] at hparts hencodable
    rcases interpret_unreadable before element rest hparts hencodable hbefore hunreadable with ⟨failure, hfailure⟩
    rw [hfailure] at hresult
    cases hresult
  · intro hall
    rcases progress_start layout.width parts.flatten with ⟨p, hstart⟩
    have hrest : p.rest = parts.flatten ++ [] := by rw [hstart.rest, List.append_nil]
    rcases progress_elements hstart.ready hparts hencodable hall hrest with ⟨q, hq⟩
    have hwhole := hstart.trans hq
    refine ⟨_, interpret_of_advances hwhole.advances hwhole.rest hwhole.ready.text
      hwhole.ready.going, hwhole.ready.supported, ?_, ?_, hwhole.ready.counted⟩
    · exact hwhole.devices
    · have hfeeds := hwhole.feeds
      rw [Nat.zero_add] at hfeeds
      rw [hfeeds]
      exact Nat.zero_add _

namespace Sample

/-- A text of 2049 characters, which are 4098 bytes. -/
def longText : String := String.ofList (List.replicate 2049 'é')

/-- A receipt with such a QR code. -/
def longCode : PrintDocument := ⟨.mm58, [.qr longText]⟩

end Sample

/-- The code units of a text that repeats one character. -/
lemma utf16Length_replicate (n : ℕ) (c : Char) :
    utf16Length (String.ofList (List.replicate n c)) = n * utf16Size c := by
  rw [utf16Length, String.toList_ofList, List.map_replicate]
  exact List.sum_replicate_nat

/-- The bytes of a text that repeats one character. -/
lemma length_encode_replicate (n : ℕ) (c : Char) :
    (encode (List.replicate n c)).length = n * c.utf8Size := by
  induction n with
  | zero => exact (Nat.zero_mul _).symm
  | succ n ih =>
      rw [List.replicate_succ, encode_cons, List.length_append, ih, String.length_utf8EncodeChar,
        Nat.succ_mul]
      omega

/-- A receipt of one text is read back. -/
theorem inverts_plain :
    (∀ item ∈ (Sample.receipt "Total 9.00").sections, IsPrintable item) ∧
      PrintLayout.fromDocument Sample.libraries (Sample.receipt "Total 9.00") =
        .ok ⟨.mm58, [.text "Total 9.00" .left false, .cut]⟩ ∧
      renderLayout Sample.libraries ⟨.mm58, [.text "Total 9.00" .left false, .cut]⟩ =
        .ok Sample.receiptBytes ∧
      (Inverts Sample.libraries ⟨.mm58, [.text "Total 9.00" .left false, .cut]⟩
          Sample.receiptBytes ↔
        ∀ value, .qr value ∈ (Sample.receipt "Total 9.00").sections →
          value.utf8ByteSize ≤ maxQrBytes) := by
  have hprintable : ∀ item ∈ (Sample.receipt "Total 9.00").sections, IsPrintable item := by
    intro item hitem
    rcases List.mem_cons.mp hitem with rfl | hcut
    · have hall : "Total 9.00".toList.all isPrintableText = true := by decide +kernel
      exact List.all_eq_true.mp hall
    · rw [List.mem_singleton.mp hcut]
      trivial
  have hlayout : PrintLayout.fromDocument Sample.libraries (Sample.receipt "Total 9.00") =
      .ok ⟨.mm58, [.text "Total 9.00" .left false, .cut]⟩ := by
    decide +kernel
  have hrender : renderLayout Sample.libraries ⟨.mm58, [.text "Total 9.00" .left false, .cut]⟩ =
      .ok Sample.receiptBytes := by
    decide +kernel
  exact ⟨hprintable, hlayout, hrender, inverts_iff hprintable hlayout hrender⟩

/-- **A QR code of 2049 characters is printed, and cannot be read back**: the protocol counts its
UTF-16 code units, the interpreter its bytes. -/
theorem long_code_unreadable :
    ¬ ∀ (lib : Libraries) (document : PrintDocument) (layout : PrintLayout) (bytes : List UInt8),
      (∀ item ∈ document.sections, IsPrintable item) →
        PrintLayout.fromDocument lib document = .ok layout → renderLayout lib layout = .ok bytes →
          Inverts lib layout bytes := by
  intro hall
  have hunits : utf16Length Sample.longText = 2049 :=
    (utf16Length_replicate 2049 'é').trans (Nat.mul_one 2049)
  have htwo : 2049 * 'é'.utf8Size = 4098 := rfl
  have hchars : Sample.longText.toList = List.replicate 2049 'é' := String.toList_ofList
  have hbytes : (encode Sample.longText.toList).length = 4098 :=
    (congrArg (fun cs => (encode cs).length) hchars).trans
      ((length_encode_replicate 2049 'é').trans htwo)
  have hcode : (PrintSection.qr Sample.longText).validate = .ok () := by
    simp only [PrintSection.validate, validateString, hunits]
    decide
  have hvalid : Sample.longCode.validate = .ok () := by
    show validateEach (fun index item => item.validate.within ("sections." ++ toString index)) 0
      [PrintSection.qr Sample.longText] = .ok ()
    rw [validateEach_eq_ok]
    intro index hlt
    rw [within_eq_ok, List.getElem_singleton]
    exact hcode
  have hlayout : PrintLayout.fromDocument Sample.libraries Sample.longCode =
      .ok ⟨.mm58, [.qr Sample.longText]⟩ :=
    fromDocument_eq_ok.mpr ⟨hvalid, rfl, .cons rfl .nil⟩
  have hrender : renderLayout Sample.libraries ⟨.mm58, [.qr Sample.longText]⟩ =
      .ok ([esc, 0x40] ++ [renderQr Sample.longText].flatten) := rfl
  rcases hall _ _ _ _ (by simp [Sample.longCode, IsPrintable]) hlayout hrender with
    ⟨result, hresult, -⟩
  have hparts : List.Forall₂
      (fun element bytes => renderElement Sample.libraries (columns .mm58) element = .ok bytes)
      ([] ++ ReceiptElement.qr Sample.longText :: []) [renderQr Sample.longText] :=
    .cons rfl .nil
  have hencodable : ∀ other ∈ [] ++ ReceiptElement.qr Sample.longText :: [],
      Encodable Sample.libraries .mm58 other := by
    intro other hother
    refine ⟨bounded_of_fromDocument hlayout other hother, fun c hc => ?_⟩
    rw [List.mem_singleton.mp hother] at hc
    cases hc
  have hunreadable : ¬ (ReceiptElement.qr Sample.longText).Readable := by
    intro hreadable
    have hle : (encode Sample.longText.toList).length ≤ maxQrBytes := hreadable
    rw [hbytes] at hle
    exact absurd hle (by decide)
  rcases interpret_unreadable [] _ [] hparts hencodable (by simp) hunreadable with
    ⟨failure, hfailure⟩
  rw [hfailure] at hresult
  cases hresult

end Oppa.Renderer
