import Oppa.Renderer.EscPos

/-!
# The ESC/POS interpreter

The parser that reads a stream of printer commands back into the common layout.

* `Parser` — its state: the bytes that are left, the layout so far, the diagnostics, and the
  settings of the printer that commands change.
* `Parser.step` — one turn of its loop; `Parser.interpret` — the loop, until the stream ends or a
  command stops it.
* `Parser.rest_step` — every turn takes a byte, so that the loop ends.
* `Parser.Advances` — some turns in a row: **`interpret_of_advances`** says what the stream is
  interpreted as that they have read.
-/

namespace Oppa.Renderer

open Protocol Bytes Result Text

/-- Maximum bytes of one raster block. -/
def maxRasterBytes : ℕ := 2 * 1024 * 1024

/-- Maximum bytes of QR content. -/
def maxQrBytes : ℕ := 4096

/-- Maximum bytes of one text segment. -/
def maxTextBytes : ℕ := 256 * 1024

/-- A command the supported subset cannot reproduce safely. -/
structure UnsupportedEscPosCommand where
  offset : ℕ
  command : String
  deriving DecidableEq, Repr

/-- Semantic diagnostics collected while interpreting a stream. -/
structure EscPosDiagnostics where
  interpretedCommands : ℕ := 0
  textLines : ℕ := 0
  images : ℕ := 0
  qrCodes : ℕ := 0
  barcodes : ℕ := 0
  feedLines : ℕ := 0
  cutRequested : Bool := false
  unsupportedCommands : List UnsupportedEscPosCommand := []
  deriving DecidableEq, Repr

/-- The state of the parser. -/
structure Parser where
  /-- The bytes from `offset` on. -/
  rest : List UInt8
  offset : ℕ
  width : ReceiptWidth
  elements : List ReceiptElement
  diagnostics : EscPosDiagnostics
  alignment : TextAlignment
  bold : Bool
  text : List UInt8
  qrPayload : Option String
  barcodeHeightDots : UInt8
  barcodeHri : Bool
  stopped : Bool
  deriving DecidableEq, Repr

/-- The result of a step that fails when the stream is malformed. -/
abbrev Parsed := Except RendererError

/-- A hexadecimal digit in upper case. -/
def upperHexDigit (n : ℕ) : Char :=
  if n < 10 then Char.ofNat (48 + n) else Char.ofNat (55 + n)

/-- A byte as `0x` and two digits. -/
def hexByte (b : UInt8) : String :=
  "0x" ++ String.ofList [upperHexDigit (b.toNat / 16), upperHexDigit (b.toNat % 16)]

/-- `split_emitted_row`: the last gap of at least two blanks. -/
def lastGap (index : ℕ) (selected : Option (ℕ × ℕ)) : List Char → Option (ℕ × ℕ)
  | [] => selected
  | c :: cs =>
    if c ≠ ' ' then lastGap (index + 1) selected cs
    else
      let stop := index + 1 + (cs.takeWhile (· = ' ')).length
      lastGap stop (if 2 ≤ stop - index then some (index, stop) else selected)
        (cs.dropWhile (· = ' '))
termination_by cs => cs.length
decreasing_by
  · simp
  · exact Nat.lt_succ_of_le (List.length_dropWhile_le ..)

/-- `split_emitted_row`. -/
def splitEmittedRow (line : List Char) : Option (String × String) := do
  let (start, stop) ← lastGap 0 none line
  let left := ((line.take start).reverse.dropWhile isWhitespace).reverse
  let right := (line.drop stop).dropWhile isWhitespace
  if left = [] then none else some (String.ofList left, String.ofList right)

namespace Parser

/-- `Parser::new`. -/
def start (bytes : List UInt8) (width : ReceiptWidth) : Parser where
  rest := bytes
  offset := 0
  width := width
  elements := []
  diagnostics := {}
  alignment := .left
  bold := false
  text := []
  qrPayload := none
  barcodeHeightDots := 80
  barcodeHri := true
  stopped := false

variable (p : Parser)

/-- Moves over some bytes. -/
def skip (n : ℕ) : Parser := { p with rest := p.rest.drop n, offset := p.offset + n }

/-- Adds an operation to the layout. -/
def push (element : ReceiptElement) : Parser := { p with elements := p.elements ++ [element] }

/-- `unsupported`. -/
def unsupported (offset : ℕ) (command : String) : Parser :=
  { p with
    diagnostics :=
      { p.diagnostics with
        unsupportedCommands := p.diagnostics.unsupportedCommands ++ [⟨offset, command⟩] }
    stopped := true }

/-- `invalid`. -/
def invalid {α : Type} (offset : ℕ) (reason : String) : Parsed α :=
  .error (.invalidEscPos offset reason)

/-- `take_byte`. -/
def takeByte (commandOffset : ℕ) (description : String) : Parsed (UInt8 × Parser) :=
  match p.rest with
  | [] => invalid commandOffset ("truncated " ++ description)
  | value :: _ => .ok (value, p.skip 1)

/-- `take_payload`. -/
def takePayload (length commandOffset : ℕ) (description : String) :
    Parsed (List UInt8 × Parser) :=
  if p.rest.length < length then invalid commandOffset ("truncated " ++ description)
  else .ok (p.rest.take length, p.skip length)

/-- `flush_text(false)`. -/
def flushText : Parsed Parser :=
  if p.text = [] then .ok p
  else
    match decode p.text with
    | none => invalid p.offset "text bytes are not ASCII"
    | some text => .ok (({ p with text := [] } : Parser).push (.text text p.alignment p.bold))

/-- `finish_text_line`. -/
def finishTextLine : Parsed Parser :=
  if p.text = [] then
    .ok { p.push (.feed 1) with
      diagnostics := { p.diagnostics with feedLines := p.diagnostics.feedLines + 1 } }
  else
    match decode p.text with
    | none => invalid p.offset "text bytes are not ASCII"
    | some text =>
      let p : Parser :=
        { p with
          text := []
          diagnostics := { p.diagnostics with textLines := p.diagnostics.textLines + 1 } }
      if text.utf8ByteSize = columns p.width ∧ text.toList.all (· = '-') then .ok (p.push .divider)
      else
        match splitEmittedRow text.toList with
        | some (left, right) => .ok (p.push (.row left right))
        | none => .ok (p.push (.text text p.alignment p.bold))

/-- The beginning of every command: the text before it is finished, its second byte is read. -/
def command (commandOffset : ℕ) (description : String) : Parsed (UInt8 × Parser) := do
  let p ← p.flushText
  match p.rest with
  | _ :: second :: _ =>
    let p := p.skip 2
    return (second,
      { p with
        diagnostics :=
          { p.diagnostics with
            interpretedCommands := p.diagnostics.interpretedCommands + 1 } })
  | _ => invalid commandOffset description

/-- `parse_escape`. -/
def parseEscape (commandOffset : ℕ) : Parsed Parser := do
  let (second, p) ← p.command commandOffset "truncated ESC command"
  if second = 0x40 then
    return { p with alignment := .left, bold := false, qrPayload := none }
  else if second = 0x61 then
    let (value, p) ← p.takeByte commandOffset "alignment value"
    if value = 0 then return { p with alignment := .left }
    else if value = 1 then return { p with alignment := .center }
    else if value = 2 then return { p with alignment := .right }
    else return p.unsupported commandOffset ("ESC a alignment " ++ toString value.toNat)
  else if second = 0x45 then
    let (value, p) ← p.takeByte commandOffset "bold value"
    if value = 0 then return { p with bold := false }
    else if value = 1 then return { p with bold := true }
    else return p.unsupported commandOffset ("ESC E value " ++ toString value.toNat)
  else if second = 0x64 then
    let (lines, p) ← p.takeByte commandOffset "feed line count"
    if lines = 0 then return p.unsupported commandOffset "ESC d feed 0"
    else
      return { p.push (.feed lines) with
        diagnostics :=
          { p.diagnostics with feedLines := p.diagnostics.feedLines + lines.toNat } }
  else return p.unsupported commandOffset ("ESC " ++ hexByte second)

/-- `parse_raster_image`. -/
def parseRasterImage (commandOffset : ℕ) : Parsed Parser := do
  let (subcommand, p) ← p.takeByte commandOffset "raster subcommand"
  if subcommand ≠ 0x30 then
    return p.unsupported commandOffset ("GS v mode " ++ hexByte subcommand)
  else
    let (mode, p) ← p.takeByte commandOffset "raster mode"
    if mode ≠ 0 then
      return p.unsupported commandOffset ("GS v 0 mode " ++ toString mode.toNat)
    else
      let (widthLow, p) ← p.takeByte commandOffset "raster row width"
      let (widthHigh, p) ← p.takeByte commandOffset "raster row width"
      let (heightLow, p) ← p.takeByte commandOffset "raster height"
      let (heightHigh, p) ← p.takeByte commandOffset "raster height"
      let rowBytes := widthLow.toNat + 256 * widthHigh.toNat
      let height := heightLow.toNat + 256 * heightHigh.toNat
      if rowBytes = 0 ∨ height = 0 ∨ maxRasterBytes < rowBytes * height then
        invalid commandOffset "raster block exceeds its supported dimensions"
      else
        let (payload, p) ← p.takePayload (rowBytes * height) commandOffset "raster pixels"
        let image ← ReceiptImage.fromMono (rowBytes * 8) height payload
        return { p.push (.image image) with
          diagnostics := { p.diagnostics with images := p.diagnostics.images + 1 } }

/-- The functions of a QR symbol. -/
def symbolFunction (commandOffset : ℕ) (payload : List UInt8) : Parsed Parser :=
  match payload with
  | 49 :: function :: parameter :: data =>
    if function = 65 ∧ parameter = 50 then .ok p
    else if function = 67 ∧ data = [] ∧ 1 ≤ parameter ∧ parameter ≤ 16 then .ok p
    else if function = 69 ∧ data = [] ∧ 48 ≤ parameter ∧ parameter ≤ 51 then .ok p
    else if function = 80 ∧ parameter = 48 then
      match decode data with
      | none => invalid commandOffset "QR payload is not UTF-8"
      | some value => .ok { p with qrPayload := some value }
    else if function = 81 ∧ data = [] ∧ parameter = 48 then
      match p.qrPayload with
      | some value =>
        let p : Parser := { p with qrPayload := none }
        .ok { p.push (.qr value) with
          diagnostics := { p.diagnostics with qrCodes := p.diagnostics.qrCodes + 1 } }
      | none => .ok (p.unsupported commandOffset "QR print without stored data")
    else .ok (p.unsupported commandOffset ("QR function " ++ toString function.toNat))
  | _ => .ok (p.unsupported commandOffset "QR command has an unknown parameter prefix")

/-- `parse_qr_command`. -/
def parseQrCommand (commandOffset : ℕ) : Parsed Parser := do
  let (function, p) ← p.takeByte commandOffset "GS ( function"
  if function ≠ 0x6b then
    return p.unsupported commandOffset ("GS ( " ++ hexByte function)
  else
    let (lengthLow, p) ← p.takeByte commandOffset "QR payload length"
    let (lengthHigh, p) ← p.takeByte commandOffset "QR payload length"
    let length := lengthLow.toNat + 256 * lengthHigh.toNat
    if length = 0 ∨ maxQrBytes + 3 < length then
      invalid commandOffset "QR payload length exceeds its limit"
    else
      let (payload, p) ← p.takePayload length commandOffset "QR payload"
      p.symbolFunction commandOffset payload

/-- The symbology of a barcode command, and the content in its payload. -/
def symbology (command : UInt8) (payload : List UInt8) :
    Except String (BarcodeFormat × List UInt8) :=
  if command = 73 then
    match payload with
    | 0x7b :: 0x42 :: data => .ok (.code128, data)
    | _ => .error "Code 128 command must use the emitted set-B subset"
  else if command = 69 then .ok (.code39, payload)
  else if command = 67 then .ok (.ean13, payload)
  else if command = 65 then .ok (.upca, payload)
  else .error ("barcode type " ++ toString command.toNat)

/-- `parse_barcode`. -/
def parseBarcode (commandOffset : ℕ) : Parsed Parser := do
  let (command, p) ← p.takeByte commandOffset "barcode type"
  let (length, p) ← p.takeByte commandOffset "barcode length"
  let (payload, p) ← p.takePayload length.toNat commandOffset "barcode data"
  match symbology command payload with
  | .error reason => return p.unsupported commandOffset reason
  | .ok (format, data) =>
    match decode data with
    | none => invalid commandOffset "barcode data is not ASCII"
    | some value =>
      return { p.push (.barcode format value p.barcodeHeightDots p.barcodeHri) with
        diagnostics := { p.diagnostics with barcodes := p.diagnostics.barcodes + 1 } }

/-- `parse_group_separator`. -/
def parseGroupSeparator (commandOffset : ℕ) : Parsed Parser := do
  let (second, p) ← p.command commandOffset "truncated GS command"
  if second = 0x76 then p.parseRasterImage commandOffset
  else if second = 0x28 then p.parseQrCommand commandOffset
  else if second = 0x48 then
    let (value, p) ← p.takeByte commandOffset "barcode text mode"
    if 3 < value then
      return p.unsupported commandOffset ("GS H text mode " ++ toString value.toNat)
    else return { p with barcodeHri := value ≠ 0 }
  else if second = 0x68 then
    let (value, p) ← p.takeByte commandOffset "barcode height"
    return { p with barcodeHeightDots := value }
  else if second = 0x6b then p.parseBarcode commandOffset
  else if second = 0x56 then
    let (mode, p) ← p.takeByte commandOffset "cut mode"
    if 1 < mode then
      return p.unsupported commandOffset ("GS V cut mode " ++ toString mode.toNat)
    else
      return { p.push .cut with diagnostics := { p.diagnostics with cutRequested := true } }
  else return p.unsupported commandOffset ("GS " ++ hexByte second)

/-- One turn of the loop in `run`. -/
def step : Parsed Parser :=
  match p.rest with
  | [] => .ok p
  | byte :: _ =>
    if byte = esc then p.parseEscape p.offset
    else if byte = gs then p.parseGroupSeparator p.offset
    else if byte = lineFeed then (p.skip 1).finishTextLine
    else if byte = 0x0d then .ok (p.skip 1)
    else if 0x20 ≤ byte ∧ byte ≤ 0x7e then
      if maxTextBytes < p.text.length + 1 then
        invalid p.offset "text segment exceeds its limit"
      else .ok { p.skip 1 with text := p.text ++ [byte] }
    else
      .ok (p.unsupported p.offset
        ("non-printable byte " ++ hexByte byte ++ " outside a supported command"))

/-- The loop, with a number of turns that it never needs more than. -/
def run : ℕ → Parser → Parsed Parser
  | 0, p => .ok p
  | turns + 1, p => if p.rest = [] ∨ p.stopped = true then .ok p else p.step >>= run turns

/-- `Parser::run`: every turn takes a byte, so the length of the stream bounds their number. -/
def finish : Parsed Parser := do
  let p ← run p.rest.length p
  if p.stopped then return p else p.flushText

end Parser

/-- Result of interpreting the supported subset. -/
structure EscPosInterpretation where
  layout : PrintLayout
  diagnostics : EscPosDiagnostics
  deriving DecidableEq, Repr

/-- `EscPosInterpreter::interpret`. -/
def interpret (bytes : List UInt8) (width : ReceiptWidth) : Parsed EscPosInterpretation := do
  let p ← (Parser.start bytes width).finish
  return ⟨⟨p.width, p.elements⟩, p.diagnostics⟩

/-! ## Every turn takes a byte -/

namespace Parser

variable {p q : Parser} {commandOffset : ℕ} {description : String}

@[simp] lemma rest_skip {n : ℕ} : (p.skip n).rest = p.rest.drop n := rfl

@[simp] lemma rest_push {element : ReceiptElement} : (p.push element).rest = p.rest := rfl

@[simp] lemma rest_unsupported {offset : ℕ} {reason : String} :
    (p.unsupported offset reason).rest = p.rest := rfl

lemma rest_takeByte {value : UInt8} (h : p.takeByte commandOffset description = .ok (value, q)) :
    q.rest.length ≤ p.rest.length := by
  simp only [takeByte] at h
  split at h
  · cases h
  · cases h
    simp

lemma rest_takePayload {length : ℕ} {payload : List UInt8}
    (h : p.takePayload length commandOffset description = .ok (payload, q)) :
    q.rest.length ≤ p.rest.length := by
  simp only [takePayload] at h
  split at h
  · cases h
  · cases h
    simp

lemma rest_flushText (h : p.flushText = .ok q) : q.rest = p.rest := by
  simp only [flushText] at h
  split at h
  · cases h
    rfl
  · split at h
    · cases h
    · cases h
      rfl

lemma rest_finishTextLine (h : p.finishTextLine = .ok q) : q.rest = p.rest := by
  simp only [finishTextLine] at h
  split at h
  · cases h
    rfl
  · split at h
    · cases h
    · split at h
      · cases h
        rfl
      · split at h <;> · cases h; rfl

lemma rest_command {second : UInt8} (h : p.command commandOffset description = .ok (second, q)) :
    q.rest.length < p.rest.length := by
  simp only [command, bind_eq_ok] at h
  rcases h with ⟨flushed, hflush, h⟩
  split at h
  · rename_i hrest
    cases h
    rw [← rest_flushText hflush, hrest]
    simp only [rest_skip, hrest, List.drop_succ_cons, List.drop_zero, List.length_cons]
    omega
  · cases h

lemma rest_symbolFunction {payload : List UInt8}
    (h : p.symbolFunction commandOffset payload = .ok q) : q.rest = p.rest := by
  simp only [symbolFunction] at h
  repeat' split at h
  all_goals first | (cases h; rfl) | cases h

lemma rest_parseRasterImage (h : p.parseRasterImage commandOffset = .ok q) :
    q.rest.length ≤ p.rest.length := by
  simp only [parseRasterImage, bind_eq_ok] at h
  rcases h with ⟨⟨subcommand, p₁⟩, h₁, h⟩
  have hle₁ := rest_takeByte h₁
  split at h
  · cases h
    exact hle₁
  · rcases bind_eq_ok.mp h with ⟨⟨mode, p₂⟩, h₂, h⟩
    have hle₂ := rest_takeByte h₂
    split at h
    · cases h
      exact hle₂.trans hle₁
    · simp only [bind_eq_ok] at h
      rcases h with ⟨⟨_, p₃⟩, h₃, ⟨_, p₄⟩, h₄, ⟨_, p₅⟩, h₅, ⟨_, p₆⟩, h₆, h⟩
      have hle₆ := (rest_takeByte h₆).trans <| (rest_takeByte h₅).trans <|
        (rest_takeByte h₄).trans <| (rest_takeByte h₃).trans <| hle₂.trans hle₁
      split at h
      · cases h
      · simp only [bind_eq_ok] at h
        rcases h with ⟨⟨payload, p₇⟩, h₇, image, -, h⟩
        cases h
        exact (rest_takePayload h₇).trans hle₆

lemma rest_parseQrCommand (h : p.parseQrCommand commandOffset = .ok q) :
    q.rest.length ≤ p.rest.length := by
  simp only [parseQrCommand, bind_eq_ok] at h
  rcases h with ⟨⟨function, p₁⟩, h₁, h⟩
  have hle₁ := rest_takeByte h₁
  split at h
  · cases h
    exact hle₁
  · simp only [bind_eq_ok] at h
    rcases h with ⟨⟨_, p₂⟩, h₂, ⟨_, p₃⟩, h₃, h⟩
    have hle₃ := (rest_takeByte h₃).trans <| (rest_takeByte h₂).trans hle₁
    split at h
    · cases h
    · rcases bind_eq_ok.mp h with ⟨⟨payload, p₄⟩, h₄, h⟩
      rw [rest_symbolFunction h]
      exact (rest_takePayload h₄).trans hle₃

lemma rest_parseBarcode (h : p.parseBarcode commandOffset = .ok q) :
    q.rest.length ≤ p.rest.length := by
  simp only [parseBarcode, bind_eq_ok] at h
  rcases h with ⟨⟨_, p₁⟩, h₁, ⟨_, p₂⟩, h₂, ⟨payload, p₃⟩, h₃, h⟩
  have hle := (rest_takePayload h₃).trans <| (rest_takeByte h₂).trans (rest_takeByte h₁)
  split at h
  · cases h
    exact hle
  · split at h
    · cases h
    · cases h
      exact hle

lemma rest_parseEscape (h : p.parseEscape commandOffset = .ok q) :
    q.rest.length < p.rest.length := by
  simp only [parseEscape, bind_eq_ok] at h
  rcases h with ⟨⟨second, p₁⟩, h₁, h⟩
  refine lt_of_le_of_lt ?_ (rest_command h₁)
  split at h
  · cases h
    exact le_rfl
  · split at h
    · rcases bind_eq_ok.mp h with ⟨⟨value, p₂⟩, h₂, h⟩
      have hle := rest_takeByte h₂
      repeat' split at h
      all_goals cases h; exact hle
    · split at h
      · rcases bind_eq_ok.mp h with ⟨⟨value, p₂⟩, h₂, h⟩
        have hle := rest_takeByte h₂
        repeat' split at h
        all_goals cases h; exact hle
      · split at h
        · rcases bind_eq_ok.mp h with ⟨⟨value, p₂⟩, h₂, h⟩
          have hle := rest_takeByte h₂
          split at h <;> · cases h; exact hle
        · cases h
          exact le_rfl

lemma rest_parseGroupSeparator (h : p.parseGroupSeparator commandOffset = .ok q) :
    q.rest.length < p.rest.length := by
  simp only [parseGroupSeparator, bind_eq_ok] at h
  rcases h with ⟨⟨second, p₁⟩, h₁, h⟩
  refine lt_of_le_of_lt ?_ (rest_command h₁)
  split at h
  · exact rest_parseRasterImage h
  · split at h
    · exact rest_parseQrCommand h
    · split at h
      · rcases bind_eq_ok.mp h with ⟨⟨value, p₂⟩, h₂, h⟩
        have hle := rest_takeByte h₂
        split at h <;> · cases h; exact hle
      · split at h
        · rcases bind_eq_ok.mp h with ⟨⟨value, p₂⟩, h₂, h⟩
          have hle := rest_takeByte h₂
          cases h
          exact hle
        · split at h
          · exact rest_parseBarcode h
          · split at h
            · rcases bind_eq_ok.mp h with ⟨⟨value, p₂⟩, h₂, h⟩
              have hle := rest_takeByte h₂
              split at h <;> · cases h; exact hle
            · cases h
              exact le_rfl

/-- **A turn takes a byte**, unless it stops the parser. -/
theorem rest_step (hne : p.rest ≠ []) (hstep : p.step = .ok q) :
    q.stopped = true ∨ q.rest.length < p.rest.length := by
  rcases List.exists_cons_of_ne_nil hne with ⟨byte, after, hrest⟩
  have hskip : (p.skip 1).rest.length < p.rest.length := by simp [hrest]
  simp only [step, hrest] at hstep
  split at hstep
  · exact Or.inr (rest_parseEscape hstep)
  · split at hstep
    · exact Or.inr (rest_parseGroupSeparator hstep)
    · split at hstep
      · exact Or.inr (rest_finishTextLine hstep ▸ hskip)
      · split at hstep
        · cases hstep
          exact Or.inr hskip
        · split at hstep
          · split at hstep
            · cases hstep
            · cases hstep
              exact Or.inr hskip
          · cases hstep
            exact Or.inl rfl

/-! ## Turns in a row -/

/-- A turn of the loop. -/
def Turns (p q : Parser) : Prop := p.rest ≠ [] ∧ p.stopped = false ∧ p.step = .ok q

/-- Some turns in a row. -/
abbrev Advances : Parser → Parser → Prop := Relation.ReflTransGen Turns

lemma run_of_stopped (turns : ℕ) (hstopped : p.stopped = true) : run turns p = .ok p := by
  cases turns <;> simp [run, hstopped]

/-- The loop goes on where some turns have led to. -/
lemma run_of_advances (hadvances : Advances p q) :
    ∀ turns, p.rest.length ≤ turns → ∃ left, q.rest.length ≤ left ∧ run turns p = run left q := by
  induction hadvances using Relation.ReflTransGen.head_induction_on with
  | refl => exact fun turns hle => ⟨turns, hle, rfl⟩
  | @head p next hturn _ ih =>
      intro turns hle
      rcases hturn with ⟨hne, hgoing, hstep⟩
      have hpos : 0 < p.rest.length := List.length_pos_iff.mpr hne
      cases turns with
      | zero => omega
      | succ turns =>
          have hrun : run (turns + 1) p = run turns next := by
            simp only [run, hne, hgoing, Bool.false_eq_true, or_self, if_false, hstep]
            rfl
          rw [hrun]
          rcases rest_step hne hstep with hstopped | hlt
          · rw [run_of_stopped _ hstopped, ← run_of_stopped next.rest.length hstopped]
            exact ih _ le_rfl
          · exact ih turns (by omega)

/-- A stream that was read to its end. -/
lemma finish_of_advances (hadvances : Advances p q) (hend : q.rest = []) (htext : q.text = [])
    (hgoing : q.stopped = false) : p.finish = .ok q := by
  rcases run_of_advances hadvances p.rest.length le_rfl with ⟨left, -, hrun⟩
  have hlast : run left q = .ok q := by
    cases left <;> simp [run, hend]
  rw [finish, hrun, hlast]
  show (if q.stopped = true then pure q else q.flushText) = _
  rw [hgoing, flushText, htext]
  rfl

/-- A stream in which a turn fails. -/
lemma finish_of_error (hadvances : Advances p q) (hne : q.rest ≠ []) (hgoing : q.stopped = false)
    {failure : RendererError} (hstep : q.step = .error failure) : p.finish = .error failure := by
  rcases run_of_advances hadvances p.rest.length le_rfl with ⟨left, hle, hrun⟩
  have hpos : 0 < q.rest.length := List.length_pos_iff.mpr hne
  cases left with
  | zero => omega
  | succ left =>
      have hlast : run (left + 1) q = .error failure := by
        simp only [run, hne, hgoing, Bool.false_eq_true, or_self, if_false, hstep]
        rfl
      rw [finish, hrun, hlast]
      rfl

end Parser

/-- **What is read by turns of the loop** is what the stream is interpreted as. -/
theorem interpret_of_advances {bytes : List UInt8} {width : ReceiptWidth} {q : Parser}
    (hadvances : Parser.Advances (.start bytes width) q) (hend : q.rest = []) (htext : q.text = [])
    (hgoing : q.stopped = false) :
    interpret bytes width = .ok ⟨⟨q.width, q.elements⟩, q.diagnostics⟩ := by
  rw [interpret, Parser.finish_of_advances hadvances hend htext hgoing]
  rfl

end Oppa.Renderer
