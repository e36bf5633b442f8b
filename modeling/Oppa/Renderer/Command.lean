import Oppa.Renderer.Prefix

/-!
# The commands of a stream

What a stream tells a printer, apart from how it is spelled: the commands it consists of, and what
each of them does to a printer.  The interpreter performs them one after another.

* `Command`, `readCommand`, `commands` — the commands of the supported subset, and those that a
  stream consists of.
* `Device`, `Command.perform` — a printer, with the settings that commands leave behind.
* **`outcome_step`** — a turn of the interpreter reads a command and performs it.
-/

namespace Oppa.Renderer

open Protocol Bytes Result Text

/-! ## Commands and their spelling -/

/-- An order to the printer, which ends a text and begins with ESC or GS. -/
inductive Order
  | initialise
  | align (alignment : TextAlignment)
  | embolden (bold : Bool)
  | feed (lines : UInt8)
  | image (raster : ReceiptImage)
  | symbolSetting
  | storeSymbol (value : String)
  | printSymbol
  | barcodeText (shown : Bool)
  | barcodeHeight (dots : UInt8)
  | barcode (format : BarcodeFormat) (value : String)
  | cut
  deriving DecidableEq, Repr

/-- A command of the supported subset. -/
inductive Command
  | print (byte : UInt8)
  | lineFeed
  | carriageReturn
  | order (order : Order)
  deriving DecidableEq, Repr

/-- An order with one operand, which may refuse it. -/
def readOperand (order : UInt8 → Option Order) : List UInt8 → Option (Order × List UInt8)
  | [] => none
  | value :: after => (order value).map (·, after)

/-- `ESC a`. -/
def alignOrder (value : UInt8) : Option Order :=
  if value = 0 then some (.align .left)
  else if value = 1 then some (.align .center)
  else if value = 2 then some (.align .right)
  else none

/-- `ESC E`. -/
def emboldenOrder (value : UInt8) : Option Order :=
  if value = 0 then some (.embolden false)
  else if value = 1 then some (.embolden true)
  else none

/-- An order that begins with ESC, behind that byte. -/
def readEscape : List UInt8 → Option (Order × List UInt8)
  | [] => none
  | second :: after =>
    if second = 0x40 then some (.initialise, after)
    else if second = 0x61 then readOperand alignOrder after
    else if second = 0x45 then readOperand emboldenOrder after
    else if second = 0x64 then
      readOperand (fun lines => if lines = 0 then none else some (.feed lines)) after
    else none

/-- A raster block, behind `GS v`. -/
def readImage : List UInt8 → Option (Order × List UInt8)
  | subcommand :: mode :: widthLow :: widthHigh :: heightLow :: heightHigh :: data =>
    let rowBytes := widthLow.toNat + 256 * widthHigh.toNat
    let height := heightLow.toNat + 256 * heightHigh.toNat
    if subcommand ≠ 0x30 ∨ mode ≠ 0 then none
    else if rowBytes = 0 ∨ height = 0 ∨ maxRasterBytes < rowBytes * height then none
    else if data.length < rowBytes * height then none
    else
      match ReceiptImage.fromMono (rowBytes * 8) height (data.take (rowBytes * height)) with
      | .ok raster => some (.image raster, data.drop (rowBytes * height))
      | .error _ => none
  | _ => none

/-- A function of a QR symbol, in its parameters. -/
def symbolOrder : List UInt8 → Option Order
  | first :: function :: parameter :: data =>
    if first ≠ 49 then none
    else if function = 65 ∧ parameter = 50 then some .symbolSetting
    else if function = 67 ∧ data = [] ∧ 1 ≤ parameter ∧ parameter ≤ 16 then some .symbolSetting
    else if function = 69 ∧ data = [] ∧ 48 ≤ parameter ∧ parameter ≤ 51 then some .symbolSetting
    else if function = 80 ∧ parameter = 48 then (decode data).map .storeSymbol
    else if function = 81 ∧ data = [] ∧ parameter = 48 then some .printSymbol
    else none
  | _ => none

/-- A QR command, behind `GS (`. -/
def readSymbol : List UInt8 → Option (Order × List UInt8)
  | function :: lengthLow :: lengthHigh :: data =>
    let length := lengthLow.toNat + 256 * lengthHigh.toNat
    if function ≠ 0x6b then none
    else if length = 0 ∨ maxQrBytes + 3 < length then none
    else if data.length < length then none
    else (symbolOrder (data.take length)).map (·, data.drop length)
  | _ => none

/-- A barcode, behind `GS k`. -/
def readBarcode : List UInt8 → Option (Order × List UInt8)
  | command :: length :: data =>
    if data.length < length.toNat then none
    else
      match Parser.symbology command (data.take length.toNat) with
      | .ok (format, content) =>
        (decode content).map fun value => (.barcode format value, data.drop length.toNat)
      | .error _ => none
  | _ => none

/-- An order that begins with GS, behind that byte. -/
def readGroupSeparator : List UInt8 → Option (Order × List UInt8)
  | [] => none
  | second :: after =>
    if second = 0x76 then readImage after
    else if second = 0x28 then readSymbol after
    else if second = 0x48 then
      readOperand (fun value => if 3 < value then none else some (.barcodeText (value ≠ 0))) after
    else if second = 0x68 then readOperand (fun value => some (.barcodeHeight value)) after
    else if second = 0x6b then readBarcode after
    else if second = 0x56 then
      readOperand (fun mode => if 1 < mode then none else some .cut) after
    else none

/-- The command that a stream begins with, and what is behind it. -/
def readCommand : List UInt8 → Option (Command × List UInt8)
  | [] => none
  | byte :: after =>
    if byte = esc then (readEscape after).map fun read => (.order read.1, read.2)
    else if byte = gs then (readGroupSeparator after).map fun read => (.order read.1, read.2)
    else if byte = lineFeed then some (.lineFeed, after)
    else if byte = 0x0d then some (.carriageReturn, after)
    else if 0x20 ≤ byte ∧ byte ≤ 0x7e then some (.print byte, after)
    else none

/-- The commands of a stream, with a number of them that it never exceeds. -/
def readCommands : ℕ → List UInt8 → Option (List Command)
  | _, [] => some []
  | 0, _ :: _ => none
  | turns + 1, byte :: bytes => do
    let (command, after) ← readCommand (byte :: bytes)
    let commands ← readCommands turns after
    return command :: commands

/-- The commands of a stream, when all of it is supported. -/
def commands (bytes : List UInt8) : Option (List Command) := readCommands bytes.length bytes

/-! ## What they do -/

/-- A printer: what it has printed, the line it is at, and its settings. -/
structure Device where
  width : ReceiptWidth
  elements : List ReceiptElement
  alignment : TextAlignment
  bold : Bool
  text : List UInt8
  qrPayload : Option String
  barcodeHeightDots : UInt8
  barcodeHri : Bool
  deriving DecidableEq, Repr

namespace Device

variable (d : Device)

/-- Prints an operation. -/
def push (element : ReceiptElement) : Device := { d with elements := d.elements ++ [element] }

/-- Prints what is at the current line, as a text. -/
def flush : Option Device :=
  if d.text = [] then some d
  else
    (decode d.text).map fun text =>
      ({ d with text := [] } : Device).push (.text text d.alignment d.bold)

/-- The operation that a finished line is. -/
def line (text : String) : ReceiptElement :=
  if text.utf8ByteSize = columns d.width ∧ text.toList.all (· = '-') then .divider
  else
    match splitEmittedRow text.toList with
    | some (left, right) => .row left right
    | none => .text text d.alignment d.bold

/-- Finishes the current line. -/
def endLine : Option Device :=
  if d.text = [] then some (d.push (.feed 1))
  else (decode d.text).map fun text => ({ d with text := [] } : Device).push (d.line text)

/-- What an order does. -/
def obey : Order → Option Device
  | .initialise => some { d with alignment := .left, bold := false, qrPayload := none }
  | .align alignment => some { d with alignment := alignment }
  | .embolden bold => some { d with bold := bold }
  | .feed lines => some (d.push (.feed lines))
  | .image raster => some (d.push (.image raster))
  | .symbolSetting => some d
  | .storeSymbol value => some { d with qrPayload := some value }
  | .printSymbol =>
    d.qrPayload.map fun value => ({ d with qrPayload := none } : Device).push (.qr value)
  | .barcodeText shown => some { d with barcodeHri := shown }
  | .barcodeHeight dots => some { d with barcodeHeightDots := dots }
  | .barcode format value =>
    some (d.push (.barcode format value d.barcodeHeightDots d.barcodeHri))
  | .cut => some (d.push .cut)

/-- What a command does. -/
def perform : Command → Option Device
  | .print byte =>
    if maxTextBytes < d.text.length + 1 then none else some { d with text := d.text ++ [byte] }
  | .lineFeed => d.endLine
  | .carriageReturn => some d
  | .order order => d.flush.bind (obey · order)

/-- What some commands do, one after another. -/
def performAll (commands : List Command) : Option Device :=
  commands.foldlM perform d

end Device

/-! ## The interpreter performs them -/

namespace Parser

variable {p q : Parser} {α : Type} {commandOffset : ℕ} {description : String}

/-- The printer that a parser plays. -/
def device (p : Parser) : Device where
  width := p.width
  elements := p.elements
  alignment := p.alignment
  bold := p.bold
  text := p.text
  qrPayload := p.qrPayload
  barcodeHeightDots := p.barcodeHeightDots
  barcodeHri := p.barcodeHri

/-- What a step leads to, unless it fails or stops. -/
def outcome : Parsed Parser → Option (List UInt8 × Device)
  | .ok q => if q.stopped then none else some (q.rest, q.device)
  | .error _ => none

@[simp] lemma outcome_error {failure : RendererError} : outcome (.error failure) = none := rfl

@[simp] lemma outcome_invalid {reason : String} :
    outcome (invalid commandOffset reason) = none := rfl

@[simp] lemma outcome_unsupported {reason : String} :
    outcome (pure (p.unsupported commandOffset reason)) = none := rfl

lemma outcome_ok (hgoing : q.stopped = false) : outcome (.ok q) = some (q.rest, q.device) := by
  rw [outcome, hgoing]
  rfl

/-- What an order does to a printer, beside what is left of the stream. -/
def performed (d : Device) (read : Option (Order × List UInt8)) :
    Option (List UInt8 × Device) :=
  read.bind fun order => (d.obey order.1).map (order.2, ·)

@[simp] lemma performed_none {d : Device} : performed d none = none := rfl

lemma outcome_takeByte {next : UInt8 × Parser → Parsed Parser} :
    outcome (p.takeByte commandOffset description >>= next) =
      match p.rest with
      | [] => none
      | value :: after =>
        outcome (next (value, { p with rest := after, offset := p.offset + 1 })) := by
  cases hrest : p.rest with
  | nil =>
      rw [takeByte, hrest]
      rfl
  | cons value after =>
      have htaken : p.takeByte commandOffset description =
          .ok (value, { p with rest := after, offset := p.offset + 1 }) := by
        simp [takeByte, hrest, skip]
      rw [htaken]
      rfl

lemma outcome_takePayload {length : ℕ} {next : List UInt8 × Parser → Parsed Parser} :
    outcome (p.takePayload length commandOffset description >>= next) =
      if p.rest.length < length then none
      else outcome (next (p.rest.take length,
        { p with rest := p.rest.drop length, offset := p.offset + length })) := by
  rw [takePayload]
  split <;> rfl

/-- An order with one operand. -/
lemma outcome_operand {order : UInt8 → Option Order} {next : UInt8 × Parser → Parsed Parser}
    (hnext : ∀ value after,
      outcome (next (value, { p with rest := after, offset := p.offset + 1 })) =
        performed p.device ((order value).map (·, after))) :
    outcome (p.takeByte commandOffset description >>= next) =
      performed p.device (readOperand order p.rest) := by
  rw [outcome_takeByte]
  cases p.rest with
  | nil => rfl
  | cons value after => exact hnext value after

lemma outcome_parseRasterImage (hgoing : p.stopped = false) :
    outcome (p.parseRasterImage commandOffset) = performed p.device (readImage p.rest) := by
  rw [parseRasterImage, outcome_takeByte]
  rcases p.rest with _ | ⟨subcommand, rest⟩
  · rfl
  dsimp only
  by_cases hsubcommand : subcommand ≠ 0x30
  · rw [if_pos hsubcommand, outcome_unsupported]
    rcases rest with _ | ⟨_, _ | ⟨_, _ | ⟨_, _ | ⟨_, _ | ⟨_, data⟩⟩⟩⟩⟩ <;>
      simp [readImage, hsubcommand]
  rw [if_neg hsubcommand, outcome_takeByte]
  rcases rest with _ | ⟨mode, rest⟩
  · rfl
  dsimp only
  by_cases hmode : mode ≠ 0
  · rw [if_pos hmode, outcome_unsupported]
    rcases rest with _ | ⟨_, _ | ⟨_, _ | ⟨_, _ | ⟨_, data⟩⟩⟩⟩ <;> simp [readImage, hmode]
  rw [if_neg hmode, outcome_takeByte]
  rcases rest with _ | ⟨widthLow, rest⟩
  · rfl
  dsimp only
  rw [outcome_takeByte]
  rcases rest with _ | ⟨widthHigh, rest⟩
  · rfl
  dsimp only
  rw [outcome_takeByte]
  rcases rest with _ | ⟨heightLow, rest⟩
  · rfl
  dsimp only
  rw [outcome_takeByte]
  rcases rest with _ | ⟨heightHigh, data⟩
  · rfl
  simp only [readImage, hsubcommand, hmode, or_self, if_false]
  split
  · rfl
  · rw [outcome_takePayload]
    dsimp only
    split
    · rfl
    · cases ReceiptImage.fromMono ((widthLow.toNat + 256 * widthHigh.toNat) * 8)
          (heightLow.toNat + 256 * heightHigh.toNat) (data.take _) with
      | error failure => rfl
      | ok image => exact outcome_ok hgoing

lemma outcome_symbolFunction {payload : List UInt8} (hgoing : p.stopped = false) :
    outcome (p.symbolFunction commandOffset payload) =
      performed p.device ((symbolOrder payload).map (·, p.rest)) := by
  unfold symbolFunction
  split
  · rename_i function parameter data
    simp only [symbolOrder, ne_eq, not_true_eq_false, if_false]
    by_cases h₁ : function = 65 ∧ parameter = 50
    · rw [if_pos h₁, if_pos h₁]
      exact outcome_ok hgoing
    rw [if_neg h₁, if_neg h₁]
    by_cases h₂ : function = 67 ∧ data = [] ∧ 1 ≤ parameter ∧ parameter ≤ 16
    · rw [if_pos h₂, if_pos h₂]
      exact outcome_ok hgoing
    rw [if_neg h₂, if_neg h₂]
    by_cases h₃ : function = 69 ∧ data = [] ∧ 48 ≤ parameter ∧ parameter ≤ 51
    · rw [if_pos h₃, if_pos h₃]
      exact outcome_ok hgoing
    rw [if_neg h₃, if_neg h₃]
    by_cases h₄ : function = 80 ∧ parameter = 48
    · rw [if_pos h₄, if_pos h₄]
      cases decode data with
      | none => rfl
      | some value => exact outcome_ok hgoing
    rw [if_neg h₄, if_neg h₄]
    by_cases h₅ : function = 81 ∧ data = [] ∧ parameter = 48
    · rw [if_pos h₅, if_pos h₅]
      cases hstored : p.qrPayload with
      | none => simp [performed, Device.obey, device, hstored, outcome, unsupported]
      | some value =>
          simp [performed, Device.obey, device, hstored, outcome, hgoing, push, Device.push]
    · rw [if_neg h₅, if_neg h₅]
      rfl
  · rename_i hother
    have hnone : symbolOrder payload = none := by
      simp only [symbolOrder]
      split
      · exact if_pos fun hfirst => hother _ _ _ (congrArg (· :: _) hfirst)
      · rfl
    rw [hnone]
    rfl

lemma outcome_parseQrCommand (hgoing : p.stopped = false) :
    outcome (p.parseQrCommand commandOffset) = performed p.device (readSymbol p.rest) := by
  rw [parseQrCommand, outcome_takeByte]
  rcases p.rest with _ | ⟨function, rest⟩
  · rfl
  dsimp only
  by_cases hfunction : function ≠ 0x6b
  · rw [if_pos hfunction, outcome_unsupported]
    rcases rest with _ | ⟨_, _ | ⟨_, data⟩⟩ <;> simp [readSymbol, hfunction]
  rw [if_neg hfunction, outcome_takeByte]
  rcases rest with _ | ⟨lengthLow, rest⟩
  · rfl
  dsimp only
  rw [outcome_takeByte]
  rcases rest with _ | ⟨lengthHigh, data⟩
  · rfl
  simp only [readSymbol, hfunction, if_false]
  split
  · rfl
  · rw [outcome_takePayload]
    dsimp only
    split
    · rfl
    · exact outcome_symbolFunction hgoing

lemma outcome_parseBarcode (hgoing : p.stopped = false) :
    outcome (p.parseBarcode commandOffset) = performed p.device (readBarcode p.rest) := by
  rw [parseBarcode, outcome_takeByte]
  rcases p.rest with _ | ⟨command, rest⟩
  · rfl
  dsimp only
  rw [outcome_takeByte]
  rcases rest with _ | ⟨length, data⟩
  · rfl
  dsimp only
  rw [outcome_takePayload]
  simp only [readBarcode]
  split
  · rfl
  · cases symbology command (data.take length.toNat) with
    | error reason => rfl
    | ok content =>
        dsimp only
        cases decode content.2 with
        | none => rfl
        | some value => exact outcome_ok hgoing

lemma outcome_flushText {next : Parser → Parsed Parser}
    {read : Option (Order × List UInt8)}
    (hnext : ∀ q, q.stopped = p.stopped → q.rest = p.rest →
      outcome (next q) = performed q.device read) :
    outcome (p.flushText >>= next) = p.device.flush.bind fun d => performed d read := by
  by_cases htext : p.text = []
  · rw [flushText, if_pos htext, Device.flush, if_pos (show p.device.text = [] from htext)]
    exact hnext p rfl rfl
  · rw [flushText, if_neg htext, Device.flush, if_neg (show ¬ p.device.text = [] from htext)]
    have hdevice : p.device.text = p.text := rfl
    rw [hdevice]
    cases decode p.text with
    | none => rfl
    | some text => exact hnext _ rfl rfl

/-- A turn begins with the text before the command. -/
lemma outcome_command {next : UInt8 × Parser → Parsed Parser}
    {read : List UInt8 → Option (Order × List UInt8)} {first : UInt8} {after : List UInt8}
    (hgoing : p.stopped = false) (hrest : p.rest = first :: after) (hend : read [] = none)
    (hnext : ∀ second q, q.stopped = false →
      outcome (next (second, q)) = performed q.device (read (second :: q.rest))) :
    outcome (p.command commandOffset description >>= next) =
      p.device.flush.bind fun d => performed d (read after) := by
  rw [command, bind_assoc]
  refine outcome_flushText fun q hstopped hsame => ?_
  rw [hrest] at hsame
  cases after with
  | nil =>
      rw [hsame, hend]
      rfl
  | cons second after =>
      have hbegun := hnext second
        { q.skip 2 with
          diagnostics :=
            { q.diagnostics with
              interpretedCommands := q.diagnostics.interpretedCommands + 1 } }
        (hstopped.trans hgoing)
      have hafter : (q.skip 2).rest = after := by simp [hsame]
      simp only [hsame]
      refine hbegun.trans ?_
      rw [hafter]
      rfl

lemma outcome_parseEscape {first : UInt8} {after : List UInt8} (hgoing : p.stopped = false)
    (hrest : p.rest = first :: after) :
    outcome (p.parseEscape commandOffset) =
      p.device.flush.bind fun d => performed d (readEscape after) := by
  refine outcome_command hgoing hrest rfl fun second q hgoing => ?_
  dsimp only [readEscape]
  by_cases h₁ : second = 0x40
  · rw [if_pos h₁, if_pos h₁]
    exact outcome_ok hgoing
  rw [if_neg h₁, if_neg h₁]
  by_cases h₂ : second = 0x61
  · rw [if_pos h₂, if_pos h₂]
    refine outcome_operand fun value after => ?_
    simp only [alignOrder]
    split
    · exact outcome_ok hgoing
    split
    · exact outcome_ok hgoing
    split
    · exact outcome_ok hgoing
    · rfl
  rw [if_neg h₂, if_neg h₂]
  by_cases h₃ : second = 0x45
  · rw [if_pos h₃, if_pos h₃]
    refine outcome_operand fun value after => ?_
    simp only [emboldenOrder]
    split
    · exact outcome_ok hgoing
    split
    · exact outcome_ok hgoing
    · rfl
  rw [if_neg h₃, if_neg h₃]
  by_cases h₄ : second = 0x64
  · rw [if_pos h₄, if_pos h₄]
    refine outcome_operand fun lines after => ?_
    dsimp only
    split
    · rfl
    · exact outcome_ok hgoing
  · rw [if_neg h₄, if_neg h₄]
    rfl

lemma outcome_parseGroupSeparator {first : UInt8} {after : List UInt8}
    (hgoing : p.stopped = false) (hrest : p.rest = first :: after) :
    outcome (p.parseGroupSeparator commandOffset) =
      p.device.flush.bind fun d => performed d (readGroupSeparator after) := by
  refine outcome_command hgoing hrest rfl fun second q hgoing => ?_
  dsimp only [readGroupSeparator]
  by_cases h₁ : second = 0x76
  · rw [if_pos h₁, if_pos h₁]
    exact outcome_parseRasterImage hgoing
  rw [if_neg h₁, if_neg h₁]
  by_cases h₂ : second = 0x28
  · rw [if_pos h₂, if_pos h₂]
    exact outcome_parseQrCommand hgoing
  rw [if_neg h₂, if_neg h₂]
  by_cases h₃ : second = 0x48
  · rw [if_pos h₃, if_pos h₃]
    refine outcome_operand fun value after => ?_
    dsimp only
    split
    · rfl
    · exact outcome_ok hgoing
  rw [if_neg h₃, if_neg h₃]
  by_cases h₄ : second = 0x68
  · rw [if_pos h₄, if_pos h₄]
    exact outcome_operand fun value after => outcome_ok hgoing
  rw [if_neg h₄, if_neg h₄]
  by_cases h₅ : second = 0x6b
  · rw [if_pos h₅, if_pos h₅]
    exact outcome_parseBarcode hgoing
  rw [if_neg h₅, if_neg h₅]
  by_cases h₆ : second = 0x56
  · rw [if_pos h₆, if_pos h₆]
    refine outcome_operand fun mode after => ?_
    dsimp only
    split
    · rfl
    · exact outcome_ok hgoing
  · rw [if_neg h₆, if_neg h₆]
    rfl

lemma outcome_finishTextLine (hgoing : p.stopped = false) :
    outcome p.finishTextLine = p.device.endLine.map (p.rest, ·) := by
  have hdevice : p.device.text = p.text := rfl
  by_cases htext : p.text = []
  · rw [finishTextLine, if_pos htext, Device.endLine, if_pos (hdevice.trans htext)]
    exact outcome_ok hgoing
  · rw [finishTextLine, if_neg htext, Device.endLine, hdevice, if_neg htext]
    cases decode p.text with
    | none => rfl
    | some text =>
        simp only [Option.map_some, Device.line]
        have hwidth : p.device.width = p.width := rfl
        rw [hwidth]
        split
        · exact outcome_ok hgoing
        · cases splitEmittedRow text.toList with
          | none => exact outcome_ok hgoing
          | some sides => exact outcome_ok hgoing

/-- **A turn reads a command and performs it.** -/
theorem outcome_step (hgoing : p.stopped = false) (hne : p.rest ≠ []) :
    outcome p.step = (readCommand p.rest).bind fun command =>
      (p.device.perform command.1).map (command.2, ·) := by
  rcases List.exists_cons_of_ne_nil hne with ⟨byte, after, hrest⟩
  have hskip : (p.skip 1).rest = after := by simp [hrest]
  have horder (read : Option (Order × List UInt8)) :
      (p.device.flush.bind fun d => performed d read) =
        (read.map fun read => (Command.order read.1, read.2)).bind fun command =>
          (p.device.perform command.1).map (command.2, ·) := by
    cases read with
    | none => cases p.device.flush <;> rfl
    | some read =>
        simp only [performed, Option.bind_some, Option.map_some, Device.perform]
        cases p.device.flush <;> rfl
  simp only [step, hrest, readCommand]
  by_cases hesc : byte = esc
  · rw [if_pos hesc, if_pos hesc, outcome_parseEscape hgoing hrest, horder]
  rw [if_neg hesc, if_neg hesc]
  by_cases hgs : byte = gs
  · rw [if_pos hgs, if_pos hgs, outcome_parseGroupSeparator hgoing hrest, horder]
  rw [if_neg hgs, if_neg hgs]
  by_cases hfeed : byte = lineFeed
  · rw [if_pos hfeed, if_pos hfeed, outcome_finishTextLine (p := p.skip 1) hgoing, hskip]
    rfl
  rw [if_neg hfeed, if_neg hfeed]
  by_cases hreturn : byte = 0x0d
  · rw [if_pos hreturn, if_pos hreturn]
    refine (outcome_ok (q := p.skip 1) hgoing).trans ?_
    rw [hskip]
    rfl
  rw [if_neg hreturn, if_neg hreturn]
  by_cases hprintable : 0x20 ≤ byte ∧ byte ≤ 0x7e
  · rw [if_pos hprintable, if_pos hprintable]
    simp only [Option.bind_some, Device.perform]
    have htext : p.device.text = p.text := rfl
    rw [htext]
    split
    · rfl
    · refine (outcome_ok (q := { p.skip 1 with text := p.text ++ [byte] }) hgoing).trans ?_
      show some ((p.skip 1).rest, _) = _
      rw [hskip]
      rfl
  · rw [if_neg hprintable, if_neg hprintable]
    rfl

end Parser

end Oppa.Renderer
