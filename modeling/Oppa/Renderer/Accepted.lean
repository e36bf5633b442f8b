import Oppa.Foundation.Loops
import Oppa.Renderer.Command

/-!
# Streams that are accepted

A stream is accepted when the interpreter reads it to its end without an error and finds no command
that it does not support.

* `Reported` — the parser has stopped exactly when it has reported an unsupported command; every
  function of the parser keeps it.
* `Accepts` — what a caller sees of a stream that is accepted.
* **`accepts_iff`** — a stream is accepted exactly when its commands can be performed one after
  another; its layout is what the printer has printed then.
-/

namespace Oppa.Renderer

open Protocol Bytes Result Text

namespace Parser

/-! ## A parser that has stopped has said why -/

/-- The parser has stopped exactly when it has reported an unsupported command. -/
def Reported (p : Parser) : Prop :=
  p.stopped = true ↔ p.diagnostics.unsupportedCommands ≠ []

variable {α : Type} {p q : Parser} {commandOffset : ℕ} {description : String}

/-- A parser beside a value. -/
abbrev ReportedBeside (read : α × Parser) : Prop := read.2.Reported

lemma reported_unsupported {reason : String} :
    Loops.Keeps Reported Reported fun p : Parser =>
      (pure (p.unsupported commandOffset reason) : Parsed Parser) := by
  refine .pure fun p _ => ?_
  simp [Reported, unsupported]

/-- A step that neither stops nor reports. -/
lemma reported_setting {f : Parser → Parser} (hstopped : ∀ p, (f p).stopped = p.stopped)
    (hsame : ∀ p, (f p).diagnostics.unsupportedCommands = p.diagnostics.unsupportedCommands) :
    Loops.Keeps Reported Reported fun p : Parser => (pure (f p) : Parsed Parser) := by
  refine .pure fun p hp => ?_
  rw [Reported, hstopped, hsame]
  exact hp

lemma reported_takeByte :
    Loops.Keeps Reported ReportedBeside fun p : Parser => p.takeByte commandOffset description := by
  rintro p ⟨value, q⟩ hp h
  simp only [takeByte] at h
  split at h <;> cases h
  exact hp

lemma reported_takePayload {length : ℕ} :
    Loops.Keeps Reported ReportedBeside fun p : Parser =>
      p.takePayload length commandOffset description := by
  rintro p ⟨payload, q⟩ hp h
  simp only [takePayload] at h
  split at h <;> cases h
  exact hp

lemma reported_flushText : Loops.Keeps Reported Reported flushText := by
  intro p q hp h
  simp only [flushText] at h
  repeat' split at h
  all_goals first | (cases h; exact hp) | cases h

lemma reported_finishTextLine : Loops.Keeps Reported Reported finishTextLine := by
  intro p q hp h
  simp only [finishTextLine] at h
  repeat' split at h
  all_goals first | (cases h; exact hp) | cases h

lemma reported_command :
    Loops.Keeps Reported ReportedBeside fun p : Parser => p.command commandOffset description := by
  refine reported_flushText.bind ?_
  rintro p ⟨second, q⟩ hp h
  dsimp only at h
  split at h <;> cases h
  exact hp

lemma reported_symbolFunction {payload : List UInt8} :
    Loops.Keeps Reported Reported fun p : Parser => p.symbolFunction commandOffset payload := by
  intro p q hp h
  simp only [symbolFunction] at h
  repeat' split at h
  all_goals first | cases h
  all_goals first | exact hp | simp [Reported, unsupported]

lemma reported_parseRasterImage :
    Loops.Keeps Reported Reported fun p : Parser => p.parseRasterImage commandOffset := by
  refine reported_takeByte.bind (.beside fun subcommand => .ite reported_unsupported ?_)
  refine reported_takeByte.bind (.beside fun mode => .ite reported_unsupported ?_)
  refine reported_takeByte.bind (.beside fun widthLow => ?_)
  refine reported_takeByte.bind (.beside fun widthHigh => ?_)
  refine reported_takeByte.bind (.beside fun heightLow => ?_)
  refine reported_takeByte.bind (.beside fun heightHigh => .ite .error ?_)
  refine reported_takePayload.bind (.beside fun payload => ?_)
  dsimp only
  cases ReceiptImage.fromMono ((widthLow.toNat + 256 * widthHigh.toNat) * 8)
      (heightLow.toNat + 256 * heightHigh.toNat) payload with
  | error failure => exact .error
  | ok image => exact reported_setting (fun _ => rfl) fun _ => rfl

lemma reported_parseQrCommand :
    Loops.Keeps Reported Reported fun p : Parser => p.parseQrCommand commandOffset := by
  refine reported_takeByte.bind (.beside fun function => .ite reported_unsupported ?_)
  refine reported_takeByte.bind (.beside fun lengthLow => ?_)
  refine reported_takeByte.bind (.beside fun lengthHigh => .ite .error ?_)
  exact reported_takePayload.bind (.beside fun payload => reported_symbolFunction)

lemma reported_parseBarcode :
    Loops.Keeps Reported Reported fun p : Parser => p.parseBarcode commandOffset := by
  refine reported_takeByte.bind (.beside fun command => ?_)
  refine reported_takeByte.bind (.beside fun length => ?_)
  refine reported_takePayload.bind (.beside fun payload => ?_)
  dsimp only
  cases symbology command payload with
  | error reason => exact reported_unsupported
  | ok content =>
      dsimp only
      cases decode content.2 with
      | none => exact .error
      | some value => exact reported_setting (fun _ => rfl) fun _ => rfl

lemma reported_parseEscape :
    Loops.Keeps Reported Reported fun p : Parser => p.parseEscape commandOffset := by
  refine reported_command.bind (.beside fun second => ?_)
  refine .ite (reported_setting (fun _ => rfl) fun _ => rfl) (.ite ?_ (.ite ?_ (.ite ?_ ?_)))
  · refine reported_takeByte.bind (.beside fun value => ?_)
    refine .ite (reported_setting (fun _ => rfl) fun _ => rfl) ?_
    refine .ite (reported_setting (fun _ => rfl) fun _ => rfl) ?_
    exact .ite (reported_setting (fun _ => rfl) fun _ => rfl) reported_unsupported
  · refine reported_takeByte.bind (.beside fun value => ?_)
    refine .ite (reported_setting (fun _ => rfl) fun _ => rfl) ?_
    exact .ite (reported_setting (fun _ => rfl) fun _ => rfl) reported_unsupported
  · refine reported_takeByte.bind (.beside fun lines => .ite reported_unsupported ?_)
    exact reported_setting (fun _ => rfl) fun _ => rfl
  · exact reported_unsupported

lemma reported_parseGroupSeparator :
    Loops.Keeps Reported Reported fun p : Parser => p.parseGroupSeparator commandOffset := by
  refine reported_command.bind (.beside fun second => ?_)
  refine .ite reported_parseRasterImage (.ite reported_parseQrCommand (.ite ?_ (.ite ?_ ?_)))
  · refine reported_takeByte.bind (.beside fun value => .ite reported_unsupported ?_)
    exact reported_setting (fun _ => rfl) fun _ => rfl
  · refine reported_takeByte.bind (.beside fun value => ?_)
    exact reported_setting (fun _ => rfl) fun _ => rfl
  · refine .ite reported_parseBarcode (.ite ?_ reported_unsupported)
    refine reported_takeByte.bind (.beside fun mode => .ite reported_unsupported ?_)
    exact reported_setting (fun _ => rfl) fun _ => rfl

lemma reported_step : Loops.Keeps Reported Reported step := by
  intro p q hp h
  simp only [step] at h
  split at h
  · cases h
    exact hp
  split at h
  · exact reported_parseEscape p q hp h
  split at h
  · exact reported_parseGroupSeparator p q hp h
  split at h
  · exact reported_finishTextLine (p.skip 1) q hp h
  split at h
  · cases h
    exact hp
  split at h
  · split at h <;> cases h
    exact hp
  · exact reported_unsupported p q hp h

lemma reported_of_advances (hp : p.Reported) (hadvances : Advances p q) : q.Reported := by
  induction hadvances with
  | refl => exact hp
  | tail _ hturn ih => exact reported_step _ _ ih hturn.2.2

lemma reported_start {bytes : List UInt8} {width : ReceiptWidth} :
    (start bytes width).Reported := by
  simp [Reported, start]

/-! ## The loop performs the commands of the stream -/

lemma outcome_eq_some {d : Device} {after : List UInt8} {result : Parsed Parser} :
    outcome result = some (after, d) ↔
      ∃ q, result = .ok q ∧ q.stopped = false ∧ q.rest = after ∧ q.device = d := by
  cases result with
  | error failure => simp
  | ok q => cases hstopped : q.stopped <;> simp [outcome, hstopped]

/-- The text at the end of a stream is printed as the printer prints it. -/
lemma flushText_ok (h : p.flushText = .ok q) :
    p.device.flush = some q.device ∧ q.diagnostics = p.diagnostics := by
  have htext : p.device.text = p.text := rfl
  simp only [flushText] at h
  simp only [Device.flush, htext]
  split at h
  · rename_i hempty
    cases h
    exact ⟨if_pos hempty, rfl⟩
  · rename_i hne
    rw [if_neg hne]
    split at h
    · cases h
    · rename_i text hdecode
      cases h
      rw [hdecode]
      exact ⟨rfl, rfl⟩

lemma exists_flushText {e : Device} (h : p.device.flush = some e) : ∃ q, p.flushText = .ok q := by
  have htext : p.device.text = p.text := rfl
  simp only [Device.flush, htext] at h
  simp only [flushText]
  split at h
  · rename_i hempty
    exact ⟨p, if_pos hempty⟩
  · rename_i hne
    rw [if_neg hne]
    rcases Option.map_eq_some_iff.mp h with ⟨text, hdecode, -⟩
    rw [hdecode]
    exact ⟨_, rfl⟩

/-- A loop that fails or stops goes no further. -/
lemma outcome_bind_run {turns : ℕ} {result : Parsed Parser} (hnone : outcome result = none) :
    outcome (result >>= run turns) = none := by
  cases result with
  | error failure => rfl
  | ok q =>
      cases hstopped : q.stopped with
      | false => simp [outcome, hstopped] at hnone
      | true =>
          show outcome (run turns q) = none
          rw [run_of_stopped _ hstopped]
          exact hnone

/-- **The loop performs the commands of the stream**, one after another. -/
lemma outcome_run {turns : ℕ} : ∀ {p}, p.stopped = false → p.rest.length ≤ turns →
    outcome (run turns p) = (readCommands turns p.rest).bind fun commands =>
      (p.device.performAll commands).map (([] : List UInt8), ·) := by
  induction turns with
  | zero =>
      intro p hgoing hle
      have hend : p.rest = [] := List.length_eq_zero_iff.mp (Nat.le_zero.mp hle)
      rw [run, outcome_ok hgoing, hend]
      rfl
  | succ turns ih =>
      intro p hgoing hle
      cases hrest : p.rest with
      | nil =>
          have hrun : run (turns + 1) p = .ok p := by simp [run, hrest]
          rw [hrun, outcome_ok hgoing, hrest]
          rfl
      | cons byte after =>
          have hne : p.rest ≠ [] := by simp [hrest]
          have hrun : run (turns + 1) p = p.step >>= run turns := by simp [run, hne, hgoing]
          have hturn := outcome_step hgoing hne
          rw [hrest] at hturn
          rw [hrun, readCommands]
          cases hread : readCommand (byte :: after) with
          | none =>
              rw [hread] at hturn
              exact outcome_bind_run hturn
          | some command =>
              rw [hread, Option.bind_some] at hturn
              simp only [Option.bind_eq_bind, Option.bind_some]
              cases hperform : p.device.perform command.1 with
              | none =>
                  rw [hperform] at hturn
                  rw [outcome_bind_run hturn]
                  cases readCommands turns command.2 with
                  | none => rfl
                  | some cs => simp [Device.performAll, hperform]
              | some d =>
                  rw [hperform, Option.map_some] at hturn
                  rcases outcome_eq_some.mp hturn with ⟨q, hstep, hgoing', hafter, rfl⟩
                  have hlt : q.rest.length < p.rest.length :=
                    (rest_step hne hstep).resolve_left (by simp [hgoing'])
                  have hcontinue : p.step >>= run turns = run turns q := by rw [hstep]; rfl
                  rw [hcontinue, ih hgoing' (by omega), hafter]
                  cases readCommands turns command.2 with
                  | none => rfl
                  | some cs => simp [Device.performAll, hperform]

end Parser

/-! ## What a caller sees -/

/-- **A stream is accepted**, and this is its layout. -/
def Accepts (bytes : List UInt8) (width : ReceiptWidth) (layout : PrintLayout) : Prop :=
  ∃ diagnostics, interpret bytes width = .ok ⟨layout, diagnostics⟩ ∧
    diagnostics.unsupportedCommands = []

/-- A printer that is switched on. -/
def Device.start (width : ReceiptWidth) : Device where
  width := width
  elements := []
  alignment := .left
  bold := false
  text := []
  qrPayload := none
  barcodeHeightDots := 80
  barcodeHri := true

/-- A stream is accepted when the loop reads it to its end, and the text that is left then can be
printed. -/
lemma accepts_iff_outcome {bytes : List UInt8} {width : ReceiptWidth} {layout : PrintLayout} :
    Accepts bytes width layout ↔ ∃ d e,
      Parser.outcome (Parser.run bytes.length (.start bytes width)) = some ([], d) ∧
        d.flush = some e ∧ layout = ⟨e.width, e.elements⟩ := by
  constructor
  · rintro ⟨diagnostics, hinterpret, hsupported⟩
    simp only [interpret, Parser.finish, bind_eq_ok, pure_eq_ok] at hinterpret
    rcases hinterpret with ⟨r, ⟨q, hrun, hfinish⟩, hresult⟩
    obtain ⟨rfl, rfl⟩ := EscPosInterpretation.mk.inj hresult
    have hreported := Parser.reported_of_advances Parser.reported_start
      (Parser.advances_of_run hrun)
    cases hstopped : q.stopped with
    | true =>
        rw [if_pos hstopped, pure_eq_ok] at hfinish
        subst hfinish
        exact absurd hsupported (hreported.mp hstopped)
    | false =>
        rw [if_neg (by simp [hstopped])] at hfinish
        have hend : q.rest = [] :=
          (Parser.ended_of_run le_rfl hrun).resolve_right (by simp [hstopped])
        refine ⟨q.device, r.device, ?_, (Parser.flushText_ok hfinish).1, rfl⟩
        rw [show Parser.run bytes.length (.start bytes width) = .ok q from hrun,
          Parser.outcome_ok hstopped, hend]
  · rintro ⟨d, e, houtcome, hflush, rfl⟩
    rcases Parser.outcome_eq_some.mp houtcome with ⟨q, hrun, hgoing, -, rfl⟩
    rcases Parser.exists_flushText hflush with ⟨r, hr⟩
    obtain ⟨hdevice, hsame⟩ := Parser.flushText_ok hr
    obtain rfl : r.device = e := Option.some.inj (hdevice.symm.trans hflush)
    have hreported := Parser.reported_of_advances Parser.reported_start
      (Parser.advances_of_run hrun)
    refine ⟨r.diagnostics, ?_, ?_⟩
    · have hrun' : Parser.run (Parser.start bytes width).rest.length (.start bytes width) = .ok q :=
        hrun
      simp only [interpret, Parser.finish, hrun']
      show (do let p ← (if q.stopped = true then pure q else q.flushText); pure _) = _
      rw [if_neg (by simp [hgoing]), hr]
      rfl
    · rw [hsame]
      by_contra hne
      rw [hreported.mpr hne] at hgoing
      cases hgoing

/-- **A stream is accepted** exactly when its commands can be performed one after another, and the
text they leave can be printed. -/
theorem accepts_iff {bytes : List UInt8} {width : ReceiptWidth} {layout : PrintLayout} :
    Accepts bytes width layout ↔ ∃ cs d e, commands bytes = some cs ∧
      (Device.start width).performAll cs = some d ∧ d.flush = some e ∧
        layout = ⟨e.width, e.elements⟩ := by
  have hloop : Parser.outcome (Parser.run bytes.length (.start bytes width)) =
      (commands bytes).bind fun cs =>
        ((Device.start width).performAll cs).map (([] : List UInt8), ·) :=
    Parser.outcome_run rfl le_rfl
  rw [accepts_iff_outcome, hloop]
  constructor
  · rintro ⟨d, e, houtcome, hflush, hlayout⟩
    rcases Option.bind_eq_some_iff.mp houtcome with ⟨cs, hcs, hperform⟩
    rcases Option.map_eq_some_iff.mp hperform with ⟨d', hperform', hd⟩
    obtain ⟨-, rfl⟩ := Prod.mk.inj hd
    exact ⟨cs, d', e, hcs, hperform', hflush, hlayout⟩
  · rintro ⟨cs, d, e, hcs, hperform, hflush, hlayout⟩
    refine ⟨d, e, ?_, hflush, hlayout⟩
    rw [hcs, Option.bind_some, hperform]
    rfl

/-! ## One stream behind another -/

namespace Parser

open Source (append)

variable {p q : Parser} {b : List UInt8}

/-- More bytes behind a stream change no turn that does not stop. -/
lemma Turns.extend (hturn : Turns p q) (hgoing : q.stopped = false) :
    Turns (append b p) (append b q) := by
  rcases hturn with ⟨hne, hgoing', hstep⟩
  rcases List.exists_cons_of_ne_nil hne with ⟨byte, after, hrest⟩
  refine ⟨by simp [append, hrest], hgoing', ?_⟩
  show step { p with rest := p.rest ++ b } = .ok { q with rest := q.rest ++ b }
  rcases step_local hrest hstep with ⟨taken, rfl, -, hagain⟩ | ⟨reason, rfl, -⟩
  · rw [hrest, List.cons_append, List.append_assoc]
    exact hagain (q.rest ++ b)
  · cases hgoing

lemma Advances.extend (hadvances : Advances p q) (hgoing : q.stopped = false) :
    Advances (append b p) (append b q) := by
  induction hadvances with
  | refl => exact .refl
  | tail _ hturn ih => exact (ih hturn.2.1).tail (hturn.extend hgoing)

/-- The loop reads one stream after another, and the printer keeps what the first has set. -/
lemma outcome_append {a : List UInt8} {width : ReceiptWidth}
    (hadvances : Advances (start a width) q) (hgoing : q.stopped = false) (hend : q.rest = []) :
    outcome (run (a ++ b).length (start (a ++ b) width)) =
      (commands b).bind fun cs => (q.device.performAll cs).map (([] : List UInt8), ·) := by
  have hrest : (append b q).rest = b := by
    show q.rest ++ b = b
    rw [hend, List.nil_append]
  rcases run_of_advances (Advances.extend (b := b) hadvances hgoing) (a ++ b).length le_rfl with
    ⟨left, hle, hrun⟩
  have hstart : append b (start a width) = start (a ++ b) width := rfl
  rw [← hstart, hrun, run_eq_of_le hle (le_of_eq (congrArg List.length hrest)),
    outcome_run (p := append b q) hgoing (le_of_eq (congrArg List.length hrest)), hrest]
  rfl

end Parser

end Oppa.Renderer
