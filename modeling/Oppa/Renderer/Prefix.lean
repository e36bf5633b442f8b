import Oppa.Foundation.Source
import Oppa.Renderer.Interpreter

/-!
# Bytes behind an unknown command

The interpreter stops at a command it does not support, since it cannot know how many bytes the
command takes.  No byte behind it may then be printed as text.

* `step_local` — a turn of the loop depends on the bytes it takes, or on the one byte that stops it.
* `Ends` — the loop ends: every turn advances, stops or fails.
* `StopsWithin` — the loop stops at an unsupported command that lies in the first bytes.
* **`interpret_stops`** — the loop ends, and what is behind an unsupported command has no influence
  on the layout and the diagnostics.
-/

namespace Oppa.Renderer

open Protocol Bytes Result Text
open Source (Local leave append)

namespace Parser

/-- A parser holds the bytes that are left. -/
instance : Source Parser UInt8 where
  rest p := p.rest
  position p := p.offset
  leave bs p := { p with rest := bs }
  rest_leave _ _ := rfl
  position_leave _ _ := rfl
  leave_leave _ _ _ := rfl
  leave_rest _ := rfl

variable {p q : Parser} {commandOffset : ℕ} {description : String}

@[simp] lemma source_rest : Source.rest p = p.rest := rfl

/-! ## Commands depend on what they take -/

lemma local_takeByte : Local fun p : Parser => p.takeByte commandOffset description := by
  rintro p ⟨value, q⟩ h
  simp only [takeByte] at h
  split at h
  · cases h
  · rename_i after hrest
    cases h
    exact ⟨[value], by simp [hrest], rfl, fun after => rfl⟩

lemma local_takePayload {length : ℕ} :
    Local fun p : Parser => p.takePayload length commandOffset description := by
  rintro p ⟨payload, q⟩ h
  simp only [takePayload] at h
  split at h
  · cases h
  · rename_i hlong
    cases h
    have hlength : (p.rest.take length).length = length := List.length_take_of_le (by omega)
    refine ⟨p.rest.take length, (List.take_append_drop ..).symm, ?_, fun after => ?_⟩
    · show p.offset + length = p.offset + _
      rw [hlength]
    · simp only [takePayload, leave, List.length_append, hlength]
      rw [if_neg (by omega), List.take_left' hlength]
      simp [skip, List.drop_left' hlength]

lemma local_flushText : Local flushText := by
  refine .aside (fun p q h => ⟨rest_flushText h, ?_⟩) (fun bs p q h => ?_)
  · simp only [flushText] at h
    repeat' split at h
    all_goals first | (cases h; rfl) | cases h
  simp only [flushText] at h
  show flushText { p with rest := bs } = .ok { q with rest := bs }
  simp only [flushText]
  split at h
  · rename_i htext
    cases h
    rw [if_pos htext]
  · rename_i htext
    rw [if_neg htext]
    split at h
    · cases h
    · cases h
      rfl

lemma local_finishTextLine : Local finishTextLine := by
  refine .aside (fun p q h => ⟨rest_finishTextLine h, ?_⟩) (fun bs p q h => ?_)
  · simp only [finishTextLine] at h
    repeat' split at h
    all_goals first | (cases h; rfl) | cases h
  simp only [finishTextLine] at h
  show finishTextLine { p with rest := bs } = .ok { q with rest := bs }
  simp only [finishTextLine]
  split at h
  · rename_i htext
    cases h
    rw [if_pos htext]
    rfl
  · rename_i htext
    rw [if_neg htext]
    split at h
    · cases h
    · split at h
      · rename_i hdivider
        cases h
        rw [if_pos hdivider]
        rfl
      · rename_i hdivider
        rw [if_neg hdivider]
        split at h <;> · cases h; rfl

lemma local_command : Local fun p : Parser => p.command commandOffset description := by
  refine local_flushText.bind ?_
  rintro p ⟨second, q⟩ h
  dsimp only at h
  split at h
  · rename_i hrest
    cases h
    exact ⟨[_, second], by simp [hrest]; rfl, rfl, fun after => rfl⟩
  · cases h

/-- A change of what is neither the input nor decides how it is read. -/
lemma local_setting {f : Parser → Parser} (hrest : ∀ p, (f p).rest = p.rest)
    (hoffset : ∀ p, (f p).offset = p.offset)
    (hleave : ∀ bs p, f (leave bs p) = leave bs (f p)) :
    Local fun p : Parser => (pure (f p) : Parsed Parser) :=
  .pure hrest hoffset hleave

lemma local_unsupported {reason : String} :
    Local fun p : Parser => (pure (p.unsupported commandOffset reason) : Parsed Parser) :=
  local_setting (fun _ => rfl) (fun _ => rfl) fun _ _ => rfl

lemma local_symbolFunction {payload : List UInt8} :
    Local fun p : Parser => p.symbolFunction commandOffset payload := by
  have hunsupported {reason : String} :
      Local fun p : Parser => (.ok (p.unsupported commandOffset reason) : Parsed Parser) :=
    local_unsupported
  simp only [symbolFunction]
  split
  · rename_i function parameter data
    refine .ite (.pure (fun _ => rfl) (fun _ => rfl) fun _ _ => rfl) ?_
    refine .ite (.pure (fun _ => rfl) (fun _ => rfl) fun _ _ => rfl) ?_
    refine .ite (.pure (fun _ => rfl) (fun _ => rfl) fun _ _ => rfl) ?_
    refine .ite ?_ (.ite ?_ hunsupported)
    · cases decode data with
      | none => exact .error
      | some value => exact .pure (fun _ => rfl) (fun _ => rfl) fun _ _ => rfl
    · intro p q h
      refine ⟨[], ?_, ?_, fun after => ?_⟩
      · cases hstored : p.qrPayload <;> simp only [hstored] at h <;> cases h <;> rfl
      · cases hstored : p.qrPayload <;> simp only [hstored] at h <;> cases h <;> rfl
      · have hsame : (leave ([] ++ after) p).qrPayload = p.qrPayload := rfl
        beta_reduce
        rw [hsame]
        cases hstored : p.qrPayload <;> simp only [hstored] at h <;> cases h <;> rfl
  · exact hunsupported

lemma local_parseRasterImage : Local fun p : Parser => p.parseRasterImage commandOffset := by
  refine local_takeByte.bind (.beside fun subcommand => .ite local_unsupported ?_)
  refine local_takeByte.bind (.beside fun mode => .ite local_unsupported ?_)
  refine local_takeByte.bind (.beside fun widthLow => ?_)
  refine local_takeByte.bind (.beside fun widthHigh => ?_)
  refine local_takeByte.bind (.beside fun heightLow => ?_)
  refine local_takeByte.bind (.beside fun heightHigh => .ite .error ?_)
  refine local_takePayload.bind (.beside fun payload => ?_)
  dsimp only
  cases ReceiptImage.fromMono ((widthLow.toNat + 256 * widthHigh.toNat) * 8)
      (heightLow.toNat + 256 * heightHigh.toNat) payload with
  | error failure => exact .error
  | ok image => exact local_setting (fun _ => rfl) (fun _ => rfl) fun _ _ => rfl

lemma local_parseQrCommand : Local fun p : Parser => p.parseQrCommand commandOffset := by
  refine local_takeByte.bind (.beside fun function => .ite local_unsupported ?_)
  refine local_takeByte.bind (.beside fun lengthLow => ?_)
  refine local_takeByte.bind (.beside fun lengthHigh => .ite .error ?_)
  exact local_takePayload.bind (.beside fun payload => local_symbolFunction)

lemma local_parseBarcode : Local fun p : Parser => p.parseBarcode commandOffset := by
  refine local_takeByte.bind (.beside fun command => ?_)
  refine local_takeByte.bind (.beside fun length => ?_)
  refine local_takePayload.bind (.beside fun payload => ?_)
  dsimp only
  cases symbology command payload with
  | error reason => exact local_unsupported
  | ok content =>
      dsimp only
      cases decode content.2 with
      | none => exact .error
      | some value => exact local_setting (fun _ => rfl) (fun _ => rfl) fun _ _ => rfl

lemma local_parseEscape : Local fun p : Parser => p.parseEscape commandOffset := by
  refine local_command.bind (.beside fun second => ?_)
  refine .ite (local_setting (fun _ => rfl) (fun _ => rfl) fun _ _ => rfl) ?_
  refine .ite ?_ (.ite ?_ (.ite ?_ ?_))
  · refine local_takeByte.bind (.beside fun value => ?_)
    refine .ite (local_setting (fun _ => rfl) (fun _ => rfl) fun _ _ => rfl) ?_
    refine .ite (local_setting (fun _ => rfl) (fun _ => rfl) fun _ _ => rfl) ?_
    exact .ite (local_setting (fun _ => rfl) (fun _ => rfl) fun _ _ => rfl) local_unsupported
  · refine local_takeByte.bind (.beside fun value => ?_)
    refine .ite (local_setting (fun _ => rfl) (fun _ => rfl) fun _ _ => rfl) ?_
    exact .ite (local_setting (fun _ => rfl) (fun _ => rfl) fun _ _ => rfl) local_unsupported
  · refine local_takeByte.bind (.beside fun lines => .ite local_unsupported ?_)
    exact local_setting (fun _ => rfl) (fun _ => rfl) fun _ _ => rfl
  · exact local_unsupported

lemma local_parseGroupSeparator : Local fun p : Parser => p.parseGroupSeparator commandOffset := by
  refine local_command.bind (.beside fun second => ?_)
  refine .ite local_parseRasterImage (.ite local_parseQrCommand (.ite ?_ (.ite ?_ ?_)))
  · refine local_takeByte.bind (.beside fun value => .ite local_unsupported ?_)
    exact local_setting (fun _ => rfl) (fun _ => rfl) fun _ _ => rfl
  · refine local_takeByte.bind (.beside fun value => ?_)
    exact local_setting (fun _ => rfl) (fun _ => rfl) fun _ _ => rfl
  · refine .ite local_parseBarcode (.ite ?_ local_unsupported)
    refine local_takeByte.bind (.beside fun mode => .ite local_unsupported ?_)
    exact local_setting (fun _ => rfl) (fun _ => rfl) fun _ _ => rfl

/-! ## Turns depend on what they take -/

/-- A command that begins with a byte takes that byte. -/
private lemma taken_of_local {f : Parser → Parsed Parser} (hlocal : Local f)
    (hshorter : ∀ q, f p = .ok q → q.rest.length < p.rest.length) {byte : UInt8}
    {after : List UInt8} (hrest : p.rest = byte :: after) (h : f p = .ok q) :
    ∃ taken, after = taken ++ q.rest ∧ q.offset = p.offset + (taken.length + 1) ∧
      ∀ other, f { p with rest := byte :: (taken ++ other) } = .ok { q with rest := other } := by
  rcases hlocal p q h with ⟨taken, htaken, hmoved, hafter⟩
  have hlt := hshorter q h
  simp only [source_rest] at htaken
  rw [hrest] at htaken hlt
  cases taken with
  | nil =>
      rw [List.nil_append] at htaken
      rw [htaken] at hlt
      exact absurd hlt (lt_irrefl _)
  | cons head taken =>
      obtain ⟨rfl, htail⟩ := List.cons.inj htaken
      exact ⟨taken, htail, hmoved, hafter⟩

/-- **What a turn depends on**: the bytes it takes, or the one byte that stops it. -/
lemma step_local {byte : UInt8} {after : List UInt8} (hrest : p.rest = byte :: after)
    (hstep : p.step = .ok q) :
    (∃ taken, after = taken ++ q.rest ∧ q.offset = p.offset + (taken.length + 1) ∧
      ∀ other, step { p with rest := byte :: (taken ++ other) } = .ok { q with rest := other }) ∨
    ∃ reason, q = p.unsupported p.offset reason ∧
      ∀ other, step { p with rest := byte :: other } =
        .ok { q with rest := byte :: other } := by
  simp only [step, hrest] at hstep
  by_cases hesc : byte = esc
  · rw [if_pos hesc] at hstep
    refine Or.inl ?_
    rcases taken_of_local local_parseEscape (fun q => rest_parseEscape) hrest hstep with
      ⟨taken, htaken, hmoved, hafter⟩
    refine ⟨taken, htaken, hmoved, fun other => ?_⟩
    simp only [step, if_pos hesc]
    exact hafter other
  rw [if_neg hesc] at hstep
  by_cases hgs : byte = gs
  · rw [if_pos hgs] at hstep
    refine Or.inl ?_
    rcases taken_of_local local_parseGroupSeparator (fun q => rest_parseGroupSeparator) hrest
      hstep with ⟨taken, htaken, hmoved, hafter⟩
    refine ⟨taken, htaken, hmoved, fun other => ?_⟩
    simp only [step, if_neg hesc, if_pos hgs]
    exact hafter other
  rw [if_neg hgs] at hstep
  by_cases hfeed : byte = lineFeed
  · rw [if_pos hfeed] at hstep
    refine Or.inl ?_
    rcases local_finishTextLine _ _ hstep with ⟨taken, htaken, hmoved, hafter⟩
    simp only [source_rest, rest_skip, hrest, List.drop_succ_cons, List.drop_zero] at htaken
    refine ⟨taken, htaken, ?_, fun other => ?_⟩
    · refine hmoved.trans ?_
      show p.offset + 1 + taken.length = _
      omega
    · simp only [step, if_neg hesc, if_neg hgs, if_pos hfeed]
      exact hafter other
  rw [if_neg hfeed] at hstep
  by_cases hreturn : byte = 0x0d
  · rw [if_pos hreturn] at hstep
    cases hstep
    refine Or.inl ⟨[], by simp [hrest], rfl, fun other => ?_⟩
    simp only [step, if_neg hesc, if_neg hgs, if_neg hfeed, if_pos hreturn]
    rfl
  rw [if_neg hreturn] at hstep
  by_cases hprintable : 0x20 ≤ byte ∧ byte ≤ 0x7e
  · rw [if_pos hprintable] at hstep
    split at hstep
    · cases hstep
    · rename_i hlimit
      cases hstep
      refine Or.inl ⟨[], by simp [hrest], rfl, fun other => ?_⟩
      simp only [step, if_neg hesc, if_neg hgs, if_neg hfeed, if_neg hreturn, if_pos hprintable,
        if_neg hlimit]
      rfl
  · rw [if_neg hprintable] at hstep
    cases hstep
    refine Or.inr ⟨_, rfl, fun other => ?_⟩
    simp only [step, if_neg hesc, if_neg hgs, if_neg hfeed, if_neg hreturn, if_neg hprintable]
    rfl

/-! ## The loop ends -/

/-- A turn moves the parser forward in the stream, or stops it. -/
lemma Turns.advance (hturn : Turns p q) :
    p.offset ≤ q.offset ∧ q.offset + q.rest.length = p.offset + p.rest.length ∧
      (q.stopped = true ∨ p.offset < q.offset) := by
  rcases hturn with ⟨hne, -, hstep⟩
  rcases List.exists_cons_of_ne_nil hne with ⟨byte, after, hrest⟩
  rcases step_local hrest hstep with ⟨taken, rfl, hmoved, -⟩ | ⟨reason, rfl, -⟩
  · rw [hrest, hmoved, List.length_cons, List.length_append]
    exact ⟨by omega, by omega, Or.inr (by omega)⟩
  · exact ⟨le_rfl, rfl, Or.inl rfl⟩

/-- The parser stays in the stream. -/
lemma Advances.position (hadvances : Advances p q) :
    p.offset ≤ q.offset ∧ q.offset + q.rest.length = p.offset + p.rest.length := by
  induction hadvances with
  | refl => exact ⟨le_rfl, rfl⟩
  | tail _ hturn ih => exact ⟨ih.1.trans hturn.advance.1, hturn.advance.2.1.trans ih.2⟩

/-- What the loop returns is where some turns lead to. -/
lemma advances_of_run {turns : ℕ} : ∀ {p}, run turns p = .ok q → Advances p q := by
  induction turns with
  | zero =>
      intro p h
      cases h
      exact .refl
  | succ turns ih =>
      intro p h
      rw [run] at h
      split at h
      · cases h
        exact .refl
      · rename_i hgoing
        rw [not_or, Bool.not_eq_true] at hgoing
        rcases bind_eq_ok.mp h with ⟨next, hstep, hrun⟩
        exact .head ⟨hgoing.1, hgoing.2, hstep⟩ (ih hrun)

/-- The length of the stream is enough turns. -/
lemma run_eq_of_le {turns : ℕ} : ∀ {p more}, p.rest.length ≤ turns → p.rest.length ≤ more →
    run turns p = run more p := by
  induction turns with
  | zero =>
      intro p more hle _
      have hend : p.rest = [] := List.length_eq_zero_iff.mp (Nat.le_zero.mp hle)
      cases more <;> simp [run, hend]
  | succ turns ih =>
      intro p more hle hmore
      cases more with
      | zero =>
          have hend : p.rest = [] := List.length_eq_zero_iff.mp (Nat.le_zero.mp hmore)
          simp [run, hend]
      | succ more =>
          simp only [run]
          split
          · rfl
          · rename_i hgoing
            rw [not_or, Bool.not_eq_true] at hgoing
            cases hstep : p.step with
            | error failure => rfl
            | ok next =>
                show run turns next = run more next
                rcases rest_step hgoing.1 hstep with hstopped | hlt
                · rw [run_of_stopped _ hstopped, run_of_stopped _ hstopped]
                · exact ih (by omega) (by omega)

/-- Where enough turns have led to, the loop has ended. -/
lemma ended_of_run {turns : ℕ} : ∀ {p}, p.rest.length ≤ turns → run turns p = .ok q →
    q.rest = [] ∨ q.stopped = true := by
  induction turns with
  | zero =>
      intro p hle h
      cases h
      exact Or.inl (List.length_eq_zero_iff.mp (Nat.le_zero.mp hle))
  | succ turns ih =>
      intro p hle h
      rw [run] at h
      split at h
      · rename_i hended
        cases h
        exact hended
      · rename_i hgoing
        rw [not_or, Bool.not_eq_true] at hgoing
        rcases bind_eq_ok.mp h with ⟨next, hstep, hrun⟩
        rcases rest_step hgoing.1 hstep with hstopped | hlt
        · rw [run_of_stopped _ hstopped] at hrun
          cases hrun
          exact Or.inr hstopped
        · exact ih (by omega) hrun

/-- **The loop ends.**  Every turn of it advances the offset, stops or fails, so that the number of
bytes bounds their number, and what it returns has stopped or was read to the end. -/
structure Ends (bytes : List UInt8) (width : ReceiptWidth) : Prop where
  advances : ∀ {p q}, Advances (start bytes width) p → Turns p q →
    q.stopped = true ∨ p.offset < q.offset ∧ q.offset ≤ bytes.length
  bounded : ∀ turns, bytes.length ≤ turns →
    run turns (start bytes width) = run bytes.length (start bytes width)
  ended : ∀ {q}, run bytes.length (start bytes width) = .ok q →
    q.offset = bytes.length ∨ q.stopped = true

lemma ends (bytes : List UInt8) (width : ReceiptWidth) : Ends bytes width where
  advances hadvances hturn := by
    have hposition := (Advances.position (hadvances.tail hturn)).2
    have hlength : (start bytes width).offset + (start bytes width).rest.length = bytes.length :=
      Nat.zero_add _
    rcases hturn.advance.2.2 with hstopped | hlt
    · exact Or.inl hstopped
    · exact Or.inr ⟨hlt, by omega⟩
  bounded turns hle := run_eq_of_le hle le_rfl
  ended {q} hrun := by
    have hposition := (advances_of_run hrun).position.2
    have hlength : (start bytes width).offset + (start bytes width).rest.length = bytes.length :=
      Nat.zero_add _
    rcases ended_of_run (p := start bytes width) le_rfl hrun with hend | hstopped
    · refine Or.inl ?_
      rw [hend, List.length_nil] at hposition
      omega
    · exact Or.inr hstopped

/-! ## What is behind the command that stops the loop -/

/-- The loop has stopped at an unsupported command that lies in the first bytes. -/
structure StoppedWithin (q : Parser) (bytes : ℕ) : Prop where
  stopped : q.stopped = true
  consumed : q.offset ≤ bytes
  begun : ∀ command, q.diagnostics.unsupportedCommands.getLast? = some command →
    command.offset < bytes

/-- A parser that has stopped takes no turn. -/
lemma eq_of_stopped (hadvances : Advances p q) (hstopped : p.stopped = true) : p = q := by
  induction hadvances using Relation.ReflTransGen.head_induction_on with
  | refl => rfl
  | head hturn _ _ =>
      rw [hturn.2.1] at hstopped
      cases hstopped

/-- **Other bytes behind the command** lead to the same place. -/
lemma advances_append {b₁ : List UInt8} (b₂ : List UInt8) (hadvances : Advances (append b₁ p) q)
    (hwithin : q.StoppedWithin (p.offset + p.rest.length)) :
    ∃ u, q = append b₁ u ∧ Advances (append b₂ p) (append b₂ u) := by
  generalize hstart : append b₁ p = start at hadvances
  induction hadvances using Relation.ReflTransGen.head_induction_on generalizing p with
  | refl => exact ⟨p, hstart.symm, .refl⟩
  | @head start next hturn hadvances ih =>
      subst hstart
      rcases hturn with ⟨hne, hgoing, hstep⟩
      rcases List.exists_cons_of_ne_nil hne with ⟨byte, after, hrest⟩
      have hsplit : p.rest ++ b₁ = byte :: after := hrest
      rcases step_local hrest hstep with ⟨taken, htaken, hmoved, hagain⟩ | ⟨reason, rfl, hagain⟩
      · have hle : next.offset ≤ q.offset := (Advances.position hadvances).1
        have hbound := hwithin.consumed
        have hoffset : (append b₁ p).offset = p.offset := rfl
        -- what the turn takes lies in the first bytes, as the offset only grows
        obtain ⟨kept, hkept, hnext⟩ :
            ∃ kept, p.rest = byte :: taken ++ kept ∧ next.rest = kept ++ b₁ := by
          rw [htaken, ← List.cons_append] at hsplit
          rcases List.append_eq_append_iff.mp hsplit with ⟨more, hmore, hb⟩ | ⟨kept, hkept, hnext⟩
          · have hlength := congrArg List.length hmore
            rw [List.length_cons, List.length_append] at hlength
            have hnone : more = [] := List.length_eq_zero_iff.mp (by omega)
            subst hnone
            exact ⟨[], by rw [hmore, List.append_nil, List.append_nil], hb.symm⟩
          · exact ⟨kept, hkept, hnext⟩
        have hlength : next.offset + kept.length = p.offset + p.rest.length := by
          rw [hkept, List.length_append, List.length_cons]
          omega
        have hsame : append b₁ ({ next with rest := kept } : Parser) = next := by
          show ({ next with rest := kept ++ b₁ } : Parser) = next
          rw [← hnext]
        rcases ih (by rw [← hlength] at hwithin; exact hwithin) hsame with ⟨u, hu, hrun⟩
        refine ⟨u, hu, .head ⟨?_, hgoing, ?_⟩ hrun⟩
        · simp [append, hkept]
        · show step { p with rest := p.rest ++ b₂ } = _
          rw [hkept, List.append_assoc]
          exact hagain (kept ++ b₂)
      · obtain rfl := eq_of_stopped hadvances rfl
        have hbegun : p.offset < p.offset + p.rest.length :=
          hwithin.begun ⟨p.offset, reason⟩ List.getLast?_concat
        rcases List.exists_cons_of_length_pos (show 0 < p.rest.length by omega) with
          ⟨head, tail, htail⟩
        rw [htail, List.cons_append] at hsplit
        obtain ⟨rfl, rfl⟩ := List.cons.inj hsplit
        refine ⟨p.unsupported p.offset reason, rfl, .single ⟨?_, hgoing, ?_⟩⟩
        · simp [append, htail]
        · show step { p with rest := p.rest ++ b₂ } =
            .ok (({ p with rest := p.rest ++ b₂ } : Parser).unsupported p.offset reason)
          rw [htail]
          exact hagain (tail ++ b₂)

/-- The parser that interprets a stream. -/
lemma interpret_of_stopped {bytes : List UInt8} {width : ReceiptWidth}
    (hadvances : Advances (start bytes width) q) (hstopped : q.stopped = true) :
    interpret bytes width = .ok ⟨⟨q.width, q.elements⟩, q.diagnostics⟩ := by
  rcases run_of_advances hadvances bytes.length le_rfl with ⟨left, -, hrun⟩
  rw [run_of_stopped left hstopped] at hrun
  simp only [interpret, finish]
  rw [show run (start bytes width).rest.length (start bytes width) = .ok q from hrun]
  show (do let p ← (if q.stopped = true then pure q else q.flushText); pure _) = _
  rw [if_pos hstopped]
  rfl

end Parser

/-- **A stream stops the interpreter within its first bytes**: at an unsupported command that
begins in them, and of which it has read no byte behind them. -/
def StopsWithin (bytes : List UInt8) (width : ReceiptWidth) (within : ℕ) : Prop :=
  ∃ q, Parser.run bytes.length (.start bytes width) = .ok q ∧ q.StoppedWithin within

/-- **The interpreter stops safely.**  The loop ends on every stream.  When a stream stops it at an
unsupported command within its first bytes, the bytes behind these have no influence. -/
theorem interpret_stops (a b₁ b₂ : List UInt8) (width : ReceiptWidth) :
    Parser.Ends (a ++ b₁) width ∧
      (StopsWithin (a ++ b₁) width a.length →
        ∃ result, interpret (a ++ b₁) width = .ok result ∧
          interpret (a ++ b₂) width = .ok result) := by
  refine ⟨Parser.ends .., ?_⟩
  rintro ⟨q, hrun, hwithin⟩
  have hadvances : Parser.Advances (append b₁ (.start a width)) q := Parser.advances_of_run hrun
  rcases Parser.advances_append b₂ hadvances (by simpa [Parser.start] using hwithin) with
    ⟨u, rfl, hagain⟩
  exact ⟨_, Parser.interpret_of_stopped hadvances hwithin.stopped,
    Parser.interpret_of_stopped (q := append b₂ u) hagain hwithin.stopped⟩

/-- `ESC !` is not supported: of the two bytes behind it none is printed. -/
theorem interpret_stops_escExclamation :
    ∃ result, interpret ([0x1b, 0x21] ++ [0x41, 0x42]) .mm80 = .ok result ∧
      interpret ([0x1b, 0x21] ++ [0x0a]) .mm80 = .ok result := by
  refine (interpret_stops [0x1b, 0x21] [0x41, 0x42] [0x0a] .mm80).2 ⟨_, rfl, rfl, by decide, ?_⟩
  rintro command h
  cases h
  decide

end Oppa.Renderer
