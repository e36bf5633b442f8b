import Mathlib.Data.List.Induction
import Oppa.Agent.Failure
import Oppa.Foundation.Window
import Oppa.Renderer.Interpreter
import Oppa.Renderer.Raster

/-!
# The history of a virtual printer

A virtual printer keeps what was submitted to it for inspection, within a number of entries and a
number of bytes.  It keeps the number of bytes as a running total beside the entries.

* `VirtualSubmission.retainedBytes` — the bytes an entry keeps alive.
* `VirtualSpooler.record`, `clearHistory`, `setSimulation` — what changes the state; `run` — some of
  them in a row.
* `Accounted` — what holds of the history: the total is that of the entries, and the entries are
  the longest window at the end of what was recorded.
* **`run_accounted`** — it holds after every run.
-/

namespace Oppa.Spooler.Virtual

open Protocol Renderer Window

/-! ## Entries -/

/-- The number of values of a `usize`, on the platforms that are supported. -/
def usizeModulus : ℕ := 2 ^ 64

/-- `usize::saturating_add`. -/
def saturatingAdd (a b : ℕ) : ℕ := min (a + b) (usizeModulus - 1)

/-- The sum of some lengths, as a `usize`. -/
def sumUsize (lengths : List ℕ) : ℕ := lengths.sum % usizeModulus

/-- Output ready for a compatible spooler. -/
inductive RenderedDocument
  | escPos (bytes : List UInt8) (receiptWidth : ReceiptWidth)
  | raster (document : RasterDocument)
  | native (data : List UInt8)
  | virtual (previewLines : List String)
  | pdf (bytes : List UInt8)
  deriving DecidableEq, Repr

/-- `RenderedDocument::byte_len`. -/
def RenderedDocument.byteLen : RenderedDocument → ℕ
  | escPos bytes _ => sumUsize [bytes.length]
  | raster document => sumUsize (document.pages.map (·.data.length))
  | native data => sumUsize [data.length]
  | virtual previewLines => sumUsize (previewLines.map String.utf8ByteSize)
  | pdf bytes => sumUsize [bytes.length]

/-- Recorded outcome of a virtual-printer attempt. -/
inductive VirtualOutcome
  | submitted
  | failed
  | offline
  deriving DecidableEq, Repr

/-- Interpreted output produced by one virtual printer profile. -/
structure VirtualPreview where
  pages : List RasterPage
  escpos : Option EscPosDiagnostics
  deriving DecidableEq, Repr

/-- Bounded virtual-printer history entry. -/
structure VirtualSubmission where
  jobId : PrintJobId
  printerId : PrinterId
  recordedAt : Timestamp
  outcome : VirtualOutcome
  document : RenderedDocument
  preview : VirtualPreview
  deriving DecidableEq, Repr

/-- `VirtualSubmission::retained_bytes`. -/
def VirtualSubmission.retainedBytes (submission : VirtualSubmission) : ℕ :=
  sumUsize [submission.document.byteLen,
    sumUsize (submission.preview.pages.map (·.data.length))]

/-! ## The spooler -/

/-- Configurable virtual-printer behavior; a duration in milliseconds. -/
inductive VirtualSimulation
  | alwaysSucceed
  | failNext
  | alwaysFail
  | delay (millis : ℕ)
  | offline
  deriving DecidableEq, Repr

/-- What the mutex of a virtual spooler guards; the history from oldest to newest. -/
structure VirtualState where
  simulation : VirtualSimulation := .alwaysSucceed
  history : List VirtualSubmission := []
  retainedBytes : ℕ := 0
  deriving DecidableEq, Repr

/-- Bytes of rendered output and previews retained by virtual-printer history. -/
def maxVirtualHistoryBytes : ℕ := 64 * 1024 * 1024

/-- In-process spooler used for development, tests, and receipt inspection; its limits are greater
than zero. -/
structure VirtualSpooler where
  maxHistory : ℕ
  maxSubmissionBytes : ℕ
  history_pos : 0 < maxHistory
  submission_pos : 0 < maxSubmissionBytes

namespace VirtualSpooler

/-- `VirtualSpooler::new`. -/
def new (maxHistory maxSubmissionBytes : ℕ) : Except SpoolerError VirtualSpooler :=
  if h : 0 < maxHistory ∧ 0 < maxSubmissionBytes then
    .ok ⟨maxHistory, maxSubmissionBytes, h.1, h.2⟩
  else
    .error (.invalidConfiguration
      "virtual history and submission limits must be greater than zero")

/-- `VirtualSpooler::default`. -/
def standard : VirtualSpooler := ⟨20, 4 * 1024 * 1024, by decide, by decide⟩

variable (spooler : VirtualSpooler)

/-- The condition of the loop that evicts entries. -/
def MustEvict (size : ℕ) (history : List VirtualSubmission) (retained : ℕ) : Prop :=
  history ≠ [] ∧ (spooler.maxHistory ≤ history.length ∨
    maxVirtualHistoryBytes < saturatingAdd retained size)

instance {size : ℕ} {history : List VirtualSubmission} {retained : ℕ} :
    Decidable (spooler.MustEvict size history retained) :=
  inferInstanceAs (Decidable (_ ∧ _))

/-- The loop that evicts entries from the front.  It ends since every turn of it evicts one. -/
def evict (size : ℕ) : List VirtualSubmission → ℕ → List VirtualSubmission × ℕ
  | [], retained => ([], retained)
  | oldest :: newer, retained =>
    if spooler.MustEvict size (oldest :: newer) retained then
      evict size newer (retained - oldest.retainedBytes)
    else (oldest :: newer, retained)

/-- `VirtualSpooler::record`. -/
def record (state : VirtualState) (submission : VirtualSubmission) : VirtualState :=
  let size := submission.retainedBytes
  let (history, retained) := spooler.evict size state.history state.retainedBytes
  { state with
    history := history ++ [submission]
    retainedBytes := saturatingAdd retained size }

end VirtualSpooler

/-- `VirtualSpooler::clear_history`. -/
def clearHistory (state : VirtualState) : VirtualState :=
  { state with history := [], retainedBytes := 0 }

/-- `VirtualSpooler::set_simulation`. -/
def setSimulation (state : VirtualState) (simulation : VirtualSimulation) : VirtualState :=
  { state with simulation := simulation }

/-- What changes the state of a virtual spooler. -/
inductive Action
  | record (submission : VirtualSubmission)
  | clear
  | simulate (simulation : VirtualSimulation)
  deriving DecidableEq, Repr

/-- One change. -/
def VirtualSpooler.act (spooler : VirtualSpooler) (state : VirtualState) : Action → VirtualState
  | .record submission => spooler.record state submission
  | .clear => clearHistory state
  | .simulate simulation => setSimulation state simulation

/-- Some changes in a row, from the first state on. -/
def VirtualSpooler.run (spooler : VirtualSpooler) (actions : List Action) : VirtualState :=
  actions.foldl spooler.act {}

/-- What was recorded since the history was cleared last, in order. -/
def recorded (actions : List Action) : List VirtualSubmission :=
  actions.foldl
    (fun submissions action =>
      match action with
      | .record submission => submissions ++ [submission]
      | .clear => []
      | .simulate _ => submissions)
    []

/-! ## The accounting -/

/-- The bytes that some entries keep alive. -/
abbrev totalBytes (history : List VirtualSubmission) : ℕ :=
  total VirtualSubmission.retainedBytes history

lemma retainedBytes_lt (submission : VirtualSubmission) :
    submission.retainedBytes < usizeModulus :=
  Nat.mod_lt _ (by decide)

namespace VirtualSpooler

variable {spooler : VirtualSpooler} {size : ℕ} {history : List VirtualSubmission}

/-- The window of entries that fits both limits. -/
abbrev LongestHistory (spooler : VirtualSpooler) (submissions history : List VirtualSubmission) :
    Prop :=
  Longest VirtualSubmission.retainedBytes spooler.maxHistory maxVirtualHistoryBytes submissions
    history

/-- The loop goes on while there is no room for the entry; saturation makes no difference. -/
lemma mustEvict_iff : spooler.MustEvict size history (totalBytes history) ↔
    ¬ Room VirtualSubmission.retainedBytes spooler.maxHistory maxVirtualHistoryBytes size
      history := by
  have hlimit : maxVirtualHistoryBytes < usizeModulus - 1 := by decide
  simp only [MustEvict, Room, saturatingAdd, not_or, not_and_or, not_lt, not_le, ne_eq, totalBytes]
  refine and_congr_right fun _ => or_congr_right ?_
  omega

/-- The loop trims the history, and its running total stays the total of the history. -/
lemma evict_eq : spooler.evict size history (totalBytes history) =
    (trim VirtualSubmission.retainedBytes spooler.maxHistory maxVirtualHistoryBytes size history,
      totalBytes (trim VirtualSubmission.retainedBytes spooler.maxHistory maxVirtualHistoryBytes
        size history)) := by
  induction history with
  | nil => rfl
  | cons oldest newer ih =>
      have hrest : totalBytes (oldest :: newer) - oldest.retainedBytes = totalBytes newer := by
        simp [totalBytes]
      rw [evict, trim, hrest, ih]
      by_cases hroom : Room VirtualSubmission.retainedBytes spooler.maxHistory
          maxVirtualHistoryBytes size (oldest :: newer)
      · rw [if_neg fun hmust => mustEvict_iff.mp hmust hroom, if_pos hroom]
      · rw [if_pos (mustEvict_iff.mpr hroom), if_neg hroom]

/-- Where there is room, adding the bytes of the entry does not saturate. -/
lemma saturatingAdd_of_room (spooler : VirtualSpooler) (submission : VirtualSubmission)
    (hroom : Room VirtualSubmission.retainedBytes spooler.maxHistory maxVirtualHistoryBytes
      submission.retainedBytes history) :
    saturatingAdd (totalBytes history) submission.retainedBytes =
      totalBytes (history ++ [submission]) := by
  have hlimit : maxVirtualHistoryBytes < usizeModulus - 1 := by decide
  have hsize := retainedBytes_lt submission
  have htotal : totalBytes (history ++ [submission]) =
      totalBytes history + submission.retainedBytes := by
    simp [totalBytes]
  rw [htotal, saturatingAdd]
  rcases hroom with rfl | ⟨-, hbytes⟩
  · simp only [totalBytes, total_nil]
    omega
  · simp only [totalBytes]
    omega

end VirtualSpooler

/-- **The history is accounted for**: its total is that of its entries, which are the latest that
were recorded, in order; the latest is among them; they keep to both limits, the one on bytes
unless it is a single entry; and no longer window would. -/
structure Accounted (spooler : VirtualSpooler) (submissions : List VirtualSubmission)
    (state : VirtualState) : Prop where
  total : state.retainedBytes = (state.history.map VirtualSubmission.retainedBytes).sum
  order : state.history <:+ submissions
  latest : state.history.getLast? = submissions.getLast?
  count : state.history.length ≤ spooler.maxHistory
  bytes : state.history.length ≤ 1 ∨ state.retainedBytes ≤ maxVirtualHistoryBytes
  needed : ∀ longer, longer <:+ submissions → longer.length ≤ spooler.maxHistory →
    (longer.length ≤ 1 ∨
      (longer.map VirtualSubmission.retainedBytes).sum ≤ maxVirtualHistoryBytes) →
    longer <:+ state.history

namespace VirtualSpooler

variable {spooler : VirtualSpooler} {state : VirtualState} {submissions : List VirtualSubmission}

lemma accounted_of_longest (htotal : state.retainedBytes = totalBytes state.history)
    (hlongest : spooler.LongestHistory submissions state.history) :
    Accounted spooler submissions state where
  total := htotal
  order := hlongest.latest
  latest := hlongest.getLast? spooler.history_pos
  count := hlongest.allowed.1
  bytes := htotal ▸ hlongest.allowed.2
  needed longer hsuffix hcount hbytes := hlongest.longest longer hsuffix ⟨hcount, hbytes⟩

/-- One submission: the running total and the window go on together. -/
lemma record_longest (submission : VirtualSubmission)
    (htotal : state.retainedBytes = totalBytes state.history)
    (hlongest : spooler.LongestHistory submissions state.history) :
    (spooler.record state submission).retainedBytes =
        totalBytes (spooler.record state submission).history ∧
      spooler.LongestHistory (submissions ++ [submission])
        (spooler.record state submission).history := by
  simp only [record, htotal, evict_eq]
  exact ⟨saturatingAdd_of_room spooler submission room_trim,
    hlongest.push spooler.history_pos⟩

/-- **After every run the history is accounted for**, and the loop that evicts entries ends with
room for the next one. -/
theorem run_accounted (spooler : VirtualSpooler) (actions : List Action) :
    Accounted spooler (recorded actions) (spooler.run actions) ∧
      ∀ size, ¬ spooler.MustEvict size
        (spooler.evict size (spooler.run actions).history (spooler.run actions).retainedBytes).1
        (spooler.evict size (spooler.run actions).history
          (spooler.run actions).retainedBytes).2 := by
  have hinvariant : (spooler.run actions).retainedBytes =
        totalBytes (spooler.run actions).history ∧
      spooler.LongestHistory (recorded actions) (spooler.run actions).history := by
    induction actions using List.reverseRecOn with
    | nil => exact ⟨rfl, longest_nil⟩
    | append_singleton actions action ih =>
        rcases ih with ⟨htotal, hlongest⟩
        simp only [run, recorded, List.foldl_append, List.foldl_cons, List.foldl_nil]
        cases action with
        | record submission => exact record_longest submission htotal hlongest
        | clear => exact ⟨rfl, longest_nil⟩
        | simulate simulation => exact ⟨htotal, hlongest⟩
  rcases hinvariant with ⟨htotal, hlongest⟩
  refine ⟨accounted_of_longest htotal hlongest, fun size => ?_⟩
  rw [htotal, evict_eq]
  exact fun hmust => mustEvict_iff.mp hmust room_trim

end VirtualSpooler

end Oppa.Spooler.Virtual
