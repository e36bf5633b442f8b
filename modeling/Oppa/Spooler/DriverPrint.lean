import Oppa.Agent.Failure
import Oppa.Foundation.Plan
import Oppa.Renderer.Raster

/-!
# Printing through a driver

A raster document is printed through the driver of a queue: the queue is opened, a document is
started, each page is started, drawn and ended, and the document is ended.  Any of these calls may
fail, and the driver is an arbitrary program with a state of its own.

* `DriverPrintApi`, `printStartedDocument`, `printWithApi` — the calls and the printing.
* `Call`, `Entry`, `DriverPrintApi.recorded` — a driver that keeps a log of its calls and answers.
* `plan`, `cleanup` — the calls of a document that meets no failure, and the calls that release what
  has been acquired.
* **`print_lifecycle`** — a document that cannot be printed makes no call; any other makes the calls
  of its plan up to the first failure, then the cleanup, and returns the job exactly when none
  failed.
-/

namespace Oppa.Spooler

open Renderer Foundation

/-! ## The driver -/

/-- The calls of a driver with states `σ` and contexts `κ`. -/
structure DriverPrintApi (σ κ : Type) where
  openQueue : String → σ → Except String κ × σ
  startDocument : ExceptT String (StateM (κ × σ)) UInt32
  startPage : ExceptT String (StateM (κ × σ)) PUnit
  drawPage : RasterPage → ExceptT String (StateM (κ × σ)) PUnit
  endPage : ExceptT String (StateM (κ × σ)) PUnit
  endDocument : ExceptT String (StateM (κ × σ)) PUnit
  abortDocument : κ × σ → κ × σ
  close : κ → σ → σ

/-- Stages at which the driver print sequence can fail. -/
inductive PrintStage
  | openQueue
  | startDocument
  | startPage
  | drawPage
  | endPage
  | endDocument
  deriving DecidableEq, Repr

/-- Failure while submitting a raster page through an operating-system driver. -/
structure PrintError where
  stage : PrintStage
  message : String
  deriving DecidableEq, Repr

variable {σ κ : Type}

/-- A call whose failure is one of a stage. -/
def staged {α : Type} (stage : PrintStage) (call : ExceptT String (StateM (κ × σ)) α) :
    ExceptT PrintError (StateM (κ × σ)) α :=
  ExceptT.adapt (fun message => ⟨stage, message⟩) call

/-- The text of a failure of the renderer. -/
def rendererMessage : Renderer.RendererError → String
  | .invalidDocument text => (Oppa.RendererError.invalidDocument text).display
  | .unicodeRequiresRasterization => Oppa.RendererError.unicodeRequiresRasterization.display
  | .invalidImage text => (Oppa.RendererError.invalidImage text).display
  | .imageTooLarge text => (Oppa.RendererError.imageTooLarge text).display
  | .invalidBarcode format reason => (Oppa.RendererError.invalidBarcode format reason).display
  | .outputTooLarge actual maximum => (Oppa.RendererError.outputTooLarge actual maximum).display
  | .invalidRasterPage text => (Oppa.RendererError.invalidRasterPage text).display
  | .invalidEscPos offset reason =>
      "ESC/POS command stream is unsupported or malformed at byte " ++ toString offset ++ ": " ++
        reason

/-- `print_started_document`. -/
def printStartedDocument (api : DriverPrintApi σ κ) (document : RasterDocument) (jobId : UInt32) :
    ExceptT PrintError (StateM (κ × σ)) UInt32 := do
  document.pages.forM fun page => do
    staged .startPage api.startPage
    staged .drawPage (api.drawPage page)
    staged .endPage api.endPage
  staged .endDocument api.endDocument
  return jobId

/-- `print_with_api`. -/
def printWithApi (api : DriverPrintApi σ κ) (queueName : String) (document : RasterDocument)
    (s : σ) : Except PrintError UInt32 × σ :=
  if document.pages = [] then (.error ⟨.drawPage, "document has no pages"⟩, s)
  else
    match document.pages.forM RasterPage.validate with
    | .error error => (.error ⟨.drawPage, rendererMessage error⟩, s)
    | .ok _ =>
        match api.openQueue queueName s with
        | (.error message, s) => (.error ⟨.openQueue, message⟩, s)
        | (.ok context, s) =>
            match api.startDocument.run (context, s) with
            | (.error message, context, s) =>
                (.error ⟨.startDocument, message⟩, api.close context s)
            | (.ok jobId, t) =>
                let (result, t) := (printStartedDocument api document jobId).run t
                let (context, s) := if result.isOk then t else api.abortDocument t
                (result, api.close context s)

/-! ## The log -/

inductive Call
  | openQueue (queueName : String)
  | startDocument
  | startPage
  | drawPage (page : RasterPage)
  | endPage
  | endDocument
  | abortDocument
  | close
  deriving DecidableEq, Repr

/-- The stage of a call that can fail. -/
def Call.stage : Call → Option PrintStage
  | openQueue _ => some .openQueue
  | startDocument => some .startDocument
  | startPage => some .startPage
  | drawPage _ => some .drawPage
  | endPage => some .endPage
  | endDocument => some .endDocument
  | abortDocument | close => none

/-- What a call answers: that it is done, the job it has started, or why it failed. -/
inductive Answer
  | done
  | started (jobId : UInt32)
  | failed (message : String)
  deriving DecidableEq, Repr

/-- A call that was made, with its answer. -/
structure Entry where
  call : Call
  answer : Answer
  deriving DecidableEq, Repr

/-- The failure of the printing that an answer is. -/
def Entry.failure : Entry → Option PrintError
  | ⟨call, .failed message⟩ => call.stage.map fun stage => ⟨stage, message⟩
  | _ => none

/-- The answer of a call that returns nothing. -/
def Answer.ofUnit {α : Type} : Except String α → Answer
  | .ok _ => .done
  | .error message => .failed message

/-- The answer of the call that starts a document. -/
def Answer.ofJob : Except String UInt32 → Answer
  | .ok jobId => .started jobId
  | .error message => .failed message

/-- A call that is entered in the log with its answer. -/
def logged {α : Type} (call : Call) (answerOf : Except String α → Answer)
    (action : ExceptT String (StateM (κ × σ)) α) :
    ExceptT String (StateM (κ × σ × List Entry)) α :=
  fun (context, s, log) =>
    let (result, context, s) := action.run (context, s)
    (result, context, s, log ++ [⟨call, answerOf result⟩])

/-- The driver that does what `api` does and keeps a log. -/
def DriverPrintApi.recorded (api : DriverPrintApi σ κ) : DriverPrintApi (σ × List Entry) κ where
  openQueue queueName := fun (s, log) =>
    let (result, s) := api.openQueue queueName s
    (result, s, log ++ [⟨.openQueue queueName, .ofUnit result⟩])
  startDocument := logged .startDocument .ofJob api.startDocument
  startPage := logged .startPage .ofUnit api.startPage
  drawPage page := logged (.drawPage page) .ofUnit (api.drawPage page)
  endPage := logged .endPage .ofUnit api.endPage
  endDocument := logged .endDocument .ofUnit api.endDocument
  abortDocument := fun (context, s, log) =>
    let (context, s) := api.abortDocument (context, s)
    (context, s, log ++ [⟨.abortDocument, .done⟩])
  close context := fun (s, log) => (api.close context s, log ++ [⟨.close, .done⟩])

lemma recorded_openQueue (api : DriverPrintApi σ κ) (queueName : String) (s : σ)
    (log : List Entry) :
    api.recorded.openQueue queueName (s, log) = ((api.openQueue queueName s).1,
      (api.openQueue queueName s).2,
      log ++ [⟨.openQueue queueName, .ofUnit (api.openQueue queueName s).1⟩]) := rfl

lemma recorded_startDocument (api : DriverPrintApi σ κ) (context : κ) (s : σ) (log : List Entry) :
    api.recorded.startDocument.run (context, s, log) = ((api.startDocument.run (context, s)).1,
      (api.startDocument.run (context, s)).2.1, (api.startDocument.run (context, s)).2.2,
      log ++ [⟨.startDocument, .ofJob (api.startDocument.run (context, s)).1⟩]) := rfl

lemma log_abortDocument (api : DriverPrintApi σ κ) (t : κ × σ × List Entry) :
    (api.recorded.abortDocument t).2.2 = t.2.2 ++ [⟨.abortDocument, .done⟩] := rfl

lemma log_close (api : DriverPrintApi σ κ) (context : κ) (t : σ × List Entry) :
    (api.recorded.close context t).2 = t.2 ++ [⟨.close, .done⟩] := rfl

/-! ## What the log holds -/

/-- The calls of a page. -/
def pagePlan (page : RasterPage) : List Call := [.startPage, .drawPage page, .endPage]

/-- The calls of a document after its start. -/
def documentPlan (document : RasterDocument) : List Call :=
  document.pages.flatMap pagePlan ++ [.endDocument]

/-- The calls that print a document when none of them fails. -/
def plan (queueName : String) (document : RasterDocument) : List Call :=
  .openQueue queueName :: .startDocument :: documentPlan document

/-- A document that can be printed has pages, and each of them is valid. -/
def Printable (document : RasterDocument) : Prop :=
  document.pages ≠ [] ∧ ∀ page ∈ document.pages, page.validate = .ok ()

/-- Every call of the log succeeded. -/
def Succeeded (made : List Entry) : Prop := ∀ entry ∈ made, entry.failure = none

instance (made : List Entry) : Decidable (Succeeded made) :=
  inferInstanceAs (Decidable (∀ entry ∈ made, entry.failure = none))

/-- The call was made and succeeded. -/
def Made (made : List Entry) (call : Call) : Prop :=
  ∃ entry ∈ made, entry.call = call ∧ entry.failure = none

instance (made : List Entry) (call : Call) : Decidable (Made made call) :=
  inferInstanceAs (Decidable (∃ entry ∈ made, entry.call = call ∧ entry.failure = none))

/-- The calls that release what the calls made have acquired: a document that was started and failed
later is aborted, and a queue that was opened is closed. -/
def cleanup (queueName : String) (made : List Entry) : List Entry :=
  (if Made made .startDocument ∧ ¬ Succeeded made then [⟨.abortDocument, .done⟩] else []) ++
    if Made made (.openQueue queueName) then [⟨.close, .done⟩] else []

/-- How the printing of a document ends, and what it leaves in the log of its driver. -/
structure Lifecycle (queueName : String) (document : RasterDocument)
    (result : Except PrintError UInt32) (log : List Entry) : Prop where
  unprintable : ¬ Printable document → log = [] ∧ ∃ message, result = .error ⟨.drawPage, message⟩
  printable : Printable document → ∃ made, log = made ++ cleanup queueName made ∧
    Plan.Cut Entry.call Entry.failure (plan queueName document) made (Plan.errorOf result) ∧
    ∀ jobId, result = .ok jobId ↔ Succeeded made ∧ ⟨.startDocument, .started jobId⟩ ∈ made

/-! ## The plan of a started document -/

/-- The actions that make the calls of a plan on a recorded driver. -/
abbrev Follows {α : Type} (plan : List Call)
    (action : ExceptT PrintError (StateM (κ × σ × List Entry)) α) : Prop :=
  Plan.Follows Entry.call Entry.failure (fun t => t.2.2) plan action

variable {α : Type} {call : Call} {stage : PrintStage} {api : DriverPrintApi σ κ}
  {document : RasterDocument}

/-- A logged call is one entry, which fails as the stage does. -/
lemma follows_staged (answerOf : Except String α → Answer)
    (hanswer : ∀ result, Entry.failure ⟨call, answerOf result⟩ =
      Plan.errorOf (result.mapError fun message => (⟨stage, message⟩ : PrintError)))
    (action : ExceptT String (StateM (κ × σ)) α) :
    Follows [call] (staged stage (logged call answerOf action)) := by
  refine Plan.follows_of_entry (fun t => ⟨call, answerOf (action.run (t.1, t.2.1)).1⟩)
    (fun t => rfl) (fun t => rfl) fun t => ?_
  exact hanswer _

lemma failure_ofUnit (hstage : call.stage = some stage) (result : Except String α) :
    Entry.failure ⟨call, .ofUnit result⟩ =
      Plan.errorOf (result.mapError fun message => (⟨stage, message⟩ : PrintError)) := by
  cases result with
  | error message => simp [Answer.ofUnit, Entry.failure, hstage, Except.mapError, Plan.errorOf]
  | ok a => rfl

lemma follows_page (page : RasterPage) :
    Follows (pagePlan page) (do
      staged .startPage api.recorded.startPage
      staged .drawPage (api.recorded.drawPage page)
      staged .endPage api.recorded.endPage) := by
  refine Plan.follows_bind (follows_staged .ofUnit (failure_ofUnit rfl) api.startPage) fun _ => ?_
  refine Plan.follows_bind (follows_staged .ofUnit (failure_ofUnit rfl) (api.drawPage page))
    fun _ => ?_
  exact follows_staged .ofUnit (failure_ofUnit rfl) api.endPage

lemma follows_printStartedDocument (jobId : UInt32) :
    Follows (documentPlan document) (printStartedDocument api.recorded document jobId) := by
  refine Plan.follows_bind (Plan.follows_forM fun page _ => follows_page page) fun _ => ?_
  have hend : Follows [.endDocument]
      (staged .endDocument (api.recorded.endDocument : ExceptT String _ Unit)) :=
    follows_staged .ofUnit (failure_ofUnit rfl) api.endDocument
  exact Plan.follows_bind hend fun _ => Plan.follows_pure jobId

/-- What is returned is the job that was started. -/
lemma eq_of_printStartedDocument {jobId id : UInt32} {t : κ × σ}
    (hresult : ((printStartedDocument api document jobId).run t).1 = .ok id) : id = jobId := by
  refine Plan.result_bind (P := fun id => id = jobId) (fun _ u id hrun => ?_) hresult
  refine Plan.result_bind (P := fun id => id = jobId) (fun _ v id hrun => ?_) hrun
  exact (Except.ok.inj hrun).symm

/-! ## The whole printing -/

lemma succeeded_iff_of_cut {calls : List Call} {made : List Entry} {outcome : Option PrintError}
    (hcut : Plan.Cut Entry.call Entry.failure calls made outcome) :
    Succeeded made ↔ outcome = none := hcut.outcome_eq_none_iff.symm

/-- Of the calls of a document, only the one before the pages starts it. -/
lemma startDocument_notMem_documentPlan : Call.startDocument ∉ documentPlan document := by
  simp [documentPlan, pagePlan]

/-- The pages are checked one after another. -/
lemma forM_validate_eq_ok_iff {pages : List RasterPage} :
    pages.forM RasterPage.validate = .ok () ↔ ∀ page ∈ pages, page.validate = .ok () := by
  induction pages with
  | nil => exact iff_of_true rfl fun page hpage => nomatch hpage
  | cons page pages ih =>
      rw [List.forall_mem_cons, ← ih]
      show (page.validate >>= fun _ => pages.forM RasterPage.validate) = .ok () ↔ _
      rw [Result.bind_eq_ok]
      constructor
      · rintro ⟨_, hpage, hrest⟩
        exact ⟨hpage, hrest⟩
      · rintro ⟨hpage, hrest⟩
        exact ⟨(), hpage, hrest⟩

/-- Nothing is done about a document that cannot be printed. -/
lemma printWithApi_of_not_printable (hnot : ¬ Printable document) (queueName : String) (s : σ) :
    ∃ message, printWithApi api queueName document s = (.error ⟨.drawPage, message⟩, s) := by
  rw [Printable, ← forM_validate_eq_ok_iff, not_and] at hnot
  rw [printWithApi]
  split_ifs with hempty
  · exact ⟨_, rfl⟩
  · cases hvalid : document.pages.forM RasterPage.validate with
    | error error => exact ⟨_, rfl⟩
    | ok u => exact absurd hvalid (hnot hempty)

/-- A document that can be printed is given to the driver. -/
lemma printWithApi_of_printable (hprintable : Printable document) (queueName : String) (s : σ) :
    printWithApi api queueName document s =
      match api.openQueue queueName s with
      | (.error message, s) => (.error ⟨.openQueue, message⟩, s)
      | (.ok context, s) =>
          match api.startDocument.run (context, s) with
          | (.error message, context, s) => (.error ⟨.startDocument, message⟩, api.close context s)
          | (.ok jobId, t) =>
              let (result, t) := (printStartedDocument api document jobId).run t
              let (context, s) := if result.isOk then t else api.abortDocument t
              (result, api.close context s) := by
  rw [Printable, ← forM_validate_eq_ok_iff] at hprintable
  rw [printWithApi, if_neg hprintable.1, hprintable.2]

/-- The entries of a document that was started: the queue, the start, and the rest of the plan. -/
lemma made_of_started {queueName : String} {jobId : UInt32} {more : List Entry}
    {result : Except PrintError UInt32} {made : List Entry}
    (hmade : made = ⟨.openQueue queueName, .done⟩ :: ⟨.startDocument, .started jobId⟩ :: more)
    (hcut : Plan.Cut Entry.call Entry.failure (documentPlan document) more (Plan.errorOf result)) :
    Plan.Cut Entry.call Entry.failure (plan queueName document) made (Plan.errorOf result) ∧
      Made made (.openQueue queueName) ∧ Made made .startDocument ∧
      ∀ id, ⟨.startDocument, .started id⟩ ∈ made ↔ id = jobId := by
  subst hmade
  refine ⟨.went rfl rfl (.went rfl rfl hcut), ⟨_, List.mem_cons_self, rfl, rfl⟩,
    ⟨_, List.mem_cons_of_mem _ List.mem_cons_self, rfl, rfl⟩, fun id => ⟨fun hmem => ?_, ?_⟩⟩
  · rcases List.mem_cons.mp hmem with heq | hmem
    · cases heq
    · rcases List.mem_cons.mp hmem with heq | hmem
      · cases heq
        rfl
      · have hcall := hcut.calls_prefix.subset (List.mem_map_of_mem (f := Entry.call) hmem)
        exact absurd hcall startDocument_notMem_documentPlan
  · rintro rfl
    exact List.mem_cons_of_mem _ List.mem_cons_self

/-- The printing of a document that was started: it is aborted if anything fails, and the context is
closed in either case. -/
lemma lifecycle_of_started {queueName : String} {jobId : UInt32} {more log : List Entry}
    {result : Except PrintError UInt32} (hprintable : Printable document)
    (hresult : ∀ id, result = .ok id → id = jobId)
    (hcut : Plan.Cut Entry.call Entry.failure (documentPlan document) more (Plan.errorOf result))
    (hlog : log = ⟨.openQueue queueName, .done⟩ :: ⟨.startDocument, .started jobId⟩ :: more ++
      (if result.isOk then [] else [⟨.abortDocument, .done⟩]) ++ [⟨.close, .done⟩]) :
    Lifecycle queueName document result log := by
  rcases made_of_started rfl hcut with ⟨hmade, hopened, hstarted, hmem⟩
  have hsucceeded := succeeded_iff_of_cut hmade
  refine ⟨fun h => absurd hprintable h, fun _ => ⟨_, ?_, hmade, fun id => ?_⟩⟩
  · rw [hlog, cleanup, if_pos hopened, List.append_assoc]
    congr 1
    cases result <;> simp [hstarted, hsucceeded, Plan.errorOf, Except.isOk, Except.toBool]
  · rw [hsucceeded, hmem]
    cases result with
    | error error => exact ⟨nofun, fun h => nomatch h.1⟩
    | ok id' =>
        have hid : id' = jobId := hresult id' rfl
        subst hid
        exact ⟨fun h => ⟨rfl, (Except.ok.inj h).symm⟩, fun h => congrArg _ h.2.symm⟩

/-- **The calls of a driver.**  A document that cannot be printed makes no call.  Any other makes
the calls of its plan up to the first that fails, then those that clean up, and its job is returned
exactly when every call succeeded. -/
theorem print_lifecycle (api : DriverPrintApi σ κ) (queueName : String) (document : RasterDocument)
    (s : σ) :
    Lifecycle queueName document (printWithApi api.recorded queueName document (s, [])).1
      (printWithApi api.recorded queueName document (s, [])).2.2 := by
  by_cases hprintable : Printable document
  swap
  · rcases @printWithApi_of_not_printable _ _ api.recorded _ hprintable queueName (s, [])
      with ⟨message, hrun⟩
    rw [hrun]
    exact ⟨fun _ => ⟨rfl, message, rfl⟩, fun h => absurd h hprintable⟩
  rw [printWithApi_of_printable hprintable, recorded_openQueue]
  rcases api.openQueue queueName s with ⟨answer, s₁⟩
  cases answer with
  | error message =>
      refine ⟨fun h => absurd hprintable h, fun _ => ?_⟩
      refine ⟨[⟨.openQueue queueName, .failed message⟩], ?_, .failed rfl rfl, ?_⟩
      · simp [cleanup, Made, Entry.failure, Call.stage, Answer.ofUnit]
      · simp [Succeeded, Entry.failure, Call.stage]
  | ok context =>
      simp only [recorded_startDocument]
      rcases api.startDocument.run (context, s₁) with ⟨answer, context', s₂⟩
      cases answer with
      | error message =>
          refine ⟨fun h => absurd hprintable h, fun _ => ?_⟩
          refine ⟨[⟨.openQueue queueName, .done⟩, ⟨.startDocument, .failed message⟩], ?_,
            .went rfl rfl (.failed rfl rfl), ?_⟩
          · simp [cleanup, Made, Entry.failure, Call.stage, Answer.ofJob, Answer.ofUnit, log_close]
          · simp [Succeeded, Entry.failure, Call.stage]
      | ok jobId =>
          -- the document is started, and the rest is one action that follows its plan
          obtain ⟨t, ht⟩ : ∃ t : κ × σ × List Entry, t = (context', s₂,
            [⟨.openQueue queueName, .done⟩, ⟨.startDocument, .started jobId⟩]) := ⟨_, rfl⟩
          simp only [Answer.ofUnit, Answer.ofJob, List.cons_append, List.nil_append, ← ht]
          rcases @follows_printStartedDocument _ _ api document jobId t with
            ⟨more, hlog, hcut⟩
          have hjob (id : UInt32) :
              ((printStartedDocument api.recorded document jobId).run t).1 = .ok id → id = jobId :=
            eq_of_printStartedDocument
          rcases hrun : (printStartedDocument api.recorded document jobId).run t with ⟨result, u⟩
          rw [ht] at hrun
          simp only [ht, hrun] at hlog hcut hjob ⊢
          refine lifecycle_of_started hprintable hjob hcut ?_
          cases result <;> simp [log_close, log_abortDocument, Except.isOk, Except.toBool, hlog]

end Oppa.Spooler
