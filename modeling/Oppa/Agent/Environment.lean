import Oppa.Agent.Failure
import Oppa.Protocol.Message
import Oppa.Storage.Lineage

/-!
# What surrounds the agent

Everything the agent asks for while it runs: the libraries it links, the store, the clock, and the
answers of printers, renderers, spoolers and the transport.

* `Libraries`, `AgentConfig` — what is fixed when the agent is built.
* `Env` — what one step is answered: clock readings, random identifiers, the answers of the parts
  the agent calls, and whether the repository call of the step fails.
* `Env.call` — a repository operation under such a fault.  **`Env.call_commit`**: whatever the
  fault, the tables see a commit or nothing.
-/

namespace Oppa

/-- What the agent uses of `serde_json`, `sha2` and `chrono`. -/
structure Libraries where
  /-- `serde_json::from_str::<Value>`. -/
  fromStr : String → Option Json.Value
  /-- `format!("{:x}", Sha256::digest(text))`. -/
  sha256Hex : String → String
  /-- `to_rfc3339_opts(SecondsFormat::Millis, true)`. -/
  display : Timestamp → String
  /-- `serde_json::from_value::<PrintJob>`. -/
  printJobFromValue : Json.Value → Except String Protocol.PrintJob
  /-- `serde_json::from_value::<AgentMessage>`. -/
  agentMessageFromValue : Json.Value → Except String Protocol.AgentMessage

/-- What `AgentBuilder` is given, as far as it does not vary from call to call. -/
structure AgentConfig extends Libraries where
  limits : StorageLimits
  /-- Whether a document fetcher was supplied. -/
  documents : Bool

/-- The store the agent opened. -/
def AgentConfig.storage (config : AgentConfig) : SqliteStorage Json.Value where
  codec :=
    { toString := Json.Value.toString
      fromStr := config.fromStr
      sha256Hex := config.sha256Hex }
  limits := config.limits

/-- A random identifier: `Uuid::new_v4`. -/
abbrev Uuid := BitVec 128

/-- The digits of an identifier. -/
def Uuid.digits (uuid : Uuid) : List Char :=
  (List.range 32).map fun i => Json.Value.hexDigit (uuid.toNat / 16 ^ (31 - i) % 16)

/-- `Uuid::simple`. -/
def Uuid.simple (uuid : Uuid) : String := String.ofList uuid.digits

/-- How a repository call ends: with its own answer, with an error before it took effect, or with an
error after it did. -/
inductive Fault
  | absent
  | before
  | after
  deriving DecidableEq, Repr

/-- What a step is answered. -/
structure Env where
  fault : Fault
  /-- Successive readings of the clock. -/
  clock : ℕ → Timestamp
  /-- Successive random identifiers. -/
  uuid : ℕ → Uuid
  /-- Whether the reporter accepts the message it is handed. -/
  delivered : Bool
  /-- `PrinterResolver::resolve`. -/
  printer : Except PrinterResolutionError (Option Printer.PrinterRef)
  /-- `DocumentRenderer::render`. -/
  rendered : Except RendererError Unit
  /-- `DocumentFetcher::fetch_pdf`. -/
  fetched : Except DocumentFetchError Unit
  /-- `DocumentRenderer::render_pdf` in its blocking task; a task that does not finish leaves only
  the text of its error. -/
  renderedPdf : Except String (Except RendererError Unit)
  /-- `SpoolerRegistry::submit`. -/
  submission : Except SpoolerError SubmissionReceipt

/-- What a repository call leaves behind. -/
structure Reply (α : Type) where
  result : StorageResult α
  db : Database
  events : List RepositoryEvent

/-- The error of a call whose worker did not answer. -/
def workerStopped : StorageError := .worker "storage worker stopped"

section Call

variable (config : AgentConfig) (env : Env) {α : Type} (op : Operation Json.Value α)
  (now : Timestamp) (db : Database)

/-- A call of the repository. -/
def Env.call : Reply α :=
  match env.fault with
  | .absent =>
    { result := (op.run config.storage now db).1
      db := (op.run config.storage now db).2
      events := op.events config.storage now db }
  | .before => { result := .error workerStopped, db := db, events := [] }
  | .after =>
    { result := .error workerStopped
      db := (op.run config.storage now db).2
      events := op.events config.storage now db }

/-- **A call commits, whatever becomes of its answer.** -/
theorem Env.call_commit :
    Commit config.storage db (env.call config op now db).events (env.call config op now db).db := by
  unfold Env.call
  cases env.fault with
  | absent => exact run_commit op db
  | before => exact .nothing
  | after => exact run_commit op db

variable {config env op now db}

/-- A call that answers has run. -/
lemma Env.call_ok {a : α} (h : (env.call config op now db).result = .ok a) :
    op.run config.storage now db = (.ok a, (env.call config op now db).db) ∧
      (env.call config op now db).events
        = op.effects config.storage a db (env.call config op now db).db := by
  unfold Env.call at h ⊢
  cases hfault : env.fault with
  | absent =>
      rw [hfault] at h
      simp only at h ⊢
      exact ⟨Prod.ext h rfl, by simp only [Operation.events, effectsOf, h]⟩
  | before =>
      rw [hfault] at h
      cases h
  | after =>
      rw [hfault] at h
      cases h

/-- Without a fault a call answers what the operation answers. -/
lemma Env.call_absent (h : env.fault = .absent) :
    env.call config op now db =
      { result := (op.run config.storage now db).1
        db := (op.run config.storage now db).2
        events := op.events config.storage now db } := by
  simp only [Env.call, h]

/-- A call either leaves the tables alone or performs the operation. -/
lemma Env.call_cases :
    ((env.call config op now db).db = db ∧ (env.call config op now db).events = [] ∧
      ∃ e, (env.call config op now db).result = .error e) ∨
    ((env.call config op now db).db = (op.run config.storage now db).2 ∧
      (env.call config op now db).events = op.events config.storage now db) := by
  unfold Env.call
  cases env.fault with
  | absent => exact Or.inr ⟨rfl, rfl⟩
  | before => exact Or.inl ⟨rfl, rfl, _, rfl⟩
  | after => exact Or.inr ⟨rfl, rfl⟩

end Call

end Oppa
