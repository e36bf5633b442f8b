import Mathlib.Order.Defs.LinearOrder
import Oppa.Foundation.Text

/-!
# Domain primitives

The identifiers, the clock and the job lifecycle that every other part of the agent is written
over.  A typed identifier carries the proof that `validateIdentifier` accepted its text, so a value
that the constructor would have refused does not exist.

* `TypedIdentifier` — the values the macro `typed_identifier!` declares; `PrintJobId` and
  `PrinterId` are its instances.
* `JobState` — the durable lifecycle, and which of its states are terminal.
* `Timestamp` — an instant, in the milliseconds that rows and messages keep of it.
-/

namespace Oppa

open Text

/-- Maximum encoded length accepted for an OPPA identifier. -/
def maxIdentifierLen : ℕ := 128

/-- Why an identifier could not be constructed. -/
inductive IdentifierError
  | empty
  | tooLong (actual maximum : ℕ)
  | controlCharacter
  | surroundingWhitespace
  deriving DecidableEq, Repr

/-- `validate_identifier` of the domain crate. -/
def validateIdentifier (value : String) : Except IdentifierError Unit :=
  if (trim value).isEmpty then .error .empty
  else if maxIdentifierLen < value.utf8ByteSize then
    .error (.tooLong value.utf8ByteSize maxIdentifierLen)
  else if trim value ≠ value then .error .surroundingWhitespace
  else if value.toList.any isControl then .error .controlCharacter
  else .ok ()

/-- What an identifier names. -/
inductive IdentifierKind
  | agent
  | printer
  | printJob
  deriving DecidableEq, Repr

/-- An identifier whose text has passed validation. -/
structure TypedIdentifier (kind : IdentifierKind) where
  value : String
  valid : validateIdentifier value = .ok ()
  deriving DecidableEq, Repr

/-- Stable identifier assigned to an OPPA agent. -/
abbrev AgentId := TypedIdentifier .agent

/-- Stable local identifier assigned to a physical or virtual printer. -/
abbrev PrinterId := TypedIdentifier .printer

/-- Identifier for one requested print-job delivery. -/
abbrev PrintJobId := TypedIdentifier .printJob

namespace TypedIdentifier

variable {kind : IdentifierKind}

instance : LawfulBEq (TypedIdentifier kind) := inferInstance

@[ext] lemma ext {a b : TypedIdentifier kind} (h : a.value = b.value) : a = b := by
  cases a
  cases b
  simp only at h
  subst h
  rfl

/-- `$name::new`. -/
def new (kind : IdentifierKind) (value : String) : Except IdentifierError (TypedIdentifier kind) :=
  match h : validateIdentifier value with
  | .ok () => .ok ⟨value, h⟩
  | .error e => .error e

lemma value_of_new {value : String} {id : TypedIdentifier kind}
    (h : new kind value = .ok id) : id.value = value := by
  unfold new at h
  split at h
  · cases h
    rfl
  · cases h

lemma new_of_valid {value : String} (h : validateIdentifier value = .ok ()) :
    new kind value = .ok ⟨value, h⟩ := by
  unfold new
  split
  · rfl
  · rename_i e he
    rw [h] at he
    cases he

end TypedIdentifier

/-- An instant in UTC, to the millisecond. -/
structure Timestamp where
  millis : ℤ
  deriving DecidableEq, Repr

/-- Durable local lifecycle of a print job. -/
inductive JobState
  | received
  | submitting
  | submitted
  | failed
  | cancelled
  deriving DecidableEq, Repr

/-- Whether no automatic work remains for this state. -/
def JobState.isTerminal : JobState → Bool
  | .submitted | .failed | .cancelled => true
  | .received | .submitting => false

end Oppa
