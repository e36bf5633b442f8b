import Mathlib.Data.List.Basic
import Mathlib.Tactic.Lemma

/-!
# Bounded channels with one receiver

A channel of fixed capacity.  A sender that finds no room waits in line; the room that a receipt
frees goes to the first in line at once, so nobody can overtake it.

* `Channel.send`, `Channel.trySend`, `Channel.receive`, `Channel.close` — the operations.
* `Channel.HasRoom` — whether a message is taken at once; `Channel.Blocks i` — whether the sender `i`
  waits for room.
* `blocks_send`, `blocks_receive`, … — what each operation does to those in line.

Senders are told apart by an index of any type.
-/

namespace Foundation

variable {ι α : Type}

/-- A bounded channel. -/
structure Channel (ι α : Type) where
  capacity : ℕ
  queue : List α
  /-- The senders that wait for room, with what they send. -/
  line : List (ι × α)
  /-- The receiver is gone. -/
  closed : Bool
  deriving DecidableEq, Repr

namespace Channel

/-- A channel nothing has been sent on. -/
def empty (capacity : ℕ) : Channel ι α where
  capacity := capacity
  queue := []
  line := []
  closed := false

variable (channel : Channel ι α)

/-- A message that is sent now does not have to wait. -/
def HasRoom : Prop := channel.closed = true ∨ channel.line = [] ∧ channel.queue.length < channel.capacity

instance : Decidable channel.HasRoom := by
  unfold HasRoom
  cases channel.line with
  | nil => exact inferInstanceAs (Decidable (_ ∨ _ ∧ _))
  | cons _ _ => exact decidable_of_iff (channel.closed = true) (by simp)

/-- The sender waits for room. -/
def Blocks (i : ι) : Prop := i ∈ channel.line.map Prod.fst

instance [DecidableEq ι] (i : ι) : Decidable (channel.Blocks i) :=
  inferInstanceAs (Decidable (_ ∈ _))

/-- Puts a message behind those in the queue. -/
def push (a : α) : Channel ι α := { channel with queue := channel.queue ++ [a] }

/-- Sends, and waits for room; on a closed channel the message is lost. -/
def send (i : ι) (a : α) : Channel ι α :=
  if channel.closed then channel
  else if channel.HasRoom then channel.push a
  else { channel with line := channel.line ++ [(i, a)] }

/-- Sends if there is room. -/
def trySend (a : α) : Channel ι α :=
  if channel.closed = false ∧ channel.HasRoom then channel.push a else channel

/-- Takes the first message, and lets the first in line send. -/
def receive : Option (α × Channel ι α) :=
  match channel.queue, channel.line with
  | [], _ => none
  | a :: queue, [] => some (a, { channel with queue := queue })
  | a :: queue, (_, b) :: line => some (a, { channel with queue := queue ++ [b], line := line })

/-- The receiver goes; whoever waits is told. -/
def close : Channel ι α := { channel with queue := [], line := [], closed := true }

/-! ## Those in line -/

variable {channel} {i j : ι} {a : α}

example : channel.close.send i a = channel.close := by simp [send, close]

example : ((empty 0).send i a).Blocks i := by simp [Blocks, send, empty, HasRoom]

@[simp] lemma blocks_empty (capacity : ℕ) : ¬ (empty capacity : Channel ι α).Blocks i := by
  simp [Blocks, empty]

@[simp] lemma blocks_close : ¬ channel.close.Blocks i := by
  simp [Blocks, close]

@[simp] lemma blocks_trySend : (channel.trySend a).Blocks i ↔ channel.Blocks i := by
  simp only [trySend]
  split <;> rfl

lemma line_trySend : (channel.trySend a).line = channel.line := by
  simp only [trySend]
  split <;> rfl

/-- A sender joins the line exactly when there is no room. -/
lemma blocks_send :
    (channel.send i a).Blocks j ↔ channel.Blocks j ∨ j = i ∧ ¬ channel.HasRoom := by
  simp only [send]
  split_ifs with hclosed hroom
  · simp [HasRoom, hclosed]
  · simp [hroom, push, Blocks]
  · simp [Blocks, hroom]

/-- With room the line does not change. -/
lemma line_send_of_hasRoom (hroom : channel.HasRoom) : (channel.send i a).line = channel.line := by
  simp only [send, if_pos hroom]
  split <;> rfl

/-- The line of a send that finds no room. -/
lemma line_send_of_not_hasRoom (hfull : ¬ channel.HasRoom) :
    (channel.send i a).line = channel.line ++ [(i, a)] := by
  have hopen : channel.closed = false := by
    simp only [HasRoom, not_or] at hfull
    simpa using hfull.1
  simp [send, hopen, hfull]

/-- A receipt takes the first out of the line. -/
lemma line_receive {next : Channel ι α} (hreceive : channel.receive = some (a, next)) :
    next.line = channel.line.tail := by
  simp only [receive] at hreceive
  split at hreceive
  · cases hreceive
  · rename_i hline
    cases hreceive
    simp [hline]
  · rename_i hline
    cases hreceive
    simp [hline]

lemma blocks_of_receive {next : Channel ι α} (hreceive : channel.receive = some (a, next))
    (hblocks : next.Blocks i) : channel.Blocks i := by
  rw [Blocks, line_receive hreceive] at hblocks
  rw [Blocks]
  cases hline : channel.line with
  | nil => simp [hline] at hblocks
  | cons first line =>
      rw [hline, List.tail_cons] at hblocks
      exact List.mem_cons_of_mem _ hblocks

lemma blocks_of_mem_tail (htail : i ∈ channel.line.tail.map Prod.fst) : channel.Blocks i := by
  rw [List.map_tail] at htail
  exact List.mem_of_mem_tail htail

/-- In a line nobody stands in twice, the first is not behind himself. -/
lemma not_mem_tail_of_head (hnodup : (channel.line.map Prod.fst).Nodup)
    (hfirst : (channel.line.map Prod.fst).head? = some i) :
    i ∉ channel.line.tail.map Prod.fst := by
  cases hline : channel.line with
  | nil => simp
  | cons first line =>
      rw [hline, List.map_cons, List.head?_cons, Option.some.injEq] at hfirst
      rw [hline, List.map_cons, List.nodup_cons, hfirst] at hnodup
      exact hnodup.1

end Channel

end Foundation
