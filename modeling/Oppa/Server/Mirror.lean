import Mathlib.Data.List.Nodup
import Mathlib.Data.List.Perm.Subperm
import Mathlib.Logic.Function.Basic
import Oppa.Server.Transition

/-!
# The printers of an agent, mirrored

A connected agent describes its printers in snapshots and in changes; the session keeps what they
add up to.

* `Inventory`, `Mirror` — what the messages mean: printers by their identifier, and a revision.  A
  snapshot replaces the printers, a change removes, adds and updates some of them.
* `listed` — the map that a list of descriptors stands for, and what the session's operations on
  such lists do to it.
* `routingSystem` — the session again, observed at the messages it accepts and those it rejects.
* **`mirrors`** — the session holds what the accepted messages mean, as long as no snapshot that it
  takes for the inventory it has lists a printer twice.  `accepts_mirrors_iff` says that it fails
  exactly there: such a snapshot passes the comparison in `samePrinterInventory`, which counts its
  entries without asking whether they differ.
-/

namespace Oppa.Server

open Protocol

/-! ## What the messages mean -/

/-- Printers by their identifier. -/
abbrev Inventory := String → Option PrinterDescriptor

namespace Inventory

/-- No printers. -/
def empty : Inventory := fun _ => none

/-- The inventory with some printers added or replaced, the later ones last. -/
def set (inventory : Inventory) (printers : List PrinterDescriptor) : Inventory :=
  printers.foldl (fun inventory printer => Function.update inventory printer.id (some printer))
    inventory

/-- The inventory without some printers. -/
def remove (inventory : Inventory) (ids : List String) : Inventory := fun id =>
  if id ∈ ids then none else inventory id

end Inventory

/-- What a server knows of the printers of an agent. -/
structure Mirror where
  printers : Inventory
  revision : Option UInt64

namespace Mirror

/-- Nothing is known. -/
def empty : Mirror := ⟨.empty, none⟩

/-- What is known after another message. -/
def apply (mirror : Mirror) (message : AgentMessage) : Mirror :=
  match message.kind with
  | .printerInventory inventory =>
      { printers := Inventory.empty.set inventory.printers, revision := some inventory.revision }
  | .printerInventoryChanged changed =>
      { printers :=
          ((mirror.printers.remove changed.removedPrinterIds).set changed.added).set changed.updated
        revision := some changed.revision }
  | _ => mirror

end Mirror

/-! ## Lists of descriptors -/

/-- The printers that a list of descriptors stands for. -/
def listed (printers : List PrinterDescriptor) : Inventory := fun id =>
  printers.find? fun printer => printer.id = id

/-- No printer is listed twice. -/
def Distinct (printers : List PrinterDescriptor) : Prop := (printers.map PrinterDescriptor.id).Nodup

instance (printers : List PrinterDescriptor) : Decidable (Distinct printers) :=
  inferInstanceAs (Decidable (List.Nodup _))

section Lists

variable {printers incoming : List PrinterDescriptor} {printer other : PrinterDescriptor}
  {id : String}

@[simp] lemma listed_nil : listed [] = Inventory.empty := rfl

/-- **Every key is the identifier of its printer.** -/
lemma id_of_listed (h : listed printers id = some printer) : printer.id = id := by
  simpa using List.find?_some h

lemma mem_of_listed (h : listed printers id = some printer) : printer ∈ printers :=
  List.mem_of_find?_eq_some h

lemma listed_of_mem (hdistinct : Distinct printers) (hmem : printer ∈ printers) :
    listed printers printer.id = some printer := by
  cases hfound : listed printers printer.id with
  | none =>
      have hnot := List.find?_eq_none.mp hfound printer hmem
      simp at hnot
  | some other =>
      have hsame := List.inj_on_of_nodup_map hdistinct (mem_of_listed hfound) hmem
        (id_of_listed hfound)
      rw [hsame]

/-- Replacing a printer wherever its identifier stands. -/
lemma listed_replace (printer : PrinterDescriptor) (printers : List PrinterDescriptor) :
    listed (printers.map fun old => if old.id = printer.id then printer else old) id =
      if printers.any (·.id = printer.id) ∧ printer.id = id then some printer
      else listed printers id := by
  simp only [listed]
  induction printers with
  | nil => simp
  | cons first rest ih =>
      rw [List.map_cons, List.find?_cons, List.find?_cons, ih]
      by_cases hsame : first.id = printer.id
      · by_cases hid : printer.id = id
        · simp [hsame, hid]
        · simp [hsame, hid]
      · by_cases hid : first.id = id
        · have hother : printer.id ≠ id := fun h => hsame (hid.trans h.symm)
          rw [if_neg hsame]
          simp [hid, hother]
        · simp [hsame, hid]

/-- Setting a printer in a list is setting it in the map. -/
lemma listed_setPrinter (printers : List PrinterDescriptor) (printer : PrinterDescriptor) :
    listed (setPrinter printers printer) =
      Function.update (listed printers) printer.id (some printer) := by
  funext id
  rw [setPrinter, Function.update_apply]
  split
  · rename_i hknown
    rw [listed_replace, hknown]
    simp only [true_and, eq_comm]
  · rename_i hnew
    simp only [List.any_eq_true, decide_eq_true_eq, not_exists, not_and] at hnew
    rw [listed, List.find?_append]
    by_cases hid : id = printer.id
    · have hnone : printers.find? (fun other => other.id = id) = none :=
        List.find?_eq_none.mpr fun other hother h => hnew other hother
          ((of_decide_eq_true h).trans hid)
      rw [hnone, if_pos hid, hid]
      simp
    · have hlast : [printer].find? (fun other => other.id = id) = none := by
        simpa using fun h => hid h.symm
      rw [hlast, Option.or_none, if_neg hid, listed]

lemma listed_foldl (incoming printers : List PrinterDescriptor) :
    listed (incoming.foldl setPrinter printers) = (listed printers).set incoming := by
  induction incoming generalizing printers with
  | nil => rfl
  | cons printer incoming ih =>
      rw [List.foldl_cons, ih, listed_setPrinter]
      rfl

lemma listed_filter (ids : List String) (printers : List PrinterDescriptor) :
    listed (printers.filter fun printer => printer.id ∉ ids) = (listed printers).remove ids := by
  funext id
  rw [Inventory.remove, listed, List.find?_filter]
  split
  · rename_i hremoved
    refine List.find?_eq_none.mpr fun printer _ => ?_
    simp only [decide_eq_true_eq, not_and]
    rintro hkept rfl
    exact hkept hremoved
  · rename_i hkept
    simp only [listed]
    congr 1
    funext printer
    by_cases hid : printer.id = id
    · simp [hid, hkept]
    · simp [hid]

lemma Distinct.setPrinter (hdistinct : Distinct printers) (printer : PrinterDescriptor) :
    Distinct (setPrinter printers printer) := by
  rw [Distinct, Server.setPrinter]
  split
  · have hids : (printers.map fun old => if old.id = printer.id then printer else old).map
        PrinterDescriptor.id = printers.map PrinterDescriptor.id := by
      rw [List.map_map]
      refine List.map_congr_left fun old _ => ?_
      by_cases hid : old.id = printer.id
      · simp [hid]
      · simp [hid]
    rw [hids]
    exact hdistinct
  · rename_i hnew
    simp only [List.any_eq_true, decide_eq_true_eq, not_exists, not_and] at hnew
    rw [List.map_append, List.nodup_append]
    refine ⟨hdistinct, List.nodup_singleton _, ?_⟩
    rintro id hid other hother rfl
    rcases List.mem_map.mp hid with ⟨old, hold, rfl⟩
    exact hnew old hold (List.mem_singleton.mp hother)

lemma Distinct.foldl (hdistinct : Distinct printers) (incoming : List PrinterDescriptor) :
    Distinct (incoming.foldl Server.setPrinter printers) := by
  induction incoming generalizing printers with
  | nil => exact hdistinct
  | cons printer incoming ih => exact ih (hdistinct.setPrinter printer)

lemma Distinct.filter (hdistinct : Distinct printers) (keep : PrinterDescriptor → Bool) :
    Distinct (printers.filter keep) :=
  hdistinct.sublist (List.Sublist.map _ List.filter_sublist)

lemma distinct_nil : Distinct [] := List.nodup_nil

/-- In a list without repetition the map finds exactly the members. -/
lemma listed_eq_some_iff (hdistinct : Distinct printers) :
    listed printers id = some printer ↔ printer ∈ printers ∧ printer.id = id := by
  constructor
  · intro h
    exact ⟨mem_of_listed h, id_of_listed h⟩
  · rintro ⟨hmem, rfl⟩
    exact listed_of_mem hdistinct hmem

/-- Lists with the same members stand for the same printers. -/
lemma listed_congr (hdistinct : Distinct printers) (hincoming : Distinct incoming)
    (hmem : ∀ printer, printer ∈ incoming ↔ printer ∈ printers) :
    listed incoming = listed printers := by
  funext id
  ext printer
  rw [listed_eq_some_iff hincoming, listed_eq_some_iff hdistinct, hmem]

lemma mem_of_mem_setPrinter (h : printer ∈ setPrinter printers other) :
    printer = other ∨ printer ∈ printers := by
  rw [setPrinter] at h
  split at h
  · rcases List.mem_map.mp h with ⟨old, hold, hsame⟩
    split at hsame
    · exact Or.inl hsame.symm
    · exact Or.inr (hsame ▸ hold)
  · rcases List.mem_append.mp h with hold | hnew
    · exact Or.inr hold
    · exact Or.inl (List.mem_singleton.mp hnew)

lemma mem_of_mem_foldl (h : printer ∈ incoming.foldl setPrinter printers) :
    printer ∈ incoming ∨ printer ∈ printers := by
  induction incoming generalizing printers with
  | nil => exact Or.inr h
  | cons first incoming ih =>
      rcases ih h with hlater | hset
      · exact Or.inl (List.mem_cons_of_mem _ hlater)
      · rcases mem_of_mem_setPrinter hset with rfl | hold
        · exact Or.inl List.mem_cons_self
        · exact Or.inr hold

/-- Printers that are all new are appended. -/
lemma foldl_setPrinter_of_distinct (hdistinct : Distinct (printers ++ incoming)) :
    incoming.foldl setPrinter printers = printers ++ incoming := by
  induction incoming generalizing printers with
  | nil => exact (List.append_nil printers).symm
  | cons first incoming ih =>
      have hnew : printers.any (fun old => old.id = first.id) = false := by
        rw [List.any_eq_false]
        intro old hold hsame
        rw [Distinct, List.map_append, List.nodup_append] at hdistinct
        refine hdistinct.2.2 old.id (List.mem_map_of_mem hold) first.id ?_
          (of_decide_eq_true hsame)
        exact List.mem_map_of_mem List.mem_cons_self
      have happend : printers ++ first :: incoming = (printers ++ [first]) ++ incoming := by simp
      rw [List.foldl_cons, setPrinter, hnew, if_neg Bool.false_ne_true, happend]
      exact ih (happend ▸ hdistinct)

/-- A list is taken for the inventory only if all its entries are in it. -/
lemma subset_of_samePrinterInventory (hsame : samePrinterInventory printers incoming = true) :
    printers.length = incoming.length ∧ ∀ printer ∈ incoming, printer ∈ printers := by
  simpa [samePrinterInventory] using hsame

/-- **A list that is taken for the inventory stands for the same printers exactly when it lists none
of them twice.** -/
theorem samePrinterInventory_set_iff (hdistinct : Distinct printers)
    (hsame : samePrinterInventory printers incoming = true) :
    Inventory.empty.set incoming = listed printers ↔ Distinct incoming := by
  obtain ⟨hlength, hsubset⟩ := subset_of_samePrinterInventory hsame
  have hset : Inventory.empty.set incoming = listed (incoming.foldl setPrinter []) :=
    (listed_foldl incoming []).symm
  rw [hset]
  constructor
  · intro heq
    -- every printer of the inventory is in the list, which has no room to repeat one
    have hback : ∀ printer ∈ printers, printer ∈ incoming := by
      intro printer hprinter
      have hfound := listed_of_mem hdistinct hprinter
      rw [← heq] at hfound
      rcases mem_of_mem_foldl (mem_of_listed hfound) with hmem | hnone
      · exact hmem
      · cases hnone
    have hperm : printers.Perm incoming :=
      (List.subperm_of_subset hdistinct.of_map hback).perm_of_length_le (le_of_eq hlength.symm)
    exact (hperm.map _).nodup_iff.mp hdistinct
  · intro hincoming
    have hperm : incoming.Perm printers :=
      (List.subperm_of_subset hincoming.of_map hsubset).perm_of_length_le (le_of_eq hlength)
    have hall : incoming.foldl setPrinter [] = incoming :=
      foldl_setPrinter_of_distinct hincoming
    rw [hall]
    exact listed_congr hdistinct hincoming fun printer => hperm.mem_iff

end Lists

/-! ## The messages a session routes -/

/-- What a session does with a message of a connected agent. -/
inductive Routing
  | accepted (message : AgentMessage)
  | rejected (message : AgentMessage)
  deriving DecidableEq, Repr

/-- What is known after the messages that were accepted. -/
def Mirror.after (routings : List Routing) : Mirror :=
  routings.foldl (fun mirror routing =>
    match routing with
    | .accepted message => mirror.apply message
    | .rejected _ => mirror) .empty

variable {Input : Type} (config : SessionConfig Input)

/-- Whether an instruction ends in a protocol violation. -/
def Next.refuses : Next Input → Bool
  | .continue [.protocolViolation _] => true
  | _ => false

/-- The message that a step routes, if it routes one. -/
def Session.routed (session : Session Input) : Action Input → Option AgentMessage
  | .advance =>
      match session.running with
      | some ⟨_, .routeMessage message :: _⟩ => some message
      | _ => none
  | _ => none

/-- What a step does with the message it routes. -/
def Session.routing (session : Session Input) (action : Action Input) : List Routing :=
  match session.routed action with
  | some message =>
      if (routeMessage config session message).next.refuses then [.rejected message]
      else [.accepted message]
  | none => []

/-- A session, observed at the messages it routes. -/
def routingSystem : History.System (Session Input) (Action Input) Routing where
  step session action :=
    (session.step config action).map fun result => (result.1, session.routing config action)

/-- The session holds what the messages mean, and lists no printer twice. -/
structure Mirrors (session : Session Input) (mirror : Mirror) : Prop where
  printers : listed session.printers = mirror.printers
  revision : session.printerRevision = mirror.revision
  distinct : Distinct session.printers

/-- A snapshot under the recorded revision that is taken for the inventory lists no printer
twice. -/
def DistinctRepeats : History.StepCondition (Session Input) (Action Input) Routing :=
  fun _ session action => ∀ message inventory, session.routed action = some message →
    message.kind = .printerInventory inventory →
    session.printerRevision = some inventory.revision →
    samePrinterInventory session.printers inventory.printers = true → Distinct inventory.printers

section Routes

variable {config} {session session' : Session Input} {mirror : Mirror} {message : AgentMessage}
  {routings : List Routing}

/-- An inventory message that is accepted, by what it does. -/
inductive Accepts (session : Session Input) (message : AgentMessage) (after : Session Input) : Prop
  | other : after.printers = session.printers → after.printerRevision = session.printerRevision →
      (∀ mirror, Mirror.apply mirror message = mirror) → Accepts session message after
  | same {inventory} : message.kind = .printerInventory inventory →
      session.printerRevision = some inventory.revision →
      samePrinterInventory session.printers inventory.printers = true →
      after.printers = session.printers → after.printerRevision = session.printerRevision →
      Accepts session message after
  | snapshot {inventory} : message.kind = .printerInventory inventory →
      (∀ revision, session.printerRevision = some revision → revision < inventory.revision) →
      after.printers = inventory.printers.foldl setPrinter [] →
      after.printerRevision = some inventory.revision → Accepts session message after
  | change {changed} : message.kind = .printerInventoryChanged changed →
      (∀ revision, session.printerRevision = some revision → revision < changed.revision) →
      after.printers = changed.updated.foldl setPrinter (changed.added.foldl setPrinter
        (session.printers.filter fun printer => printer.id ∉ changed.removedPrinterIds)) →
      after.printerRevision = some changed.revision → Accepts session message after

/-- A message that is accepted does one of these things. -/
lemma accepts_routeMessage (haccepted : (routeMessage config session message).next.refuses = false) :
    Accepts session message (routeMessage config session message).session := by
  simp only [routeMessage] at haccepted ⊢
  split
  · rename_i hkind
    exact .other rfl rfl fun mirror => by simp [Mirror.apply, hkind]
  · rename_i hkind
    refine .other ?_ ?_ fun mirror => by simp [Mirror.apply, hkind]
    · simp only [routeHeartbeat]
      split <;> rfl
    · simp only [routeHeartbeat]
      split <;> rfl
  · rename_i inventory hkind
    rw [hkind] at haccepted
    simp only [routeInventory] at haccepted ⊢
    split
    · rename_i hregressed
      simp [if_pos hregressed, goto, Next.refuses] at haccepted
    · rename_i hregressed
      rw [if_neg hregressed] at haccepted
      split
      · rename_i hrepeated
        rw [if_pos hrepeated] at haccepted
        split
        · rename_i hsame
          exact .same hkind hrepeated hsame rfl rfl
        · rename_i hother
          simp [if_neg hother, goto, Next.refuses] at haccepted
      · rename_i hadvanced
        refine .snapshot hkind (fun revision hrevision => ?_) rfl rfl
        rw [hrevision] at hregressed hadvanced
        have hle : ¬ inventory.revision < revision := by simpa using hregressed
        exact UInt64.lt_of_le_of_ne (UInt64.not_lt.mp hle) fun h => hadvanced (by rw [h])
  · rename_i changed hkind
    rw [hkind] at haccepted
    simp only [routeInventoryChanged] at haccepted ⊢
    split
    · rename_i herror
      simp [if_pos herror, goto, Next.refuses] at haccepted
    · rename_i hfine
      refine .change hkind (fun revision hrevision => ?_) rfl rfl
      rw [hrevision, inventoryChangeError] at hfine
      simp only [Bool.or_eq_true, decide_eq_true_eq, not_or] at hfine
      exact UInt64.not_le.mp hfine.1.1.1.1.1.1
  · rename_i hkind
    exact .other rfl rfl fun mirror => by simp [Mirror.apply, hkind]
  · rename_i hkind
    exact .other rfl rfl fun mirror => by simp [Mirror.apply, hkind]
  · rename_i hkind
    exact .other rfl rfl fun mirror => by simp [Mirror.apply, hkind]
  · rename_i hkind
    refine .other ?_ ?_ fun mirror => by simp [Mirror.apply, hkind]
    · split
      · rfl
      · split <;> rfl
    · split
      · rfl
      · split <;> rfl

/-- A message that is rejected leaves the printers and the revision alone. -/
lemma rejects_routeMessage (hrejected : (routeMessage config session message).next.refuses = true) :
    (routeMessage config session message).session.printers = session.printers ∧
      (routeMessage config session message).session.printerRevision = session.printerRevision := by
  have hnotified : ∀ event : HostEvent, (notify config event []).refuses = false := by
    intro event
    simp only [notify]
    split <;> rfl
  simp only [routeMessage] at hrejected ⊢
  split
  · exact ⟨rfl, rfl⟩
  · simp only [routeHeartbeat]
    split <;> exact ⟨rfl, rfl⟩
  · rename_i inventory hkind
    rw [hkind] at hrejected
    simp only [routeInventory] at hrejected ⊢
    split
    · exact ⟨rfl, rfl⟩
    · split
      · split <;> exact ⟨rfl, rfl⟩
      · rename_i hregressed hadvanced
        simp [if_neg hregressed, if_neg hadvanced, hnotified] at hrejected
  · rename_i changed hkind
    rw [hkind] at hrejected
    simp only [routeInventoryChanged] at hrejected ⊢
    split
    · exact ⟨rfl, rfl⟩
    · rename_i hfine
      simp [if_neg hfine, hnotified] at hrejected
  · exact ⟨rfl, rfl⟩
  · exact ⟨rfl, rfl⟩
  · exact ⟨rfl, rfl⟩
  · split
    · exact ⟨rfl, rfl⟩
    · split <;> exact ⟨rfl, rfl⟩

/-- Every other instruction leaves the printers and the revision alone. -/
lemma performs_frame {code : Code Input} {next : Next Input} {effects : List (Effect Input)}
    (hperforms : Performs config session code session' next effects)
    (hcode : ∀ message, code ≠ .routeMessage message) :
    session'.printers = session.printers ∧ session'.printerRevision = session.printerRevision := by
  cases hperforms with
  | routed _ _ => exact absurd rfl (hcode _)
  | _ => exact ⟨rfl, rfl⟩

lemma proceed_frame (owner : Owner) (stack : List (Code Input)) (next : Next Input) :
    (session.proceed owner stack next).printers = session.printers ∧
      (session.proceed owner stack next).printerRevision = session.printerRevision := by
  cases next with
  | fail => cases owner <;> exact ⟨rfl, rfl⟩
  | _ => exact ⟨rfl, rfl⟩

lemma react_frame {action : Action Input} {effects : List (Effect Input)}
    (hreacts : Reacts config session action session' effects) :
    session'.printers = session.printers ∧ session'.printerRevision = session.printerRevision := by
  cases hreacts with
  | @lookupFails response task _ => cases task.owner <;> exact ⟨rfl, rfl⟩
  | _ => exact ⟨rfl, rfl⟩

variable {action : Action Input} {effects : List (Effect Input)}

/-- A step that routes a message leaves what routing it leaves. -/
lemma step_routed (hstep : session.step config action = some (session', effects))
    (hrouted : session.routed action = some message) :
    session'.printers = (routeMessage config session message).session.printers ∧
      session'.printerRevision = (routeMessage config session message).session.printerRevision := by
  cases action with
  | advance =>
      simp only [Session.routed] at hrouted
      split at hrouted
      · rename_i owner routedMessage stack hrunning
        cases hrouted
        simp only [Session.step, hrunning, Session.advance, Option.some.injEq,
          Prod.mk.injEq] at hstep
        obtain ⟨rfl, -⟩ := hstep
        exact proceed_frame owner stack _
      · cases hrouted
  | _ => cases hrouted

/-- A step that routes no message leaves the printers and the revision alone. -/
lemma step_unrouted (hstep : session.step config action = some (session', effects))
    (hrouted : session.routed action = none) :
    session'.printers = session.printers ∧ session'.printerRevision = session.printerRevision := by
  cases step_cases hstep with
  | @performed owner code stack t next shown hrunning hperforms =>
      have hcode : ∀ message, code ≠ .routeMessage message := by
        rintro message rfl
        simp [Session.routed, hrunning] at hrouted
      have hframe := performs_frame hperforms hcode
      have hproceed : (t.proceed owner stack next).printers = t.printers ∧
          (t.proceed owner stack next).printerRevision = t.printerRevision :=
        proceed_frame owner stack next
      exact ⟨hproceed.1.trans hframe.1, hproceed.2.trans hframe.2⟩
  | finished hrunning => exact ⟨rfl, rfl⟩
  | reacted _ hreacts => exact react_frame hreacts

/-- **What a step does with the printers and the revision.** -/
lemma step_accepts (hstep : (routingSystem config).step session action = some (session', routings)) :
    (routings = [] ∧ session'.printers = session.printers ∧
      session'.printerRevision = session.printerRevision) ∨
    (∃ message, routings = [.rejected message] ∧ session'.printers = session.printers ∧
      session'.printerRevision = session.printerRevision) ∨
    ∃ message, session.routed action = some message ∧ routings = [.accepted message] ∧
      Accepts session message session' := by
  simp only [routingSystem, Option.map_eq_some_iff, Prod.mk.injEq] at hstep
  obtain ⟨⟨after, effects⟩, hstep, rfl, rfl⟩ := hstep
  cases hrouted : session.routed action with
  | none =>
      have hframe := step_unrouted hstep hrouted
      exact Or.inl ⟨by simp [Session.routing, hrouted], hframe⟩
  | some message =>
      have hframe := step_routed hstep hrouted
      cases hrefuses : (routeMessage config session message).next.refuses with
      | true =>
          have hrejects := rejects_routeMessage hrefuses
          refine Or.inr (Or.inl ⟨message, by simp [Session.routing, hrouted, hrefuses], ?_⟩)
          exact ⟨hframe.1.trans hrejects.1, hframe.2.trans hrejects.2⟩
      | false =>
          refine Or.inr (Or.inr ⟨message, rfl, by simp [Session.routing, hrouted, hrefuses], ?_⟩)
          cases accepts_routeMessage hrefuses with
          | other hprinters hrevision happly =>
              exact .other (hframe.1.trans hprinters) (hframe.2.trans hrevision) happly
          | same hkind hrepeated hsame hprinters hrevision =>
              exact .same hkind hrepeated hsame (hframe.1.trans hprinters)
                (hframe.2.trans hrevision)
          | snapshot hkind hnewer hprinters hrevision =>
              exact .snapshot hkind hnewer (hframe.1.trans hprinters) (hframe.2.trans hrevision)
          | change hkind hnewer hprinters hrevision =>
              exact .change hkind hnewer (hframe.1.trans hprinters) (hframe.2.trans hrevision)

/-- **An accepted message is mirrored, unless it is a snapshot taken for the inventory that lists a
printer twice; then it is not.** -/
theorem accepts_mirrors_iff (hmirrors : Mirrors session mirror)
    (haccepts : Accepts session message session') :
    Mirrors session' (mirror.apply message) ↔
      ∀ inventory, message.kind = .printerInventory inventory →
        session.printerRevision = some inventory.revision →
        samePrinterInventory session.printers inventory.printers = true →
        Distinct inventory.printers := by
  cases haccepts with
  | other hprinters hrevision happly =>
      rw [happly mirror]
      refine ⟨fun _ inventory hkind _ _ => ?_, fun _ => ?_⟩
      · have hempty := congrArg Mirror.revision (happly .empty)
        simp [Mirror.apply, hkind, Mirror.empty] at hempty
      · exact ⟨hprinters ▸ hmirrors.printers, hrevision ▸ hmirrors.revision,
          hprinters ▸ hmirrors.distinct⟩
  | @same inventory hkind hrepeated hsame hprinters hrevision =>
      have hset := samePrinterInventory_set_iff hmirrors.distinct hsame
      have happly : mirror.apply message =
          ⟨Inventory.empty.set inventory.printers, some inventory.revision⟩ := by
        simp only [Mirror.apply, hkind]
      rw [happly]
      constructor
      · intro hafter other hother _ _
        rw [hkind] at hother
        cases hother
        exact hset.mp (hafter.printers.symm.trans (congrArg listed hprinters))
      · intro hdistinct
        have hlisted := hset.mpr (hdistinct inventory hkind hrepeated hsame)
        exact ⟨(congrArg listed hprinters).trans hlisted.symm, hrevision.trans hrepeated,
          hprinters ▸ hmirrors.distinct⟩
  | @snapshot inventory hkind hnewer hprinters hrevision =>
      refine ⟨fun _ other hother hrepeated _ => ?_, fun _ => ⟨?_, ?_, ?_⟩⟩
      · rw [hkind] at hother
        cases hother
        exact absurd (hnewer _ hrepeated) (UInt64.lt_irrefl _)
      · simp only [Mirror.apply, hkind]
        rw [hprinters, listed_foldl]
        rfl
      · simp only [Mirror.apply, hkind]
        exact hrevision
      · rw [hprinters]
        exact distinct_nil.foldl _
  | @change changed hkind hnewer hprinters hrevision =>
      refine ⟨fun _ other hother _ _ => ?_, fun _ => ⟨?_, ?_, ?_⟩⟩
      · rw [hkind] at hother
        cases hother
      · simp only [Mirror.apply, hkind]
        rw [hprinters, listed_foldl, listed_foldl, listed_filter, hmirrors.printers]
      · simp only [Mirror.apply, hkind]
        exact hrevision
      · rw [hprinters]
        exact ((hmirrors.distinct.filter _).foldl _).foldl _

/-- An accepted message does not take the revision back. -/
lemma accepts_revision (haccepts : Accepts session message session') {revision : UInt64}
    (hrevision : session.printerRevision = some revision) :
    ∃ newer, session'.printerRevision = some newer ∧ revision ≤ newer := by
  cases haccepts with
  | other _ hsame _ => exact ⟨revision, hsame.trans hrevision, UInt64.le_refl _⟩
  | same _ _ _ _ hsame => exact ⟨revision, hsame.trans hrevision, UInt64.le_refl _⟩
  | snapshot _ hnewer _ hafter => exact ⟨_, hafter, UInt64.le_of_lt (hnewer _ hrevision)⟩
  | change _ hnewer _ hafter => exact ⟨_, hafter, UInt64.le_of_lt (hnewer _ hrevision)⟩

end Routes

/-! ## Whole runs -/

section Runs

variable {config} {session session' : Session Input} {history routings : List Routing}
  {action : Action Input}

lemma mirrors_initial : Mirrors (Session.initial config) (Mirror.after []) :=
  ⟨rfl, rfl, distinct_nil⟩

@[simp] lemma after_append_nil : Mirror.after (history ++ []) = Mirror.after history := by
  rw [List.append_nil]

lemma after_rejected (message : AgentMessage) :
    Mirror.after (history ++ [.rejected message]) = Mirror.after history := by
  rw [Mirror.after, List.foldl_append]
  rfl

lemma after_accepted (message : AgentMessage) :
    Mirror.after (history ++ [.accepted message]) = (Mirror.after history).apply message := by
  rw [Mirror.after, List.foldl_append]
  rfl

/-- One step keeps the mirror, if it takes no repeating snapshot for the inventory. -/
lemma mirrors_step (hmirrors : Mirrors session (Mirror.after history))
    (hrepeats : DistinctRepeats history session action)
    (hstep : (routingSystem config).step session action = some (session', routings)) :
    Mirrors session' (Mirror.after (history ++ routings)) := by
  rcases step_accepts hstep with ⟨rfl, hprinters, hrevision⟩ |
    ⟨message, rfl, hprinters, hrevision⟩ | ⟨message, hrouted, rfl, haccepts⟩
  · rw [after_append_nil]
    exact ⟨hprinters ▸ hmirrors.printers, hrevision ▸ hmirrors.revision,
      hprinters ▸ hmirrors.distinct⟩
  · rw [after_rejected]
    exact ⟨hprinters ▸ hmirrors.printers, hrevision ▸ hmirrors.revision,
      hprinters ▸ hmirrors.distinct⟩
  · rw [after_accepted]
    refine (accepts_mirrors_iff hmirrors haccepts).mpr fun inventory hkind => ?_
    exact hrepeats message inventory hrouted hkind

/-- What a step may do to the printers that a session keeps: only an accepted message changes them
or the revision, and none takes the revision back. -/
structure Guarded (session session' : Session Input) (routings : List Routing) : Prop where
  revision : ∀ revision, session.printerRevision = some revision →
    ∃ newer, session'.printerRevision = some newer ∧ revision ≤ newer
  unchanged : (∀ message, .accepted message ∉ routings) →
    session'.printers = session.printers ∧ session'.printerRevision = session.printerRevision

lemma guarded_step
    (hstep : (routingSystem config).step session action = some (session', routings)) :
    Guarded session session' routings := by
  rcases step_accepts hstep with ⟨rfl, hprinters, hrevision⟩ |
    ⟨message, rfl, hprinters, hrevision⟩ | ⟨message, hrouted, rfl, haccepts⟩
  · exact ⟨fun revision h => ⟨revision, hrevision.trans h, UInt64.le_refl _⟩,
      fun _ => ⟨hprinters, hrevision⟩⟩
  · exact ⟨fun revision h => ⟨revision, hrevision.trans h, UInt64.le_refl _⟩,
      fun _ => ⟨hprinters, hrevision⟩⟩
  · refine ⟨fun revision => accepts_revision haccepts, fun hnone => ?_⟩
    exact absurd List.mem_cons_self (hnone message)

/-- **The printer mirror.**  In every run in which no snapshot that is taken for the inventory lists
a printer twice, the session holds what the accepted messages mean; every key is the identifier of
its printer; and every step is guarded. -/
theorem mirrors (hrun : (routingSystem config).Runs DistinctRepeats (Session.initial config)
      history session) :
    Mirrors session (Mirror.after history) ∧
    (∀ id printer, (Mirror.after history).printers id = some printer → printer.id = id) ∧
    ∀ action session' routings,
      (routingSystem config).step session action = some (session', routings) →
      Guarded session session' routings := by
  have hmirrors : Mirrors session (Mirror.after history) :=
    hrun.invariant mirrors_initial fun _ _ _ _ _ _ hmirrors hrepeats hstep =>
      mirrors_step hmirrors hrepeats hstep
  refine ⟨hmirrors, fun id printer hprinter => ?_, fun _ _ _ hstep => guarded_step hstep⟩
  rw [← hmirrors.printers] at hprinter
  exact id_of_listed hprinter

end Runs

/-! ## A snapshot that repeats a printer -/

namespace Sample

/-- A virtual printer. -/
def printer (id : String) : PrinterDescriptor where
  id := id
  fingerprint := "virtual:" ++ id
  name := "Receipts"
  kind := .virtual
  connection := .virtual
  capabilities := none
  enabled := true
  availability := .online

/-- A snapshot of some printers. -/
def snapshot (revision : UInt64) (ids : List String) : AgentMessage :=
  message none (.printerInventory ⟨revision, ids.map printer⟩)

/-- A server whose agent announces two printers, then removes one, then lists one printer twice. -/
def inventoryConfig : SessionConfig Wire :=
  { Sample.config with
    decodeAgentMessage := fun
      | .answer "snapshot" => .ok (snapshot 1 ["printer_1", "printer_2"])
      | .answer "change" =>
          .ok (message none (.printerInventoryChanged ⟨2, [], [], ["printer_2"]⟩))
      | .answer "repeating" => .ok (snapshot 1 ["printer_1", "printer_1"])
      | wire => Sample.config.decodeAgentMessage wire }

/-- The next message of the agent, routed to the end. -/
def announce (name : String) : List (Action Wire) :=
  [.receive (.answer name), .process, .advance, .advance]

/-- The host has taken notice of the printers. -/
def noticed : List (Action Wire) := [.settleCallback 0 true, .advance]

/-- Two printers are announced. -/
def announced : List (Action Wire) := connected ++ announce "snapshot"

/-- One of them is removed. -/
def removed : List (Action Wire) := announced ++ noticed ++ announce "change"

/-- Instead, one of them is listed twice. -/
def repeated : List (Action Wire) := announced ++ noticed ++ announce "repeating"

/-- Whether a step meets `DistinctRepeats`. -/
def distinctRepeats (_ : List Routing) (session : Session Wire) (action : Action Wire) : Bool :=
  match (session.routed action).map AgentMessage.kind with
  | some (.printerInventory inventory) =>
      !(session.printerRevision = some inventory.revision &&
        samePrinterInventory session.printers inventory.printers) || Distinct inventory.printers
  | _ => true

lemma distinctRepeats_sound (history : List Routing) (session : Session Wire)
    (action : Action Wire) (hcheck : distinctRepeats history session action = true) :
    DistinctRepeats history session action := by
  intro message inventory hrouted hkind hrevision hsame
  simpa [distinctRepeats, hrouted, hkind, hrevision, hsame] using hcheck

end Sample

namespace Sample

/-- A run of the sample server, as far as its steps pass a check. -/
def routed (check : List Routing → Session Wire → Action Wire → Bool)
    (actions : List (Action Wire)) : List Routing × Session Wire :=
  (routingSystem inventoryConfig).run check (Session.initial inventoryConfig) actions

end Sample

/-- The mirror after one of two announced printers is removed. -/
theorem mirrors_removed :
    let mirror := Mirror.after (Sample.routed Sample.distinctRepeats Sample.removed).1
    mirror.printers "printer_1" = some (Sample.printer "printer_1") ∧
      mirror.printers "printer_2" = none := by
  intro mirror
  have hrun : (routingSystem Sample.inventoryConfig).Runs DistinctRepeats
      (Session.initial Sample.inventoryConfig)
      (Sample.routed Sample.distinctRepeats Sample.removed).1
      (Sample.routed Sample.distinctRepeats Sample.removed).2 :=
    History.System.runs_run Sample.distinctRepeats_sound Sample.removed
  have hmirrors := (mirrors hrun).1
  show (Mirror.after _).printers _ = _ ∧ (Mirror.after _).printers _ = _
  rw [← hmirrors.printers]
  decide +kernel

/-- A snapshot that lists one of two printers twice is accepted, and both stay. -/
theorem repeating_snapshot_not_mirrored :
    ∃ history session, (routingSystem Sample.inventoryConfig).Runs History.anyStep
        (Session.initial Sample.inventoryConfig) history session ∧
      history = [.accepted (Sample.snapshot 1 ["printer_1", "printer_2"]),
        .accepted (Sample.snapshot 1 ["printer_1", "printer_1"])] ∧
      (Mirror.after history).printers "printer_2" = none ∧
      listed session.printers "printer_2" = some (Sample.printer "printer_2") := by
  have hrun : (routingSystem Sample.inventoryConfig).Runs History.anyStep
      (Session.initial Sample.inventoryConfig)
      (Sample.routed (fun _ _ _ => true) Sample.repeated).1
      (Sample.routed (fun _ _ _ => true) Sample.repeated).2 :=
    History.System.runs_run (fun _ _ _ _ => trivial) Sample.repeated
  refine ⟨_, _, hrun, ?_⟩
  decide +kernel

end Oppa.Server
