import Oppa.Desktop.CatalogSound
import Oppa.Desktop.Descriptor

/-!
# The revisions that are sent with the printers

`send_inventory` reads the printers of the catalog and its revision one after the other, without
the lock that the operations on the catalog take.

* `sends` — one session that sends its inventory at any time between the steps of the catalog.
* `Agreeing` — the law that the server enforces: revisions never decrease, and one revision stands
  for one list of printers.
* `Untorn` — the condition on a send: as many calls had written their rows when the printers were
  read as have counted the revision up when it is read.
* **`agreeing`** — under it the law holds in every run; `torn_read_disagrees` breaks it otherwise.
-/

namespace Oppa.Desktop

open Printer Discovery PrinterCatalog

/-! ## The session -/

/-- The catalog, and the send of a session that is under way. -/
structure InventorySession where
  catalog : PrinterCatalog
  /-- The printers that `send_inventory` has read when it comes to the revision. -/
  reading : Option (List Protocol.PrinterDescriptor)

/-- What happens next. -/
inductive InventoryAction
  /-- A step of the catalog. -/
  | mutate (action : CatalogAction)
  /-- `send_inventory` reads the printers. -/
  | read
  /-- `send_inventory` reads the revision and sends both. -/
  | send

/-- What can be told of a run. -/
inductive InventoryEvent
  /-- The rows in memory are replaced by rows that are described so. -/
  | wrote (printers : List Protocol.PrinterDescriptor)
  /-- The revision is counted up. -/
  | bumped
  | read
  | sent (revision : UInt64) (printers : List Protocol.PrinterDescriptor)

section Steps

variable (catalogs : History.System PrinterCatalog CatalogAction CatalogEvent)
  (features : ProductFeatures) (lowercase : String → String) (version : Protocol.ProtocolVersion)

/-- The printers of the rows, as far as they can be described. -/
def descriptors (state : PersistedCatalog) : List Protocol.PrinterDescriptor :=
  (protocolDescriptors lowercase features state).toOption.getD []

/-- What a step of the catalog tells of the rows and the revision. -/
def mutated (catalog : PrinterCatalog) : CatalogAction → List InventoryEvent
  | .advance =>
      match catalog.mutation with
      | some (.write next :: _) => [.wrote (descriptors features lowercase next)]
      | some (.bumpRevision :: _) => [.bumped]
      | _ => []
  | _ => []

/-- One session of the application that is running. -/
def sends : History.System InventorySession InventoryAction InventoryEvent where
  step session
    | .mutate (.restart _) => none
    | .mutate action =>
        (catalogs.step session.catalog action).map fun (next, _) =>
          ({ session with catalog := next }, mutated features lowercase session.catalog action)
    | .read =>
        match session.reading, protocolDescriptors lowercase features session.catalog.state with
        | none, .ok printers => some ({ session with reading := some printers }, [.read])
        | _, _ => none
    | .send =>
        session.reading.map fun printers =>
          ({ session with reading := none },
            [.sent session.catalog.revision (Protocol.projectInventory printers version)])

end Steps

/-! ## The law and the condition -/

/-- The inventory that an event sends. -/
def InventoryEvent.inventory : InventoryEvent → Option (UInt64 × List Protocol.PrinterDescriptor)
  | .sent revision printers => some (revision, printers)
  | _ => none

/-- The inventories that were sent. -/
def inventories (past : List InventoryEvent) : List (UInt64 × List Protocol.PrinterDescriptor) :=
  past.filterMap InventoryEvent.inventory

/-- Whether an inventory follows the ones before it. -/
def Agrees (past : List InventoryEvent) : InventoryEvent → Prop
  | .sent revision printers => ∀ earlier ∈ inventories past,
      earlier.1 ≤ revision ∧ (earlier.1 = revision → earlier.2 = printers)
  | _ => True

/-- Revisions never decrease, and one revision stands for one list of printers. -/
def Agreeing (history : List InventoryEvent) : Prop := History.EachAfter Agrees history

instance (past : List InventoryEvent) : (event : InventoryEvent) → Decidable (Agrees past event)
  | .sent revision printers => inferInstanceAs (Decidable (∀ earlier ∈ inventories past,
      earlier.1 ≤ revision ∧ (earlier.1 = revision → earlier.2 = printers)))
  | .wrote _ => .isTrue trivial
  | .bumped => .isTrue trivial
  | .read => .isTrue trivial

instance (history : List InventoryEvent) : Decidable (Agreeing history) :=
  inferInstanceAs (Decidable (History.EachAfter Agrees history))

/-- How often rows were written and the revision was counted up, and how often rows had been written
when the printers were last read. -/
structure Tally where
  writes : ℕ
  bumps : ℕ
  read : ℕ
  deriving DecidableEq, Repr

/-- One more event. -/
def Tally.count (tally : Tally) : InventoryEvent → Tally
  | .wrote _ => { tally with writes := tally.writes + 1 }
  | .bumped => { tally with bumps := tally.bumps + 1 }
  | .read => { tally with read := tally.writes }
  | .sent _ _ => tally

/-- The counts of a run. -/
def tally (past : List InventoryEvent) : Tally := past.foldl Tally.count ⟨0, 0, 0⟩

/-- Whether a send has read the printers and the revision of one state, and the revision is not used
up. -/
def Untorn (past : List InventoryEvent) (session : InventorySession) : InventoryAction → Prop
  | .send => (tally past).read = (tally past).bumps
  | .mutate .advance => session.catalog.mutation.bind List.head? = some .bumpRevision →
      session.catalog.revision.toNat + 1 < 2 ^ 64
  | _ => True

instance (past : List InventoryEvent) (session : InventorySession) :
    (action : InventoryAction) → Decidable (Untorn past session action)
  | .send => inferInstanceAs (Decidable ((tally past).read = (tally past).bumps))
  | .read => .isTrue trivial
  | .mutate (.scan _) => .isTrue trivial
  | .mutate (.start _ _) => .isTrue trivial
  | .mutate (.restart _) => .isTrue trivial
  | .mutate .advance => inferInstanceAs (Decidable
      (session.catalog.mutation.bind List.head? = some .bumpRevision →
        session.catalog.revision.toNat + 1 < 2 ^ 64))

/-! ## What a step of the catalog tells -/

section Mutations

variable {features : ProductFeatures} {lowercase : String → String}
  {catalog next : PrinterCatalog} {events : List CatalogEvent}

/-- A step of a call keeps the revision unless it counts it up. -/
lemma perform_revision {effect : Effect} (hperform : catalog.perform features effect = .ok next) :
    next.revision = if effect = .bumpRevision then catalog.bumped else catalog.revision := by
  cases effect with
  | upsert reference =>
      rw [perform] at hperform
      split at hperform
      · cases hperform
        rfl
      · cases hperform
  | summarize printer =>
      rw [perform, Result.map_eq_ok] at hperform
      rcases hperform with ⟨_, _, rfl⟩
      rfl
  | list =>
      rw [perform, Result.map_eq_ok] at hperform
      rcases hperform with ⟨_, _, rfl⟩
      rfl
  | write state =>
      cases hperform
      rfl
  | register id mode delayMs =>
      cases hperform
      rfl
  | unregister id =>
      cases hperform
      rfl
  | withdraw id =>
      cases hperform
      rfl
  | bumpRevision =>
      cases hperform
      rfl

/-- What a step can do to the rows and to the revision. -/
inductive Moves (features : ProductFeatures) (lowercase : String → String)
    (catalog next : PrinterCatalog) : List InventoryEvent → Prop
  | kept (hstate : next.state = catalog.state) (hrevision : next.revision = catalog.revision) :
      Moves features lowercase catalog next []
  | wrote (hrevision : next.revision = catalog.revision) :
      Moves features lowercase catalog next [.wrote (descriptors features lowercase next.state)]
  | bumped (hstate : next.state = catalog.state) (hrevision : next.revision = catalog.bumped) :
      Moves features lowercase catalog next [.bumped]

/-- **A step that is no start writes the rows, counts the revision up, or does neither.** -/
theorem moves {action : CatalogAction} (hrunning : ∀ fault, action ≠ .restart fault)
    (hacts : Acts features lowercase catalog action next events) :
    Moves features lowercase catalog next (mutated features lowercase catalog action) := by
  cases hacts with
  | scanned surroundings => exact .kept rfl rfl
  | @started call _ _ _ _ hstarts =>
      rcases @taken_eq catalog call with ⟨scans, htaken, _⟩
      cases hstarts <;> rw [htaken] <;> exact .kept rfl rfl
  | returned hmutation =>
      rw [mutated, hmutation]
      exact .kept rfl rfl
  | @performed effect effects result hmutation hperform =>
      have hrevision := perform_revision hperform
      rcases perform_frame hperform with ⟨_, _, hstate⟩
      rw [mutated, hmutation]
      rcases hstate with rfl | ⟨hstate, hother⟩
      · exact .wrote hrevision
      · cases effect with
        | write state => exact absurd rfl (hother state)
        | bumpRevision => exact .bumped hstate hrevision
        | _ => exact .kept hstate hrevision
  | @failed effect effects _ hmutation hperform =>
      rw [mutated, hmutation]
      cases effect with
      | write state => cases hperform
      | bumpRevision => cases hperform
      | _ => exact .kept rfl rfl
  | @restarted fault _ _ => exact absurd rfl (hrunning fault)

end Mutations

/-! ## What a run has shown -/

section Runs

variable {features : ProductFeatures} {lowercase : String → String}
  {version : Protocol.ProtocolVersion} {initial : PrinterCatalog} {past : List InventoryEvent}
  {session next : InventorySession}

/-- The printers that an event says the rows are described as. -/
def InventoryEvent.rows : InventoryEvent → Option (List Protocol.PrinterDescriptor)
  | .wrote printers => some printers
  | _ => none

/-- What the rows were described as, after each time they were written. -/
def shown (first : List Protocol.PrinterDescriptor) (past : List InventoryEvent) :
    List (List Protocol.PrinterDescriptor) :=
  first :: past.filterMap InventoryEvent.rows

lemma shown_append {first : List Protocol.PrinterDescriptor} (more : List InventoryEvent) :
    shown first (past ++ more) = shown first past ++ more.filterMap InventoryEvent.rows := by
  rw [shown, shown, List.filterMap_append, List.cons_append]

lemma shown_getElem?_append {first rows : List Protocol.PrinterDescriptor} {n : ℕ}
    (hrows : (shown first past)[n]? = some rows) (more : List InventoryEvent) :
    (shown first (past ++ more))[n]? = some rows := by
  rw [shown_append, List.getElem?_append_left (List.getElem?_eq_some_iff.mp hrows).1]
  exact hrows

@[simp] lemma tally_concat (event : InventoryEvent) :
    tally (past ++ [event]) = (tally past).count event := by
  rw [tally, List.foldl_append]
  rfl

/-- What the events of a run say of the catalog and of what was sent. -/
structure Recorded (features : ProductFeatures) (lowercase : String → String)
    (version : Protocol.ProtocolVersion) (initial : PrinterCatalog) (past : List InventoryEvent)
    (session : InventorySession) : Prop where
  length : (shown (descriptors features lowercase initial.state) past).length =
    (tally past).writes + 1
  current : (shown (descriptors features lowercase initial.state) past)[(tally past).writes]? =
    some (descriptors features lowercase session.catalog.state)
  reading : ∀ printers ∈ session.reading,
    (shown (descriptors features lowercase initial.state) past)[(tally past).read]? = some printers
  revision : session.catalog.revision.toNat = initial.revision.toNat + (tally past).bumps
  sent : ∀ revision printers, .sent revision printers ∈ past → ∃ n rows,
    revision.toNat = initial.revision.toNat + n ∧ n ≤ (tally past).bumps ∧
      (shown (descriptors features lowercase initial.state) past)[n]? = some rows ∧
      printers = Protocol.projectInventory rows version

lemma mem_inventories {revision : UInt64} {printers : List Protocol.PrinterDescriptor} :
    (revision, printers) ∈ inventories past ↔ .sent revision printers ∈ past := by
  rw [inventories, List.mem_filterMap]
  constructor
  · rintro ⟨event, hevent, hinventory⟩
    cases event with
    | sent found rows =>
        cases hinventory
        exact hevent
    | _ => cases hinventory
  · intro hsent
    exact ⟨_, hsent, rfl⟩

/-- Nothing happened yet. -/
lemma recorded_initial : Recorded features lowercase version initial [] ⟨initial, none⟩ where
  length := rfl
  current := rfl
  reading := by
    intro printers hprinters
    cases hprinters
  revision := rfl
  sent := by
    intro revision printers hsent
    cases hsent

/-- The inventories that were sent stay what they were. -/
lemma Recorded.sent_append (hrecorded : Recorded features lowercase version initial past session)
    (more : List InventoryEvent) {bumps : ℕ} (hbumps : (tally past).bumps ≤ bumps)
    {revision : UInt64} {printers : List Protocol.PrinterDescriptor}
    (hsent : .sent revision printers ∈ past) : ∃ n rows,
      revision.toNat = initial.revision.toNat + n ∧ n ≤ bumps ∧
        (shown (descriptors features lowercase initial.state) (past ++ more))[n]? = some rows ∧
        printers = Protocol.projectInventory rows version := by
  rcases hrecorded.sent revision printers hsent with ⟨n, rows, hrevision, hn, hrows, hprinters⟩
  exact ⟨n, rows, hrevision, hn.trans hbumps, shown_getElem?_append hrows more, hprinters⟩

/-- A step of the catalog is recorded. -/
lemma Recorded.moved (hrecorded : Recorded features lowercase version initial past session)
    {catalog : PrinterCatalog} {events : List InventoryEvent}
    (hlimit : events = [.bumped] → session.catalog.revision.toNat + 1 < 2 ^ 64)
    (hmoves : Moves features lowercase session.catalog catalog events) :
    Recorded features lowercase version initial (past ++ events)
      { session with catalog := catalog } := by
  cases hmoves with
  | kept hstate hrevision =>
      rw [List.append_nil]
      refine ⟨hrecorded.length, ?_, hrecorded.reading, ?_, hrecorded.sent⟩
      · rw [hstate]
        exact hrecorded.current
      · rw [hrevision]
        exact hrecorded.revision
  | wrote hrevision =>
      have hlength := hrecorded.length
      refine ⟨?_, ?_, ?_, ?_, ?_⟩
      · rw [shown_append, List.length_append, tally_concat, hlength]
        rfl
      · rw [shown_append, tally_concat, List.getElem?_append_right (by rw [hlength]; rfl), hlength]
        simp [Tally.count, InventoryEvent.rows]
      · intro printers hprinters
        rw [tally_concat]
        exact shown_getElem?_append (hrecorded.reading printers hprinters) _
      · rw [tally_concat, hrevision]
        exact hrecorded.revision
      · intro revision printers hsent
        rw [tally_concat]
        refine hrecorded.sent_append _ le_rfl ?_
        simpa using hsent
  | bumped hstate hrevision =>
      have hlimit := hlimit rfl
      refine ⟨?_, ?_, ?_, ?_, ?_⟩
      · rw [shown_append, List.length_append, tally_concat, hrecorded.length]
        rfl
      · rw [hstate, tally_concat]
        exact shown_getElem?_append hrecorded.current _
      · intro printers hprinters
        rw [tally_concat]
        exact shown_getElem?_append (hrecorded.reading printers hprinters) _
      · rw [tally_concat, hrevision, bumped, if_pos hlimit, UInt64.toNat_add, hrecorded.revision]
        have hone : (1 : UInt64).toNat = 1 := rfl
        have hstart := hrecorded.revision
        rw [hone, Nat.mod_eq_of_lt (by omega)]
        rfl
      · intro revision printers hsent
        rw [tally_concat]
        refine hrecorded.sent_append _ (Nat.le_succ _) ?_
        simpa using hsent

lemma sends_mutate {catalogs : History.System PrinterCatalog CatalogAction CatalogEvent}
    {action : CatalogAction} (hrunning : ∀ fault, action ≠ .restart fault) :
    (sends catalogs features lowercase version).step session (.mutate action) =
      (catalogs.step session.catalog action).map fun (catalog, _) =>
        ({ session with catalog := catalog },
          mutated features lowercase session.catalog action) := by
  cases action with
  | restart fault => exact absurd rfl (hrunning fault)
  | _ => rfl

/-- What the catalog tells agrees with everything. -/
lemma agrees_of_moves {catalog : PrinterCatalog} {events : List InventoryEvent}
    (hmoves : Moves features lowercase session.catalog catalog events) :
    History.EachAfter (fun earlier event => Agrees (past ++ earlier) event) events := by
  refine History.eachAfter_of_forall ?_
  intro earlier event hevent
  cases hmoves with
  | kept _ _ => cases hevent
  | wrote _ =>
      rw [List.mem_singleton.mp hevent]
      trivial
  | bumped _ _ =>
      rw [List.mem_singleton.mp hevent]
      trivial

/-- A step of the session under the condition is recorded, and what it sends agrees with what was
sent before. -/
lemma Recorded.step (hrecorded : Recorded features lowercase version initial past session)
    {action : InventoryAction} {events : List InventoryEvent}
    (huntorn : Untorn past session action)
    (hstep : (sends (mutations features lowercase) features lowercase version).step session action =
      some (next, events)) :
    Recorded features lowercase version initial (past ++ events) next ∧
      History.EachAfter (fun earlier event => Agrees (past ++ earlier) event) events := by
  cases action with
  | mutate action =>
      have hrunning : ∀ fault, action ≠ .restart fault := by
        rintro fault rfl
        cases hstep
      rw [sends_mutate hrunning, Option.map_eq_some_iff] at hstep
      rcases hstep with ⟨⟨catalog, told⟩, hact, heq⟩
      cases heq
      have hmoves := moves hrunning (acts hact)
      refine ⟨hrecorded.moved ?_ hmoves, agrees_of_moves hmoves⟩
      intro hbumped
      cases action with
      | advance =>
          rw [mutated] at hbumped
          split at hbumped
          · cases hbumped
          · rename_i hmutation
            rw [Untorn, hmutation] at huntorn
            exact huntorn rfl
          · cases hbumped
      | _ => cases hbumped
  | read =>
      simp only [sends] at hstep
      split at hstep
      · rename_i printers hreading hprinters
        cases hstep
        have hcurrent : descriptors features lowercase session.catalog.state = printers := by
          rw [descriptors, hprinters]
          rfl
        refine ⟨⟨?_, ?_, ?_, ?_, ?_⟩, ?_⟩
        · rw [shown_append, List.length_append, tally_concat, hrecorded.length]
          rfl
        · rw [tally_concat]
          exact shown_getElem?_append hrecorded.current _
        · intro found hfound
          rw [Option.mem_some_iff] at hfound
          rw [tally_concat, ← hfound, ← hcurrent]
          exact shown_getElem?_append hrecorded.current _
        · rw [tally_concat]
          exact hrecorded.revision
        · intro revision found hsent
          rw [tally_concat]
          refine hrecorded.sent_append _ le_rfl ?_
          simpa using hsent
        · exact History.eachAfter_cons.mpr ⟨trivial, History.eachAfter_nil _⟩
      · cases hstep
  | send =>
      simp only [sends, Option.map_eq_some_iff] at hstep
      rcases hstep with ⟨printers, hreading, heq⟩
      cases heq
      have hrows := hrecorded.reading printers (Option.mem_def.mpr hreading)
      rw [show (tally past).read = (tally past).bumps from huntorn] at hrows
      refine ⟨⟨?_, ?_, ?_, ?_, ?_⟩, ?_⟩
      · rw [shown_append, List.length_append, tally_concat, hrecorded.length]
        rfl
      · rw [tally_concat]
        exact shown_getElem?_append hrecorded.current _
      · intro found hfound
        cases hfound
      · rw [tally_concat]
        exact hrecorded.revision
      · intro revision found hsent
        rw [tally_concat]
        rcases List.mem_append.mp hsent with hold | hnew
        · exact hrecorded.sent_append _ le_rfl hold
        · rw [List.mem_singleton] at hnew
          cases hnew
          exact ⟨_, printers, hrecorded.revision, le_rfl, shown_getElem?_append hrows _, rfl⟩
      · refine History.eachAfter_cons.mpr ⟨?_, History.eachAfter_nil _⟩
        rintro ⟨earlier, first⟩ hsent
        rw [List.append_nil, mem_inventories] at hsent
        rcases hrecorded.sent earlier first hsent with ⟨n, rows, hearlier, hn, hfirst, rfl⟩
        have hrevision := hrecorded.revision
        constructor
        · show earlier ≤ session.catalog.revision
          rw [UInt64.le_iff_toNat_le]
          omega
        · rintro rfl
          have hsame : n = (tally past).bumps := by omega
          rw [hsame, hrows, Option.some.injEq] at hfirst
          rw [hfirst]

/-- **Revisions and printers agree** in every run in which no send is torn. -/
theorem agreeing {history : List InventoryEvent}
    (hrun : (sends (mutations features lowercase) features lowercase version).Runs Untorn
      ⟨initial, none⟩ history session) : Agreeing history := by
  have hall : Agreeing history ∧
      Recorded features lowercase version initial history session := by
    induction hrun with
    | start => exact ⟨History.eachAfter_nil _, recorded_initial⟩
    | step _ huntorn hstep ih =>
        rcases ih.2.step huntorn hstep with ⟨hnext, hagrees⟩
        exact ⟨History.eachAfter_append.mpr ⟨ih.1, hagrees⟩, hnext⟩
  exact hall.1

/-- A session that sends what the steps of the catalog that can be computed lead to. -/
abbrev computedSends : History.System InventorySession InventoryAction InventoryEvent :=
  sends (weighed everyFeature id) everyFeature id .v2

lemma runs_of_computedSends
    {ok : History.StepCondition InventorySession InventoryAction InventoryEvent}
    {history : List InventoryEvent}
    (hrun : computedSends.Runs ok ⟨freshCatalog, none⟩ history session) :
    (sends (mutations everyFeature id) everyFeature id .v2).Runs ok ⟨freshCatalog, none⟩ history
      session := by
  refine hrun.mono ?_
  rintro found action ⟨result, events⟩ hstep
  cases action with
  | mutate action =>
      have hrunning : ∀ fault, action ≠ .restart fault := by
        rintro fault rfl
        cases hstep
      rw [sends_mutate hrunning, Option.map_eq_some_iff] at hstep ⊢
      rcases hstep with ⟨next, hweighed, heq⟩
      exact ⟨next, act_of_weighed hweighed, heq⟩
  | read => exact hstep
  | send => exact hstep

/-- An inventory is sent. -/
def sendInventory : List InventoryAction := [.read, .send]

/-- A virtual printer is created, with an inventory before it and one after so many steps. -/
def sentAround (steps : ℕ) : List InventoryAction :=
  sendInventory ++
    .mutate (.start (.createVirtual ⟨"Office", .escPosReceipt 80⟩ 0) .absent) ::
      List.replicate steps (.mutate .advance) ++ sendInventory

theorem agreeing_sentAround :
    (inventories (computedSends.run (fun past session action => decide (Untorn past session action))
      ⟨freshCatalog, none⟩ (sentAround 6)).1).length = 2 ∧
    Agreeing (computedSends.run (fun past session action => decide (Untorn past session action))
      ⟨freshCatalog, none⟩ (sentAround 6)).1 :=
  ⟨by decide +kernel,
    agreeing (runs_of_computedSends (History.System.runs_run
      (fun _ _ _ huntorn => of_decide_eq_true huntorn) (sentAround 6)))⟩

/-- **Printers that are read between the writing of the rows and the counting of the revision** are
sent with a revision that already stands for other printers. -/
theorem torn_read_disagrees :
    ∃ history session, (sends (mutations everyFeature id) everyFeature id .v2).Runs
        History.anyStep ⟨freshCatalog, none⟩ history session ∧ ¬ Agreeing history := by
  have hrun : computedSends.Runs History.anyStep ⟨freshCatalog, none⟩
      (computedSends.run (fun _ _ _ => true) ⟨freshCatalog, none⟩ (sentAround 1)).1
      (computedSends.run (fun _ _ _ => true) ⟨freshCatalog, none⟩ (sentAround 1)).2 :=
    History.System.runs_run (fun _ _ _ _ => trivial) (sentAround 1)
  refine ⟨_, _, runs_of_computedSends hrun, ?_⟩
  decide +kernel

end Runs

end Oppa.Desktop
