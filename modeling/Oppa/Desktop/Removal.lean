import Oppa.Desktop.CatalogInvariant

/-!
# Removal is durable

What has been removed from the catalog stays away, as long as no refresh still carries it in its
snapshot and no queue shows new evidence of itself.

* `Durable` — no refresh adds a printer that was removed before: no row gets its id, and no row is
  connected to its queue.
* `PrinterCatalog.Lasting` — the steps that keep this: a refresh has observed no configured printer
  that lost its row since, and every removed queue that it has observed still has the id under
  which it was suppressed; no id is drawn twice.
* `Forgotten` — what the rows that are stored, and those in memory, say of what was removed.
* **`durable`** — in every run of such steps removals last.
* `inflight_refresh_adds_removed`, `new_uri_adds_removed_queue` — the two ways in which they do not.
-/

namespace Oppa.Desktop

open Printer Discovery PrinterCatalog

/-! ## What lasts -/

/-- The row an event says was removed. -/
def CatalogEvent.removal : CatalogEvent → Option CatalogPrinter
  | .removed printer => some printer
  | .added _ => none

/-- What was removed. -/
def removals (past : List CatalogEvent) : List CatalogPrinter :=
  past.filterMap CatalogEvent.removal

/-- Whether a row is about a printer that was removed. -/
def SamePrinter (removed printer : CatalogPrinter) : Prop :=
  printer.id = removed.id ∨
    (removed.kind = .systemQueue ∧
      printer.reference.connection = removed.reference.connection)

/-- Whether an event adds nothing of what was removed. -/
def AddsNew (past : List CatalogEvent) : CatalogEvent → Prop
  | .added printer => ∀ removed ∈ removals past, ¬ SamePrinter removed printer
  | .removed _ => True

/-- No refresh adds what was removed before. -/
def Durable (history : List CatalogEvent) : Prop := History.EachAfter AddsNew history

instance (removed printer : CatalogPrinter) : Decidable (SamePrinter removed printer) :=
  inferInstanceAs (Decidable (_ ∨ _))

instance (past : List CatalogEvent) : (event : CatalogEvent) → Decidable (AddsNew past event)
  | .added printer =>
      inferInstanceAs (Decidable (∀ removed ∈ removals past, ¬ SamePrinter removed printer))
  | .removed _ => .isTrue trivial

instance (history : List CatalogEvent) : Decidable (Durable history) :=
  inferInstanceAs (Decidable (History.EachAfter AddsNew history))

section Conditions

variable (lowercase : String → String) (past : List CatalogEvent) (catalog : PrinterCatalog)

/-- Whether an observation is of a printer that may be there: a configured one still has its row,
and a removed queue still has the id under which it is suppressed. -/
def Remains (observation : DiscoveredPrinter) : Prop :=
  (∀ id ∈ observation.id, id ∈ catalog.state.ids) ∧
    ∀ removed ∈ removals past, removed.kind = .systemQueue →
      observation.connection = removed.reference.connection →
        (observedId lowercase observation).value ∈ catalog.state.suppressedSystemIds

/-- The calls after which removals last. -/
def PrinterCatalog.Sparing : Call → Prop
  | .refresh n => ∀ discovered ∈ catalog.scans[n]?, ∀ observation ∈ discovered,
      Remains lowercase past catalog observation
  | call => ∀ id ∈ call.drawn, id ∉ catalog.state.ids ∧ ∀ removed ∈ removals past, removed.id ≠ id

/-- The steps after which removals last. -/
def PrinterCatalog.Lasting : CatalogAction → Prop
  | .start call _ => catalog.Sparing lowercase past call
  | _ => True

instance (observation : DiscoveredPrinter) :
    Decidable (Remains lowercase past catalog observation) :=
  inferInstanceAs (Decidable (_ ∧ ∀ removed ∈ removals past, _ → _ → _))

instance : (call : Call) → Decidable (catalog.Sparing lowercase past call)
  | .refresh n => inferInstanceAs (Decidable (∀ discovered ∈ catalog.scans[n]?,
      ∀ observation ∈ discovered, Remains lowercase past catalog observation))
  | .configure printerId changes => inferInstanceAs (Decidable
      (∀ id ∈ (Call.configure printerId changes).drawn, _ ∧ ∀ removed ∈ removals past, _))
  | .addManual input uuid => inferInstanceAs (Decidable
      (∀ id ∈ (Call.addManual input uuid).drawn, _ ∧ ∀ removed ∈ removals past, _))
  | .createVirtual input uuid => inferInstanceAs (Decidable
      (∀ id ∈ (Call.createVirtual input uuid).drawn, _ ∧ ∀ removed ∈ removals past, _))
  | .updateVirtual printerId mode delayMs => inferInstanceAs (Decidable
      (∀ id ∈ (Call.updateVirtual printerId mode delayMs).drawn,
        _ ∧ ∀ removed ∈ removals past, _))
  | .remove printerId => inferInstanceAs (Decidable
      (∀ id ∈ (Call.remove printerId).drawn, _ ∧ ∀ removed ∈ removals past, _))

instance : (action : CatalogAction) → Decidable (catalog.Lasting lowercase past action)
  | .scan _ => .isTrue trivial
  | .start call _ => inferInstanceAs (Decidable (catalog.Sparing lowercase past call))
  | .advance => .isTrue trivial
  | .restart _ => .isTrue trivial

end Conditions

/-! ## What the rows say of it -/

/-- Rows that say of what was removed that it is gone. -/
structure Forgotten (past : List CatalogEvent) (state : PersistedCatalog) : Prop where
  ids : state.ids.Nodup
  gone : ∀ removed ∈ removals past, removed.id ∉ state.ids
  suppressed : ∀ removed ∈ removals past, removed.kind = .systemQueue →
    removed.id.value ∈ state.suppressedSystemIds

section Rows

variable {features : ProductFeatures} {lowercase : String → String}
  {assigned : PrinterId → ConnectionKind → Prop} {past : List CatalogEvent}
  {catalog : PrinterCatalog}

@[simp] lemma removals_append (first second : List CatalogEvent) :
    removals (first ++ second) = removals first ++ removals second :=
  List.filterMap_append

@[simp] lemma removals_map_added (printers : List CatalogPrinter) :
    removals (printers.map .added) = [] := by
  rw [removals, List.filterMap_map]
  exact List.filterMap_eq_nil_iff.mpr fun _ _ => rfl

@[simp] lemma removals_map_removed (printers : List CatalogPrinter) :
    removals (printers.map .removed) = printers := by
  rw [removals, List.filterMap_map]
  exact List.filterMap_some

/-- Rows with the same ids, and no fewer suppressed ones, say the same of what was removed. -/
lemma Forgotten.of_ids {state next : PersistedCatalog} (hforgotten : Forgotten past state)
    (hids : next.ids = state.ids)
    (hsuppressed : next.suppressedSystemIds = state.suppressedSystemIds) : Forgotten past next where
  ids := hids ▸ hforgotten.ids
  gone removed hremoved := hids ▸ hforgotten.gone removed hremoved
  suppressed removed hremoved hqueue :=
    hsuppressed ▸ hforgotten.suppressed removed hremoved hqueue

/-- Rows that say that much is gone say so of a part of it. -/
lemma Forgotten.mono {more : List CatalogEvent} {state : PersistedCatalog}
    (hforgotten : Forgotten more state) (hfewer : removals past ⊆ removals more) :
    Forgotten past state where
  ids := hforgotten.ids
  gone removed hremoved := hforgotten.gone removed (hfewer hremoved)
  suppressed removed hremoved := hforgotten.suppressed removed (hfewer hremoved)

/-- A row with a new id. -/
lemma Forgotten.push {state : PersistedCatalog} {printer : CatalogPrinter}
    (hforgotten : Forgotten past state) (hnew : printer.id ∉ state.ids)
    (hother : ∀ removed ∈ removals past, removed.id ≠ printer.id) :
    Forgotten past (state.push printer) where
  ids := Table.UniqueBy.concat hforgotten.ids hnew
  gone removed hremoved := by
    rw [PersistedCatalog.ids, PersistedCatalog.push, List.map_append, List.mem_append, not_or]
    refine ⟨hforgotten.gone removed hremoved, ?_⟩
    rw [List.map_singleton, List.mem_singleton]
    exact hother removed hremoved
  suppressed := hforgotten.suppressed

/-- A row that is removed. -/
lemma Forgotten.without {state : PersistedCatalog} {index : ℕ} {printer : CatalogPrinter}
    (hforgotten : Forgotten past state) (hrow : state.printers[index]? = some printer) :
    Forgotten (past ++ [.removed printer]) (state.without index printer) := by
  have hgone : printer.id ∉ (state.without index printer).ids := by
    intro hmem
    rcases List.mem_map.mp hmem with ⟨found, hfound, hid⟩
    exact Roster.key_ne_of_mem_eraseIdx hforgotten.ids hrow hfound hid
  have hfewer : (state.without index printer).ids ⊆ state.ids :=
    List.map_subset _ (List.eraseIdx_subset)
  have hmore : state.suppressedSystemIds ⊆ (state.without index printer).suppressedSystemIds := by
    show _ ⊆ suppress state printer
    rw [suppress]
    split_ifs
    · exact List.subset_append_left _ _
    · exact fun _ hid => hid
  have hqueue : printer.kind = .systemQueue →
      printer.id.value ∈ (state.without index printer).suppressedSystemIds := by
    intro hkind
    show _ ∈ suppress state printer
    rw [suppress]
    split_ifs with hsuppressed
    · exact List.mem_append_right _ List.mem_cons_self
    · rw [not_and, not_not] at hsuppressed
      exact hsuppressed hkind
  have hlast : removals (past ++ [.removed printer]) = removals past ++ [printer] :=
    removals_append past _
  refine ⟨Roster.nodup_eraseIdx hforgotten.ids, ?_, ?_⟩
  · intro removed hremoved
    rw [hlast, List.mem_append, List.mem_singleton] at hremoved
    rcases hremoved with hold | rfl
    · exact fun hmem => hforgotten.gone removed hold (hfewer hmem)
    · exact hgone
  · intro removed hremoved hkind
    rw [hlast, List.mem_append, List.mem_singleton] at hremoved
    rcases hremoved with hold | rfl
    · exact hmore (hforgotten.suppressed removed hold hkind)
    · exact hqueue hkind

/-- A row that a pass of discovery leaves when none of its observations is of a removed printer. -/
structure Spared (assigned : PrinterId → ConnectionKind → Prop) (past : List CatalogEvent)
    (state : PersistedCatalog) (printer : CatalogPrinter) : Prop where
  native : Native assigned printer
  other : ∀ removed ∈ removals past, printer.id ≠ removed.id
  known : ∀ removed ∈ removals past, removed.kind = .systemQueue →
    printer.reference.connection = removed.reference.connection →
      ∃ old ∈ state.printers, old.id = printer.id ∧
        old.reference.connection = printer.reference.connection

/-- **One pass does not add what was removed.** -/
theorem spared_rule (hassignment : Assignment assigned)
    (hnamed : ∀ removed ∈ removals past, assigned removed.id removed.kind)
    (hforgotten : Forgotten past catalog.state) :
    PassRule assigned lowercase catalog.state.suppressedSystemIds
      (fun observation => Credible assigned observation ∧ Checked observation ∧
        Remains lowercase past catalog observation)
      (Spared assigned past catalog.state) where
  native hspared := hspared.native
  credible hobservation := hobservation.1
  unseen hspared :=
    { native := native_rule.unseen hspared.native
      other := by simpa using hspared.other
      known := by simpa using hspared.known }
  observed hspared hobservation hvisible hkind :=
    { native := hspared.native.observed hobservation.1 hobservation.2.1 hkind
      other := hspared.other
      known := by
        intro removed hremoved hqueue hconnection
        exact absurd (hobservation.2.2.2 removed hremoved hqueue hconnection) hvisible }
  discovered := by
    intro observation hobservation hvisible
    have hassigned : assigned (observedId lowercase observation) observation.connection.kind :=
      assigned_observedId hassignment hobservation.1
    refine ⟨native_rule.discovered hobservation.1 hobservation.2.1 hassigned, ?_, ?_⟩
    · intro removed hremoved heq
      replace heq : observedId lowercase observation = removed.id := heq
      cases hid : observation.id with
      | some id =>
          have hmem := hobservation.2.2.1 id (Option.mem_def.mpr hid)
          rw [observedId, hid, Option.getD_some] at heq
          exact hforgotten.gone removed hremoved (heq ▸ hmem)
      | none =>
          -- a computed id is that of a queue, so the removed printer was one, and is suppressed
          have hkind : removed.kind = .systemQueue := by
            have hremovedId := hnamed removed hremoved
            rw [← heq] at hremovedId
            rw [hassignment.functional hremovedId hassigned]
            exact hobservation.1.queue hid
          rw [heq] at hvisible
          exact hvisible (hforgotten.suppressed removed hremoved hkind)
    · intro removed hremoved hqueue hconnection
      exact absurd (hobservation.2.2.2 removed hremoved hqueue hconnection) hvisible

/-- What a call that spares what was removed wants stored, and tells. -/
structure Lawful (assigned : PrinterId → ConnectionKind → Prop) (past events : List CatalogEvent)
    (next : PersistedCatalog) : Prop where
  forgotten : Forgotten (past ++ events) next
  named : ∀ removed ∈ removals events, assigned removed.id removed.kind
  durable : ∀ printer, .added printer ∈ events → ∀ removed ∈ removals (past ++ events),
    ¬ SamePrinter removed printer

/-- A call that tells nothing. -/
lemma Lawful.of_forgotten {next : PersistedCatalog} (hforgotten : Forgotten past next) :
    Lawful assigned past [] next where
  forgotten := by simpa using hforgotten
  named _ hremoved := nomatch hremoved
  durable _ hadded := nomatch hadded

lemma told_remove {printerId : String} {next : PersistedCatalog} {index : ℕ}
    {printer : CatalogPrinter} (hids : catalog.state.ids.Nodup)
    (hrow : catalog.state.printers[index]? = some printer) (hid : printer.id.value = printerId) :
    catalog.told (.remove printerId) next = [.removed printer] := by
  have hsame : ∀ other ∈ catalog.state.printers,
      decide (other.id.value = printerId) = decide (other.id = printer.id) := by
    intro other _
    rw [← hid, decide_eq_decide]
    exact ⟨TypedIdentifier.ext, congrArg _⟩
  rw [told, List.filter_congr hsame, Roster.filter_key hids (List.mem_of_getElem? hrow)]
  rfl

/-- **A call that spares what was removed leaves it removed.** -/
theorem Forgotten.planned (hassignment : Assignment assigned)
    (hsound : Sound assigned (Native assigned) catalog)
    (hnamed : ∀ removed ∈ removals past, assigned removed.id removed.kind)
    (hforgotten : Forgotten past catalog.state) {call : Call} {plan : Plan}
    (hsparing : catalog.Sparing lowercase past call)
    (hplanned : Planned features lowercase catalog call plan) :
    Lawful assigned past (catalog.told call plan.next) plan.next := by
  cases hplanned with
  | @refresh n discovered hscan =>
      have hrows : ∀ printer ∈ (reconcile lowercase catalog.state discovered).printers,
          Spared assigned past catalog.state printer := by
        refine (spared_rule hassignment hnamed hforgotten).reconcile hassignment ?_ ?_
        · intro printer hprinter
          refine ⟨hsound.state printer hprinter, ?_, ?_⟩
          · intro removed hremoved hid
            exact hforgotten.gone removed hremoved (hid ▸ List.mem_map_of_mem hprinter)
          · intro _ _ _ _
            exact ⟨printer, hprinter, rfl, rfl⟩
        · intro observation hobservation
          have hcredible := hsound.scans _ (List.mem_of_getElem? hscan) observation hobservation
          exact ⟨hcredible.1, hcredible.2,
            hsparing _ (Option.mem_def.mpr hscan) observation hobservation⟩
      refine ⟨?_, ?_, ?_⟩
      · refine ⟨(ids_reconcile hforgotten.ids).1, ?_, ?_⟩
        · intro removed hremoved hmem
          rw [told, removals_append, removals_map_added, List.append_nil] at hremoved
          rcases List.mem_map.mp hmem with ⟨printer, hprinter, hid⟩
          exact (hrows printer hprinter).other removed hremoved hid
        · intro removed hremoved
          rw [told, removals_append, removals_map_added, List.append_nil] at hremoved
          exact hforgotten.suppressed removed hremoved
      · intro removed hremoved
        rw [told, removals_map_added] at hremoved
        cases hremoved
      · intro printer hadded removed hremoved
        rw [told, removals_append, removals_map_added, List.append_nil] at hremoved
        rcases List.mem_map.mp hadded with ⟨_, hfound, ⟨⟩⟩
        rcases List.mem_filter.mp hfound with ⟨hprinter, hnew⟩
        rintro (hid | ⟨hqueue, hconnection⟩)
        · exact (hrows printer hprinter).other removed hremoved hid
        · rcases (hrows printer hprinter).known removed hremoved hqueue hconnection with
            ⟨old, hold, hid, hsame⟩
          exact of_decide_eq_true hnew old hold hid hsame
  | configure hrow _ _ _ _ =>
      refine .of_forgotten (hforgotten.of_ids (ids_set hrow ?_) rfl)
      rfl
  | addManual _ hdrawn _ =>
      have hnew := hsparing _ (by rw [Call.drawn, hdrawn]; rfl)
      exact .of_forgotten (hforgotten.push hnew.1 hnew.2)
  | createVirtual _ hdrawn _ =>
      have hnew := hsparing _ (by rw [Call.drawn, hdrawn]; rfl)
      exact .of_forgotten (hforgotten.push hnew.1 hnew.2)
  | updateVirtual _ hrow _ _ =>
      refine .of_forgotten (hforgotten.of_ids (ids_set hrow ?_) rfl)
      rfl
  | @remove _ index printer hrow hid =>
      rw [told_remove hforgotten.ids hrow hid]
      refine ⟨hforgotten.without hrow, ?_, ?_⟩
      · intro removed hremoved
        have heq : removed = printer := List.mem_singleton.mp hremoved
        rw [heq]
        exact (hsound.state printer (List.mem_of_getElem? hrow)).assigned
      · intro _ hadded
        rw [List.mem_singleton] at hadded
        cases hadded

/-! ## Runs -/

/-- What a run of such calls keeps. -/
structure Forgetting (assigned : PrinterId → ConnectionKind → Prop) (past : List CatalogEvent)
    (catalog : PrinterCatalog) : Prop where
  /-- The rows in memory, once the call that has the lock has written them. -/
  rows : (∀ effects ∈ catalog.mutation, ∀ next, .write next ∉ effects) →
    Forgotten past catalog.state
  stored : ∃ stored, storedCatalog catalog.setting = .ok (stored, false) ∧ Forgotten past stored
  /-- A call writes its rows first. -/
  first : ∀ effect effects, catalog.mutation = some (effect :: effects) →
    ∀ next, .write next ∉ effects
  named : ∀ removed ∈ removals past, assigned removed.id removed.kind

/-- A call writes once, and first. -/
lemma Planned.write_first {call : Call} {plan : Plan}
    (hplanned : Planned features lowercase catalog call plan) :
    ∃ effects, plan.effects = .write plan.next :: effects ∧ ∀ next, .write next ∉ effects := by
  cases hplanned with
  | refresh hscan =>
      refine ⟨_, rfl, ?_⟩
      intro next hwrite
      simp only [List.mem_append, List.mem_map, List.mem_cons, reduceCtorEq, List.not_mem_nil,
        or_false] at hwrite
      rcases hwrite with ⟨printer, _, hsync⟩
      rw [syncEffect] at hsync
      split_ifs at hsync
  | @remove _ _ printer hrow hid =>
      refine ⟨_, rfl, ?_⟩
      cases printer.isVirtual <;> simp
  | _ => exact ⟨_, rfl, by simp⟩

variable {next : PrinterCatalog} {events : List CatalogEvent}

lemma forgetting_of_load {setting : Option Serde.Content} {fault : Fault}
    (hload : load features setting fault = .ok next) (hforgotten : Forgotten past next.state)
    (hnamed : ∀ removed ∈ removals past, assigned removed.id removed.kind) :
    Forgetting assigned past next := by
  rcases load_eq_ok hload with ⟨_, _, hsetting, _, _, _, _, _, hmutation⟩
  refine ⟨fun _ => hforgotten, ⟨_, hsetting, hforgotten⟩, ?_, hnamed⟩
  intro effect effects heffects
  rw [hmutation] at heffects
  cases heffects

/-- Nothing was removed from what a catalog starts with. -/
lemma forgotten_of_load {setting : Option Serde.Content} {fault : Fault}
    (hload : load features setting fault = .ok next) : Forgotten [] next.state := by
  rcases load_eq_ok hload with ⟨_, _, _, hrows, _⟩
  have hids := (checkRows_eq_ok.mp hrows).2.1
  refine ⟨hids, ?_, ?_⟩ <;> exact fun _ hremoved => absurd hremoved List.not_mem_nil

/-- A step that tells nothing. -/
lemma Forgetting.quiet (hforgetting : Forgetting assigned past next) :
    Forgetting assigned (past ++ []) next ∧
      ∀ printer, .added printer ∈ ([] : List CatalogEvent) →
        ∀ removed ∈ removals (past ++ []), ¬ SamePrinter removed printer := by
  rw [List.append_nil]
  exact ⟨hforgetting, fun _ hadded => absurd hadded List.not_mem_nil⟩

/-- **A step that spares what was removed leaves it removed**, and adds nothing of it. -/
theorem Forgetting.step (hassignment : Assignment assigned)
    (hsound : Sound assigned (Native assigned) catalog)
    (hforgetting : Forgetting assigned past catalog) {action : CatalogAction}
    (hlasting : catalog.Lasting lowercase past action)
    (hacts : Acts features lowercase catalog action next events) :
    Forgetting assigned (past ++ events) next ∧
      ∀ printer, .added printer ∈ events → ∀ removed ∈ removals (past ++ events),
        ¬ SamePrinter removed printer := by
  rcases hforgetting with ⟨hrows, hstored, hfirst, hnamed⟩
  cases hacts with
  | scanned surroundings => exact Forgetting.quiet ⟨hrows, hstored, hfirst, hnamed⟩
  | @started call _ _ _ hmutation hstarts =>
      rcases @taken_eq catalog call with ⟨scans, htaken, _⟩
      have hidle : Forgotten past catalog.state := hrows (by simp [hmutation])
      cases hstarts with
      | refused =>
          rw [htaken]
          exact Forgetting.quiet ⟨hrows, hstored, hfirst, hnamed⟩
      | @stranded plan hplan _ _ =>
          have hlawful := hidle.planned hassignment hsound hnamed hlasting hplan
          have hnext : Forgotten past plan.next := by
            refine hlawful.forgotten.mono ?_
            rw [removals_append]
            exact List.subset_append_left _ _
          rw [htaken]
          exact Forgetting.quiet ⟨hrows, ⟨_, storedCatalog_toValue _, hnext⟩, hfirst, hnamed⟩
      | @stored plan hplan _ _ =>
          have hlawful := hidle.planned hassignment hsound hnamed hlasting hplan
          rcases hplan.write_first with ⟨effects, heffects, hfirst⟩
          rw [htaken, heffects]
          refine ⟨⟨?_, ⟨_, storedCatalog_toValue _, hlawful.forgotten⟩, ?_, ?_⟩, hlawful.durable⟩
          · intro hnone
            exact absurd List.mem_cons_self (hnone _ (Option.mem_def.mpr rfl) plan.next)
          · rintro effect rest ⟨⟩
            exact hfirst
          · intro removed hremoved
            rw [removals_append, List.mem_append] at hremoved
            exact hremoved.elim (hnamed removed) (hlawful.named removed)
  | returned hmutation =>
      refine Forgetting.quiet ⟨fun _ => hrows ?_, hstored, ?_, hnamed⟩
      · intro effects heffects next hwrite
        rw [hmutation, Option.mem_some_iff] at heffects
        rw [← heffects] at hwrite
        cases hwrite
      · rintro effect effects ⟨⟩
  | @performed effect effects result hmutation hresult =>
      rcases perform_frame hresult with ⟨hsetting, _, hstate⟩
      rcases hstored with ⟨stored, hread, hforgotten⟩
      have htail := hfirst effect effects hmutation
      refine Forgetting.quiet ⟨fun _ => ?_, ⟨stored, hsetting ▸ hread, hforgotten⟩, ?_, hnamed⟩
      · rcases hstate with hwrite | ⟨hsame, hother⟩
        · have hnext := hsound.writes _ hmutation result.state (hwrite ▸ List.mem_cons_self)
          rw [hread] at hnext
          cases hnext
          exact hforgotten
        · rw [hsame]
          refine hrows ?_
          intro pending hpending state hwrite
          rw [hmutation, Option.mem_some_iff] at hpending
          rw [← hpending] at hwrite
          rcases List.mem_cons.mp hwrite with heq | hlater
          · exact hother state heq.symm
          · exact htail state hlater
      · rintro second rest ⟨⟩ state hwrite
        exact htail state (List.mem_cons_of_mem _ hwrite)
  | @failed effect effects _ hmutation hresult =>
      refine Forgetting.quiet ⟨fun _ => hrows ?_, hstored, ?_, hnamed⟩
      · intro pending hpending next hwrite
        rw [hmutation, Option.mem_some_iff] at hpending
        rw [← hpending] at hwrite
        rcases List.mem_cons.mp hwrite with rfl | hlater
        · cases hresult
        · exact hfirst effect effects hmutation next hlater
      · rintro effect effects ⟨⟩
  | restarted hload =>
      rcases hstored with ⟨stored, hread, hforgotten⟩
      rcases load_eq_ok hload with ⟨_, hsame, _⟩
      rw [hread, Except.ok.injEq, Prod.mk.injEq] at hsame
      rw [hsame.1] at hforgotten
      exact Forgetting.quiet (forgetting_of_load hload hforgotten hnamed)

/-- Events none of which adds what was removed by the end of them. -/
lemma eachAfter_addsNew (hnew : ∀ printer, .added printer ∈ events →
    ∀ removed ∈ removals (past ++ events), ¬ SamePrinter removed printer) :
    History.EachAfter (fun earlier event => AddsNew (past ++ earlier) event) events := by
  intro earlier event later heq
  cases event with
  | added printer =>
      intro removed hremoved
      refine hnew printer (by simp [heq]) removed ?_
      rw [removals_append, List.mem_append] at hremoved
      rw [heq, removals_append, removals_append, List.mem_append, List.mem_append]
      exact hremoved.imp_right .inl
  | removed printer => trivial

/-- **Removals last**, in every run whose steps spare what was removed. -/
theorem durable {setting : Option Serde.Content} {fault : Fault} {initial : PrinterCatalog}
    (hload : load features setting fault = .ok initial)
    (hrows : ∀ printer ∈ initial.state.printers, Native byFamily printer)
    {history : List CatalogEvent}
    (hrun : (mutations features lowercase).Runs
      (fun past catalog action => catalog.Lasting lowercase past action) initial history catalog) :
    Durable history ∧
      (catalog.mutation = none → ∀ removed ∈ removals history, removed.id ∉ catalog.state.ids) := by
  have hforgetting : Durable history ∧ Forgetting byFamily history catalog := by
    induction hrun with
    | start =>
        refine ⟨History.eachAfter_nil _, forgetting_of_load hload (forgotten_of_load hload) ?_⟩
        exact fun _ hremoved => absurd hremoved List.not_mem_nil
    | step hrun hlasting hstep ih =>
        have hsound := native_rule.rows byFamily_assignment hload hrows hrun
        rcases ih.2.step byFamily_assignment hsound hlasting (acts hstep) with ⟨hnext, hnew⟩
        exact ⟨History.eachAfter_append.mpr ⟨ih.1, eachAfter_addsNew hnew⟩, hnext⟩
  refine ⟨hforgetting.1, ?_⟩
  intro hidle removed hremoved
  exact (hforgetting.2.rows (by simp [hidle])).gone removed hremoved

/-- Surroundings with one queue, for which a device is reported. -/
def queueAt (uri : String) : Surroundings :=
  { quietSurroundings with queues := some [.cups "Office" (some uri) .online none] }

/-- A queue is discovered and removed, and the next refresh finds it at a device. -/
def queueRemoved (uri : String) : List CatalogAction :=
  .scan (queueAt "usb://a") :: wholeCall (.refresh 0) 5 ++
    wholeCall (.remove "printer_discovered_96891a0625b3c0ba") 4 ++
      .scan (queueAt uri) :: wholeCall (.refresh 0) 4

/-- Steps after which removals last, when they are performed. -/
def lastingRun (actions : List CatalogAction) : List CatalogEvent × PrinterCatalog :=
  (weighed everyFeature id).run (fun past catalog action => decide (catalog.Lasting id past action))
    freshCatalog actions

theorem durable_queueRemoved :
    (removals (lastingRun (queueRemoved "usb://a")).1).length = 1 ∧
      Durable (lastingRun (queueRemoved "usb://a")).1 :=
  ⟨by decide +kernel,
    (durable load_freshCatalog (fun _ hprinter => nomatch hprinter)
      (runs_of_weighed (History.System.runs_run
        (fun _ _ _ hlasting => of_decide_eq_true hlasting) (queueRemoved "usb://a")))).1⟩

/-- **A refresh adds a printer that was removed** after the refresh had it in its snapshot. -/
theorem inflight_refresh_adds_removed :
    ∃ history catalog, (mutations everyFeature id).Runs History.anyStep freshCatalog history
        catalog ∧ ¬ Durable history :=
  ⟨_, _, runs_computed removedWhileDiscovered, by decide +kernel⟩

/-- **A queue that was removed is added again** when it is found at another device. -/
theorem new_uri_adds_removed_queue :
    ∃ history catalog, (mutations everyFeature id).Runs History.anyStep freshCatalog history
        catalog ∧ ¬ Durable history :=
  ⟨_, _, runs_computed (queueRemoved "ipp://b"), by decide +kernel⟩

end Rows

end Oppa.Desktop
