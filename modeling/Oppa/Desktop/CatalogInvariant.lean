import Oppa.Desktop.CatalogSound

/-!
# The catalog between two calls

What ties the stored setting, the rows in memory, the resolver and the virtual spooler together
when no call has the lock.

* `Coherent` — ids are unique, references valid, the setting loads and holds the rows in memory, the
  resolver has the references of the active printers and no others, and the virtual printers among
  these are registered, so that `list` succeeds.
* `PrinterCatalog.Orderly` — the steps that keep this: no storage fails after it took effect, no id
  is drawn twice, and no refresh brings back a virtual printer that was removed since its snapshot.
* **`coherent`** — in a run of such steps the catalog is coherent whenever no call has the lock.
  What carries it is that the steps a call still has to take lead to a coherent catalog
  (`Settling`).
* `removed_virtual_printer_unlisted` — a refresh that brings back a virtual printer.
-/

namespace Oppa.Desktop

open Printer Discovery PrinterCatalog

/-! ## Coherence -/

/-- The references a resolver has are those of the rows the product build allows. -/
def Resolves (features : ProductFeatures) (printers : List CatalogPrinter)
    (resolver : PrinterId → Option PrinterRef) : Prop :=
  ∀ id reference, resolver id = some reference ↔
    ∃ printer ∈ printers, featureAllowsPrinter features printer = true ∧ printer.id = id ∧
      printer.reference = reference

/-- What holds when no call has the lock. -/
structure Coherent (features : ProductFeatures) (catalog : PrinterCatalog) : Prop where
  ids : catalog.state.ids.Nodup
  valid : ∀ printer ∈ catalog.state.printers, printer.reference.validate = .ok ()
  stored : storedCatalog catalog.setting = .ok (catalog.state, false)
  loads : ∃ started, load features catalog.setting .absent = .ok started ∧
    started.state = catalog.state
  resolves : Resolves features catalog.state.printers catalog.resolver
  registered : ∀ printer ∈ catalog.active features, printer.kind = .virtual →
    (catalog.virtualSpooler printer.id).isSome = true
  lists : catalog.list features = .ok ()

/-- The part of it that the steps of calls are about. -/
structure Settled (features : ProductFeatures) (catalog : PrinterCatalog) : Prop where
  ids : catalog.state.ids.Nodup
  valid : ∀ printer ∈ catalog.state.printers, printer.reference.validate = .ok ()
  stored : storedCatalog catalog.setting = .ok (catalog.state, false)
  resolves : Resolves features catalog.state.printers catalog.resolver
  registered : ∀ printer ∈ catalog.active features, printer.kind = .virtual →
    (catalog.virtualSpooler printer.id).isSome = true

section Lists

variable {features : ProductFeatures} {catalog : PrinterCatalog} {printer : CatalogPrinter}

lemma mem_active : printer ∈ catalog.active features ↔
    printer ∈ catalog.state.printers ∧ featureAllowsPrinter features printer = true := by
  rw [active, List.mem_filter]

lemma summarize_eq_ok {u : Unit} : catalog.summarize printer = .ok u ↔
    (printer.kind = .virtual → (catalog.virtualSpooler printer.id).isSome = true) := by
  rw [summarize]
  split_ifs with h
  · simp only [false_iff, not_forall]
    rw [CatalogPrinter.isVirtual, decide_eq_true_eq] at h
    refine ⟨h.1, ?_⟩
    rw [← Option.not_isNone, Bool.not_eq_true', Bool.not_eq_false]
    exact h.2
  · rw [CatalogPrinter.isVirtual, decide_eq_true_eq, not_and] at h
    simp only [true_iff]
    intro hvirtual
    rw [← Option.not_isNone, Bool.not_eq_true']
    exact Bool.eq_false_of_not_eq_true (h hvirtual)

lemma list_eq_ok {u : Unit} : catalog.list features = .ok u ↔
    ∀ printer ∈ catalog.active features, printer.kind = .virtual →
      (catalog.virtualSpooler printer.id).isSome = true := by
  rw [list]
  induction catalog.active features with
  | nil => simp [pure, Except.pure]
  | cons printer printers ih =>
      rw [List.forM_eq_forM, List.forM_cons, Result.bind_eq_ok, List.forall_mem_cons]
      simp only [summarize_eq_ok, ← List.forM_eq_forM, ih, exists_const]

/-- A setting with good rows is loaded. -/
lemma load_of_stored {setting : Option Serde.Content} {fault : Fault} {state : PersistedCatalog}
    (hstored : storedCatalog setting = .ok (state, false))
    (hrows : checkRows [] state.printers = .ok ()) :
    load features setting fault = .ok
      { setting := setting
        state := state
        resolver := directory features state
        virtualSpooler := startedDevices features state
        revision := 1
        scans := []
        mutation := none } := by
  rw [load, hstored]
  show (checkRows [] state.printers >>= fun _ => pure _) = _
  rw [hrows]
  rfl

lemma Settled.isCoherent (hsettled : Settled features catalog) : Coherent features catalog where
  ids := hsettled.ids
  valid := hsettled.valid
  stored := hsettled.stored
  loads := by
    have hrows : checkRows [] catalog.state.printers = .ok () :=
      checkRows_eq_ok.mpr ⟨hsettled.valid, hsettled.ids, fun _ _ => List.not_mem_nil⟩
    exact ⟨_, load_of_stored hsettled.stored hrows, rfl⟩
  resolves := hsettled.resolves
  registered := hsettled.registered
  lists := list_eq_ok.mpr hsettled.registered

end Lists

/-! ## Changing one row -/

section Rows

variable {features : ProductFeatures} {old new : List CatalogPrinter} {printer : CatalogPrinter}
  {resolver : PrinterId → Option PrinterRef}

/-- A row with a given id is the only one. -/
lemma eq_of_id_eq {printers : List CatalogPrinter} (hids : (printers.map CatalogPrinter.id).Nodup)
    {first second : CatalogPrinter} (hfirst : first ∈ printers) (hsecond : second ∈ printers)
    (hid : first.id = second.id) : first = second :=
  List.inj_on_of_nodup_map hids hfirst hsecond hid

/-- When only the rows with one id have changed, only that id resolves to something else. -/
lemma Resolves.update (hresolves : Resolves features old resolver) {changed : PrinterId}
    {value : Option PrinterRef}
    (hothers : ∀ printer, printer.id ≠ changed → (printer ∈ new ↔ printer ∈ old))
    (hchanged : ∀ reference, value = some reference ↔
      ∃ printer ∈ new, featureAllowsPrinter features printer = true ∧ printer.id = changed ∧
        printer.reference = reference) :
    Resolves features new (Function.update resolver changed value) := by
  intro id reference
  rcases eq_or_ne id changed with rfl | hne
  · rw [Function.update_self]
    exact hchanged reference
  · rw [Function.update_of_ne hne, hresolves id reference]
    constructor
    · rintro ⟨printer, hprinter, hallowed, rfl, hreference⟩
      exact ⟨printer, (hothers printer hne).mpr hprinter, hallowed, rfl, hreference⟩
    · rintro ⟨printer, hprinter, hallowed, rfl, hreference⟩
      exact ⟨printer, (hothers printer hne).mp hprinter, hallowed, rfl, hreference⟩

/-- What resolves to what only depends on the references of the rows. -/
lemma Resolves.of_references (hresolves : Resolves features old resolver)
    (hsame : new.map CatalogPrinter.reference = old.map CatalogPrinter.reference) :
    Resolves features new resolver := by
  have hrow : ∀ {first second : List CatalogPrinter},
      first.map CatalogPrinter.reference = second.map CatalogPrinter.reference →
      ∀ printer ∈ first, ∃ found ∈ second, found.reference = printer.reference := by
    intro first second hsame printer hprinter
    have hmem := List.mem_map_of_mem (f := CatalogPrinter.reference) hprinter
    rw [hsame] at hmem
    exact List.mem_map.mp hmem
  have hallows : ∀ {first second : CatalogPrinter}, first.reference = second.reference →
      featureAllowsPrinter features first = featureAllowsPrinter features second := by
    intro first second hreference
    simp only [featureAllowsPrinter, CatalogPrinter.kind, hreference]
  intro id reference
  rw [hresolves id reference]
  constructor
  · rintro ⟨printer, hprinter, hallowed, rfl, rfl⟩
    rcases hrow hsame.symm printer hprinter with ⟨found, hfound, hreference⟩
    exact ⟨found, hfound, hallows hreference ▸ hallowed, congrArg PrinterRef.id hreference,
      hreference⟩
  · rintro ⟨printer, hprinter, hallowed, rfl, rfl⟩
    rcases hrow hsame printer hprinter with ⟨found, hfound, hreference⟩
    exact ⟨found, hfound, hallows hreference ▸ hallowed, congrArg PrinterRef.id hreference,
      hreference⟩

/-- The only row with an id decides what it resolves to. -/
lemma some_iff_of_mem (hids : (new.map CatalogPrinter.id).Nodup) (hprinter : printer ∈ new)
    (hallowed : featureAllowsPrinter features printer = true) (reference : PrinterRef) :
    some printer.reference = some reference ↔
      ∃ found ∈ new, featureAllowsPrinter features found = true ∧ found.id = printer.id ∧
        found.reference = reference := by
  rw [Option.some.injEq]
  constructor
  · intro hreference
    exact ⟨printer, hprinter, hallowed, rfl, hreference⟩
  · rintro ⟨found, hfound, _, hid, hreference⟩
    rw [← eq_of_id_eq hids hfound hprinter hid]
    exact hreference

variable {state : PersistedCatalog} {index : ℕ} {updated : CatalogPrinter}

lemma ids_set (hrow : state.printers[index]? = some printer) (hid : updated.id = printer.id) :
    (state.set index updated).ids = state.ids := by
  refine Roster.map_modify ?_
  intro found hfound
  rw [hrow, Option.some.injEq] at hfound
  rw [← hfound]
  exact hid

lemma mem_set_iff (hrow : state.printers[index]? = some printer)
    (hid : updated.id = printer.id) {other : CatalogPrinter} (hne : other.id ≠ printer.id) :
    other ∈ (state.set index updated).printers ↔ other ∈ state.printers := by
  constructor
  · intro hother
    rcases Roster.mem_modify hother with hold | ⟨_, _, rfl⟩
    · exact hold
    · exact absurd hid hne
  · intro hother
    refine Roster.mem_modify_of_ne hrow hother ?_
    rintro rfl
    exact hne rfl

end Rows

/-! ## The steps of a call -/

section Steps

variable {features : ProductFeatures} {catalog next : PrinterCatalog}

/-- Whether the steps that a call still has to take lead to a settled catalog. -/
def Settling (features : ProductFeatures) (catalog : PrinterCatalog) : Prop :=
  ∃ settled, performAll features (catalog.mutation.getD []) catalog = .ok settled ∧
    Settled features settled

/-- A step of a call neither sees the discoveries nor the calls. -/
lemma perform_with (effect : Effect) (scans : List (List DiscoveredPrinter))
    (mutation : Option (List Effect)) :
    ({ catalog with scans := scans, mutation := mutation } : PrinterCatalog).perform features effect =
      (catalog.perform features effect).map fun next =>
        { next with scans := scans, mutation := mutation } := by
  cases effect with
  | upsert reference =>
      simp only [perform]
      split <;> rfl
  | summarize printer =>
      simp only [perform]
      show ((catalog.summarize printer).map _) = _
      cases catalog.summarize printer <;> rfl
  | list =>
      simp only [perform]
      show ((catalog.list features).map _) = _
      cases catalog.list features <;> rfl
  | _ => rfl

lemma performAll_with (effects : List Effect) (scans : List (List DiscoveredPrinter))
    (mutation : Option (List Effect)) (catalog : PrinterCatalog) :
    performAll features effects { catalog with scans := scans, mutation := mutation } =
      (performAll features effects catalog).map fun next =>
        { next with scans := scans, mutation := mutation } := by
  induction effects generalizing catalog with
  | nil => rfl
  | cons effect effects ih =>
      rw [performAll, performAll, perform_with]
      cases catalog.perform features effect with
      | error e => rfl
      | ok next => exact ih next

lemma Settled.with (hsettled : Settled features catalog) (scans : List (List DiscoveredPrinter))
    (mutation : Option (List Effect)) :
    Settled features { catalog with scans := scans, mutation := mutation } :=
  ⟨hsettled.ids, hsettled.valid, hsettled.stored, hsettled.resolves, hsettled.registered⟩

lemma Settling.with (hsettling : Settling features catalog)
    (scans : List (List DiscoveredPrinter)) :
    Settling features { catalog with scans := scans } := by
  rcases hsettling with ⟨settled, hperform, hsettled⟩
  refine ⟨_, ?_, hsettled.with scans catalog.mutation⟩
  rw [performAll_with, hperform]
  rfl

lemma performAll_append (first second : List Effect) (catalog : PrinterCatalog) :
    performAll features (first ++ second) catalog =
      (performAll features first catalog >>= performAll features second) := by
  induction first generalizing catalog with
  | nil => rfl
  | cons effect first ih =>
      rw [List.cons_append, performAll, performAll]
      cases catalog.perform features effect with
      | error e => rfl
      | ok next => exact ih next

lemma performAll_cons {effect : Effect} {effects : List Effect}
    (hperform : catalog.perform features effect = .ok next) :
    performAll features (effect :: effects) catalog = performAll features effects next := by
  rw [performAll, hperform]
  rfl

lemma perform_upsert {reference : PrinterRef} (hvalid : reference.validate = .ok ()) :
    catalog.perform features (.upsert reference) = .ok { catalog with
      resolver := Function.update catalog.resolver reference.id (some reference) } := by
  rw [perform, hvalid]

lemma perform_summarize {printer : CatalogPrinter}
    (hregistered : printer.kind = .virtual → (catalog.virtualSpooler printer.id).isSome = true) :
    catalog.perform features (.summarize printer) = .ok catalog := by
  have hsummary : catalog.summarize printer = .ok () := summarize_eq_ok.mpr hregistered
  rw [perform, hsummary]
  rfl

lemma perform_list (hregistered : ∀ printer ∈ catalog.active features, printer.kind = .virtual →
    (catalog.virtualSpooler printer.id).isSome = true) :
    catalog.perform features .list = .ok catalog := by
  have hlist : catalog.list features = .ok () := list_eq_ok.mpr hregistered
  rw [perform, hlist]
  rfl

/-- The steps that bring the resolver up to date after a refresh. -/
lemma performAll_sync (features : ProductFeatures) {printers : List CatalogPrinter}
    (hvalid : ∀ printer ∈ printers, printer.reference.validate = .ok ())
    (hids : (printers.map CatalogPrinter.id).Nodup) (catalog : PrinterCatalog) :
    ∃ resolver, performAll features (printers.map (syncEffect features)) catalog =
        .ok { catalog with resolver := resolver } ∧
      ∀ id reference, resolver id = some reference ↔
        (∃ printer ∈ printers, featureAllowsPrinter features printer = true ∧ printer.id = id ∧
          printer.reference = reference) ∨
        (id ∉ printers.map CatalogPrinter.id ∧ catalog.resolver id = some reference) := by
  induction printers generalizing catalog with
  | nil => exact ⟨catalog.resolver, rfl, by simp⟩
  | cons printer printers ih =>
      rw [List.forall_mem_cons] at hvalid
      rw [List.map_cons, List.nodup_cons] at hids
      have hstep : ∃ value, catalog.perform features (syncEffect features printer) =
          .ok { catalog with resolver := Function.update catalog.resolver printer.id value } ∧
          ∀ reference, value = some reference ↔
            featureAllowsPrinter features printer = true ∧ printer.reference = reference := by
        rw [syncEffect]
        split_ifs with hallowed
        · exact ⟨some printer.reference, perform_upsert hvalid.1, by simp [hallowed]⟩
        · exact ⟨none, rfl, by simp [hallowed]⟩
      rcases hstep with ⟨value, hperform, hvalue⟩
      rcases ih hvalid.2 hids.2 { catalog with
        resolver := Function.update catalog.resolver printer.id value } with
        ⟨resolver, hrest, hresolver⟩
      dsimp only at hresolver
      refine ⟨resolver, ?_, ?_⟩
      · rw [List.map_cons, performAll_cons hperform, hrest]
      · intro id reference
        rw [hresolver id reference, List.exists_mem_cons_iff, List.map_cons, List.mem_cons, not_or]
        rcases eq_or_ne id printer.id with rfl | hne
        · rw [Function.update_self, hvalue]
          constructor
          · rintro (hrest | ⟨_, hallowed, hreference⟩)
            · exact .inl (.inr hrest)
            · exact .inl (.inl ⟨hallowed, rfl, hreference⟩)
          · rintro ((⟨hallowed, _, hreference⟩ | hrest) | ⟨⟨hne, _⟩, _⟩)
            · exact .inr ⟨hids.1, hallowed, hreference⟩
            · exact .inl hrest
            · exact absurd rfl hne
        · rw [Function.update_of_ne hne]
          constructor
          · rintro (hrest | ⟨hnew, hold⟩)
            · exact .inl (.inr hrest)
            · exact .inr ⟨⟨hne, hnew⟩, hold⟩
          · rintro ((⟨_, hid, _⟩ | hrest) | ⟨⟨_, hnew⟩, hold⟩)
            · exact absurd hid.symm hne
            · exact .inl hrest
            · exact .inr ⟨hnew, hold⟩

end Steps

/-! ## A pass of discovery -/

section Discovery

variable {lowercase : String → String} {state : PersistedCatalog}
  {discovered : List DiscoveredPrinter}

lemma ids_reconcileObservation {suppressed : List String} {printers : List CatalogPrinter}
    {observation : DiscoveredPrinter} (hids : (printers.map CatalogPrinter.id).Nodup) :
    ((reconcileObservation lowercase suppressed printers observation).map
        CatalogPrinter.id).Nodup ∧
      printers.map CatalogPrinter.id ⊆
        (reconcileObservation lowercase suppressed printers observation).map CatalogPrinter.id := by
  rw [reconcileObservation]
  split_ifs
  · exact ⟨hids, fun _ hid => hid⟩
  · split
    · rename_i index _
      have hsame : (printers.modify index (·.observed observation)).map CatalogPrinter.id =
          printers.map CatalogPrinter.id := Roster.map_modify fun _ _ => rfl
      rw [hsame]
      exact ⟨hids, fun _ hid => hid⟩
    · rename_i hindex
      rw [matchingPrinterIndex] at hindex
      split at hindex
      · cases hindex
      · rename_i hnone
        have hnew : observedId lowercase observation ∉ printers.map CatalogPrinter.id := by
          intro hmem
          rcases List.mem_map.mp hmem with ⟨printer, hprinter, hid⟩
          have hother := List.findIdx?_eq_none_iff.mp hnone printer hprinter
          exact of_decide_eq_false hother hid
        rw [List.map_append]
        refine ⟨?_, List.subset_append_left _ _⟩
        refine List.nodup_append.mpr ⟨hids, List.nodup_singleton _, ?_⟩
        rintro id hid other hother rfl
        rw [List.map_singleton, List.mem_singleton] at hother
        rw [hother] at hid
        exact hnew hid

lemma ids_reconcile (hids : state.ids.Nodup) :
    (reconcile lowercase state discovered).ids.Nodup ∧
      state.ids ⊆ (reconcile lowercase state discovered).ids := by
  have hunseen : (state.printers.map CatalogPrinter.unseen).map CatalogPrinter.id = state.ids := by
    rw [List.map_map]
    exact List.map_congr_left fun printer _ => id_unseen
  have hfold : ∀ printers : List CatalogPrinter, (printers.map CatalogPrinter.id).Nodup →
      ((discovered.foldl (reconcileObservation lowercase state.suppressedSystemIds) printers).map
          CatalogPrinter.id).Nodup ∧
        printers.map CatalogPrinter.id ⊆
          (discovered.foldl (reconcileObservation lowercase state.suppressedSystemIds)
            printers).map CatalogPrinter.id := by
    induction discovered with
    | nil => exact fun printers hprinters => ⟨hprinters, fun _ hid => hid⟩
    | cons observation discovered ih =>
        intro printers hprinters
        have hfirst : ((reconcileObservation lowercase state.suppressedSystemIds printers
            observation).map CatalogPrinter.id).Nodup ∧ _ := ids_reconcileObservation hprinters
        have hrest := ih _ hfirst.1
        exact ⟨hrest.1, fun id hid => hrest.2 (hfirst.2 hid)⟩
  have hall := hfold (state.printers.map CatalogPrinter.unseen) (hunseen ▸ hids)
  rw [hunseen] at hall
  exact hall

end Discovery

/-! ## What a call leads to -/

/-- The id a call draws. -/
def Call.drawn : Call → Option PrinterId
  | .addManual _ uuid => (drawnId "printer_network_" uuid).toOption
  | .createVirtual _ uuid => (drawnId "printer_virtual_" uuid).toOption
  | _ => none

/-- Whether every virtual printer that was discovered still has its row. -/
def Accounted (state : PersistedCatalog) (discovered : List DiscoveredPrinter) : Prop :=
  ∀ observation ∈ discovered, observation.connection.kind = .virtual →
    ∀ id ∈ observation.id, id ∈ state.ids

/-- Whether a call may go on: the id it draws is new, and the virtual printers that its refresh has
discovered have not been removed meanwhile. -/
def PrinterCatalog.Admissible (catalog : PrinterCatalog) (call : Call) : Prop :=
  (∀ id ∈ call.drawn, id ∉ catalog.state.ids) ∧
    match call with
    | .refresh n => ∀ discovered ∈ catalog.scans[n]?, Accounted catalog.state discovered
    | _ => True

/-- The steps that keep the catalog coherent. -/
def PrinterCatalog.Orderly (catalog : PrinterCatalog) : CatalogAction → Prop
  | .start call fault => catalog.Admissible call ∧ fault ≠ .after
  | _ => True

instance (state : PersistedCatalog) (discovered : List DiscoveredPrinter) :
    Decidable (Accounted state discovered) :=
  inferInstanceAs (Decidable (∀ observation ∈ discovered, observation.connection.kind = .virtual →
    ∀ id ∈ observation.id, id ∈ state.ids))

instance (catalog : PrinterCatalog) : (call : Call) → Decidable (catalog.Admissible call)
  | .refresh n => inferInstanceAs (Decidable ((∀ id ∈ (none : Option PrinterId), _) ∧
      ∀ discovered ∈ catalog.scans[n]?, Accounted catalog.state discovered))
  | .configure _ _ => inferInstanceAs (Decidable (_ ∧ True))
  | .addManual _ _ => inferInstanceAs (Decidable (_ ∧ True))
  | .createVirtual _ _ => inferInstanceAs (Decidable (_ ∧ True))
  | .updateVirtual _ _ _ => inferInstanceAs (Decidable (_ ∧ True))
  | .remove _ => inferInstanceAs (Decidable (_ ∧ True))

instance (catalog : PrinterCatalog) : (action : CatalogAction) → Decidable (catalog.Orderly action)
  | .scan _ => .isTrue trivial
  | .start call fault => inferInstanceAs (Decidable (catalog.Admissible call ∧ fault ≠ .after))
  | .advance => .isTrue trivial
  | .restart _ => .isTrue trivial

section Calls

variable {features : ProductFeatures} {lowercase : String → String}
  {assigned : PrinterId → ConnectionKind → Prop} {catalog : PrinterCatalog}
  {state : PersistedCatalog} {printer updated : CatalogPrinter} {index : ℕ}

/-- The catalog once a call has taken all its steps. -/
lemma settles {effects : List Effect} {setting : Option Serde.Content}
    (resolver : PrinterId → Option PrinterRef) (virtualSpooler : PrinterId → Option Policy)
    (hperform : performAll features effects { catalog with setting := setting } =
      .ok { catalog with
        setting := setting
        state := state
        resolver := resolver
        virtualSpooler := virtualSpooler
        revision := catalog.bumped })
    (hstored : storedCatalog setting = .ok (state, false)) (hids : state.ids.Nodup)
    (hvalid : ∀ printer ∈ state.printers, printer.reference.validate = .ok ())
    (hresolves : Resolves features state.printers resolver)
    (hregistered : ∀ printer ∈ state.printers, featureAllowsPrinter features printer = true →
      printer.kind = .virtual → (virtualSpooler printer.id).isSome = true) :
    ∃ settled, performAll features effects { catalog with setting := setting } = .ok settled ∧
      Settled features settled := by
  refine ⟨_, hperform, hids, hvalid, hstored, hresolves, ?_⟩
  intro printer hprinter hvirtual
  rw [mem_active] at hprinter
  exact hregistered printer hprinter.1 hprinter.2 hvirtual

/-- A pass adds no virtual printer when all that it has observed have their rows. -/
lemma accounted_rule (hassignment : Assignment assigned) {suppressed : List String} :
    PassRule assigned lowercase suppressed
      (fun observation => Credible assigned observation ∧ Checked observation ∧
        (observation.connection.kind = .virtual → ∀ id, observation.id = some id → id ∈ state.ids))
      (fun printer => Native assigned printer ∧ (printer.kind = .virtual → printer.id ∈ state.ids))
    where
  native hprinter := hprinter.1
  credible hobservation := hobservation.1
  unseen hprinter := ⟨native_rule.unseen hprinter.1, by simpa using hprinter.2⟩
  observed hprinter hobservation _ hkind :=
    ⟨hprinter.1.observed hobservation.1 hobservation.2.1 hkind,
      fun hvirtual => hprinter.2 (hkind ▸ hvirtual)⟩
  discovered := by
    intro observation hobservation _
    refine ⟨native_rule.discovered hobservation.1 hobservation.2.1
      (assigned_observedId hassignment hobservation.1), ?_⟩
    intro hvirtual
    show observedId lowercase observation ∈ state.ids
    rw [observedId]
    cases hid : observation.id with
    | none =>
        have hqueue := hobservation.1.queue hid
        rw [newPrinter, CatalogPrinter.kind, hqueue] at hvirtual
        cases hvirtual
    | some id => exact hobservation.2.2 hvirtual id hid

variable (hsettled : Settled features catalog)

include hsettled

/-- A row that is changed stays registered. -/
lemma Settled.registered_set (hrow : catalog.state.printers[index]? = some printer)
    (hid : updated.id = printer.id) (hkind : updated.kind = printer.kind) :
    ∀ found ∈ (catalog.state.set index updated).printers,
      featureAllowsPrinter features found = true → found.kind = .virtual →
        (catalog.virtualSpooler found.id).isSome = true := by
  intro found hfound hallowed hvirtual
  rcases Roster.mem_modify hfound with hold | ⟨_, _, rfl⟩
  · exact hsettled.registered found (mem_active.mpr ⟨hold, hallowed⟩) hvirtual
  · rw [hid]
    refine hsettled.registered printer (mem_active.mpr ⟨List.mem_of_getElem? hrow, ?_⟩) ?_
    · rw [featureAllowsPrinter, hkind] at hallowed
      exact hallowed
    · rw [← hkind]
      exact hvirtual

lemma Settled.ids_set (hrow : catalog.state.printers[index]? = some printer)
    (hid : updated.id = printer.id) : (catalog.state.set index updated).ids.Nodup := by
  rw [Desktop.ids_set hrow hid]
  exact hsettled.ids

lemma Settled.resolves_set (hrow : catalog.state.printers[index]? = some printer)
    (hid : updated.id = printer.id) (hallowed : featureAllowsPrinter features updated = true) :
    Resolves features (catalog.state.set index updated).printers
      (Function.update catalog.resolver updated.id (some updated.reference)) := by
  refine hsettled.resolves.update ?_ ?_
  · intro other hne
    exact mem_set_iff hrow hid (hid ▸ hne)
  · exact some_iff_of_mem (hsettled.ids_set hrow hid) (Roster.mem_modify_self hrow) hallowed

lemma Settled.ids_push (hnew : printer.id ∉ catalog.state.ids) :
    (catalog.state.push printer).ids.Nodup :=
  Table.UniqueBy.concat hsettled.ids hnew

lemma Settled.resolves_push (hnew : printer.id ∉ catalog.state.ids)
    (hallowed : featureAllowsPrinter features printer = true) :
    Resolves features (catalog.state.push printer).printers
      (Function.update catalog.resolver printer.id (some printer.reference)) := by
  refine hsettled.resolves.update ?_ ?_
  · intro other hne
    rw [PersistedCatalog.push, List.mem_append, List.mem_singleton]
    constructor
    · rintro (hold | rfl)
      · exact hold
      · exact absurd rfl hne
    · exact .inl
  · refine some_iff_of_mem ?_ ?_ hallowed
    · exact hsettled.ids_push hnew
    · exact List.mem_append_right _ List.mem_cons_self

lemma Settled.valid_set (hvalid : updated.reference.validate = .ok ()) :
    ∀ found ∈ (catalog.state.set index updated).printers, found.reference.validate = .ok () := by
  intro found hfound
  rcases Roster.mem_modify hfound with hold | ⟨_, _, rfl⟩
  · exact hsettled.valid found hold
  · exact hvalid

lemma Settled.valid_push (hvalid : printer.reference.validate = .ok ()) :
    ∀ found ∈ (catalog.state.push printer).printers, found.reference.validate = .ok () := by
  intro found hfound
  rcases List.mem_append.mp hfound with hold | hnew
  · exact hsettled.valid found hold
  · rw [List.mem_singleton.mp hnew]
    exact hvalid

/-- A call that changes one row, and tells the resolver. -/
lemma Settled.configured (hrow : catalog.state.printers[index]? = some printer)
    (hid : updated.id = printer.id) (hkind : updated.kind = printer.kind)
    (hallowed : featureAllowsPrinter features printer = true)
    (hvalid : updated.reference.validate = .ok ()) {setting : Option Serde.Content}
    (hstored : storedCatalog setting = .ok (catalog.state.set index updated, false)) :
    ∃ settled, performAll features [.write (catalog.state.set index updated),
        .upsert updated.reference, .bumpRevision, .summarize updated]
        { catalog with setting := setting } = .ok settled ∧ Settled features settled := by
  have hupdated : featureAllowsPrinter features updated = true := by
    rw [featureAllowsPrinter, hkind]
    exact hallowed
  have hregistered := hsettled.registered_set hrow hid hkind
  refine settles _ _ ?_ hstored (hsettled.ids_set hrow hid) (hsettled.valid_set hvalid)
    (hsettled.resolves_set hrow hid hupdated) hregistered
  rw [performAll_cons rfl, performAll_cons (perform_upsert hvalid), performAll_cons rfl,
    performAll_cons (perform_summarize _)]
  · rfl
  · exact hregistered updated (Roster.mem_modify_self hrow) hupdated

/-- A row that is registered with a new device. -/
lemma Settled.registered_push (policy : Policy) (hnew : printer.id ∉ catalog.state.ids) :
    ∀ found ∈ (catalog.state.push printer).printers,
      featureAllowsPrinter features found = true → found.kind = .virtual →
        (Function.update catalog.virtualSpooler printer.id (some policy) found.id).isSome = true := by
  intro found hfound hallowed hvirtual
  rcases List.mem_append.mp hfound with hold | hlast
  · have hne : found.id ≠ printer.id := by
      intro hid
      exact hnew (hid ▸ List.mem_map_of_mem hold)
    rw [Function.update_of_ne hne]
    exact hsettled.registered found (mem_active.mpr ⟨hold, hallowed⟩) hvirtual
  · rw [List.mem_singleton.mp hlast, Function.update_self]
    rfl

/-- A network printer that is added. -/
lemma Settled.addedManual (hnew : printer.id ∉ catalog.state.ids)
    (hallowed : featureAllowsPrinter features printer = true) (hkind : printer.kind ≠ .virtual)
    (hvalid : printer.reference.validate = .ok ()) {setting : Option Serde.Content}
    (hstored : storedCatalog setting = .ok (catalog.state.push printer, false)) :
    ∃ settled, performAll features [.write (catalog.state.push printer),
        .upsert printer.reference, .bumpRevision, .summarize printer]
        { catalog with setting := setting } = .ok settled ∧ Settled features settled := by
  refine settles _ catalog.virtualSpooler ?_ hstored (hsettled.ids_push hnew)
    (hsettled.valid_push hvalid) (hsettled.resolves_push hnew hallowed) ?_
  · rw [performAll_cons rfl, performAll_cons (perform_upsert hvalid), performAll_cons rfl,
      performAll_cons (perform_summarize _)]
    · rfl
    · intro hvirtual
      exact absurd hvirtual hkind
  · intro found hfound hactive hvirtual
    rcases List.mem_append.mp hfound with hold | hlast
    · exact hsettled.registered found (mem_active.mpr ⟨hold, hactive⟩) hvirtual
    · rw [List.mem_singleton.mp hlast] at hvirtual
      exact absurd hvirtual hkind

/-- A virtual printer that is created. -/
lemma Settled.createdVirtual (hnew : printer.id ∉ catalog.state.ids)
    (hallowed : featureAllowsPrinter features printer = true)
    (hvalid : printer.reference.validate = .ok ()) {setting : Option Serde.Content}
    (hstored : storedCatalog setting = .ok (catalog.state.push printer, false)) :
    ∃ settled, performAll features [.write (catalog.state.push printer),
        .register printer.id .alwaysSucceed 0, .upsert printer.reference, .bumpRevision,
        .summarize printer]
        { catalog with setting := setting } = .ok settled ∧ Settled features settled := by
  refine settles _ _ ?_ hstored (hsettled.ids_push hnew) (hsettled.valid_push hvalid)
    (hsettled.resolves_push hnew hallowed) (hsettled.registered_push (.alwaysSucceed, 0) hnew)
  rw [performAll_cons rfl, performAll_cons rfl, performAll_cons (perform_upsert hvalid),
    performAll_cons rfl, performAll_cons (perform_summarize _)]
  · rfl
  · intro _
    show (Function.update catalog.virtualSpooler printer.id (some _) printer.id).isSome = true
    rw [Function.update_self]
    rfl

/-- A virtual printer that is registered anew. -/
lemma Settled.updatedVirtual (policy : Policy)
    (hrow : catalog.state.printers[index]? = some printer)
    (hreference : updated.reference = printer.reference) {setting : Option Serde.Content}
    (hstored : storedCatalog setting = .ok (catalog.state.set index updated, false)) :
    ∃ settled, performAll features [.write (catalog.state.set index updated),
        .register printer.id policy.1 policy.2, .bumpRevision, .summarize updated]
        { catalog with setting := setting } = .ok settled ∧ Settled features settled := by
  have hid : updated.id = printer.id := congrArg PrinterRef.id hreference
  have hsame : (catalog.state.set index updated).printers.map CatalogPrinter.reference =
      catalog.state.printers.map CatalogPrinter.reference := by
    refine Roster.map_modify ?_
    intro entry hentry
    rw [hrow, Option.some.injEq] at hentry
    rw [← hentry, hreference]
  have hvalid : updated.reference.validate = .ok () := by
    rw [hreference]
    exact hsettled.valid printer (List.mem_of_getElem? hrow)
  refine settles _ (Function.update catalog.virtualSpooler printer.id (some policy)) ?_ hstored
    (hsettled.ids_set hrow hid) (hsettled.valid_set hvalid)
    (hsettled.resolves.of_references hsame) ?_
  · rw [performAll_cons rfl, performAll_cons rfl, performAll_cons rfl,
      performAll_cons (perform_summarize _)]
    · rfl
    · intro _
      show (Function.update catalog.virtualSpooler printer.id (some policy) updated.id).isSome = true
      rw [hid, Function.update_self]
      rfl
  · intro found hfound hallowed hvirtual
    rcases eq_or_ne found.id printer.id with heq | hne
    · rw [heq, Function.update_self]
      rfl
    · rw [Function.update_of_ne hne]
      have hold := (mem_set_iff hrow hid hne).mp hfound
      exact hsettled.registered found (mem_active.mpr ⟨hold, hallowed⟩) hvirtual

/-- A row that is removed. -/
lemma Settled.removed (hrow : catalog.state.printers[index]? = some printer)
    {setting : Option Serde.Content}
    (hstored : storedCatalog setting = .ok (catalog.state.without index printer, false)) :
    ∃ settled, performAll features ([.write (catalog.state.without index printer),
        .withdraw printer.id] ++ (if printer.isVirtual then [.unregister printer.id] else []) ++
          [.bumpRevision]) { catalog with setting := setting } = .ok settled ∧
      Settled features settled := by
  have hgone : ∀ found ∈ (catalog.state.without index printer).printers,
      found ∈ catalog.state.printers ∧ found.id ≠ printer.id := by
    intro found hfound
    exact ⟨List.mem_of_mem_eraseIdx hfound, Roster.key_ne_of_mem_eraseIdx hsettled.ids hrow hfound⟩
  have hresolves : Resolves features (catalog.state.without index printer).printers
      (Function.update catalog.resolver printer.id none) := by
    refine hsettled.resolves.update ?_ ?_
    · intro other hne
      constructor
      · intro hother
        exact (hgone other hother).1
      · intro hother
        rcases List.mem_iff_getElem?.mp hother with ⟨position, hposition⟩
        refine List.mem_eraseIdx_iff_getElem?.mpr ⟨position, ?_, hposition⟩
        rintro rfl
        rw [hrow, Option.some.injEq] at hposition
        exact hne (hposition ▸ rfl)
    · intro reference
      simp only [reduceCtorEq, false_iff]
      rintro ⟨found, hfound, _, hid, _⟩
      exact (hgone found hfound).2 hid
  have hids : (catalog.state.without index printer).ids.Nodup := Roster.nodup_eraseIdx hsettled.ids
  have hvalid : ∀ found ∈ (catalog.state.without index printer).printers,
      found.reference.validate = .ok () :=
    fun found hfound => hsettled.valid found (hgone found hfound).1
  have hregistered : ∀ found ∈ (catalog.state.without index printer).printers,
      featureAllowsPrinter features found = true → found.kind = .virtual →
        (catalog.virtualSpooler found.id).isSome = true := by
    intro found hfound hallowed hvirtual
    exact hsettled.registered found (mem_active.mpr ⟨(hgone found hfound).1, hallowed⟩) hvirtual
  split_ifs
  · refine settles _ (Function.update catalog.virtualSpooler printer.id none) rfl hstored hids hvalid
      hresolves ?_
    intro found hfound
    rw [Function.update_of_ne (hgone found hfound).2]
    exact hregistered found hfound
  · exact settles _ catalog.virtualSpooler rfl hstored hids hvalid hresolves hregistered

/-- A pass of discovery that finds no virtual printer without a row. -/
lemma Settled.refreshed (hassignment : Assignment assigned)
    (hnative : ∀ printer ∈ catalog.state.printers, Native assigned printer)
    {discovered : List DiscoveredPrinter}
    (hdiscovered : ∀ observation ∈ discovered, Credible assigned observation ∧ Checked observation)
    (haccounted : Accounted catalog.state discovered) {setting : Option Serde.Content}
    (hstored : storedCatalog setting =
      .ok (reconcile lowercase catalog.state discovered, false)) :
    ∃ settled, performAll features
        (Desktop.refresh features catalog.state lowercase discovered).effects
        { catalog with setting := setting } = .ok settled ∧ Settled features settled := by
  have hids : (reconcile lowercase catalog.state discovered).ids.Nodup ∧ _ :=
    ids_reconcile hsettled.ids
  have hrows : ∀ printer ∈ (reconcile lowercase catalog.state discovered).printers,
      Native assigned printer ∧ (printer.kind = .virtual → printer.id ∈ catalog.state.ids) :=
    (accounted_rule hassignment).reconcile hassignment
      (fun printer hprinter => ⟨hnative printer hprinter, fun _ => List.mem_map_of_mem hprinter⟩)
      (fun observation hobservation => ⟨(hdiscovered observation hobservation).1,
        (hdiscovered observation hobservation).2, haccounted observation hobservation⟩)
  have hvalid : ∀ printer ∈ (reconcile lowercase catalog.state discovered).printers,
      printer.reference.validate = .ok () :=
    fun printer hprinter => (hrows printer hprinter).1.valid
  have hregistered : ∀ printer ∈ (reconcile lowercase catalog.state discovered).printers,
      featureAllowsPrinter features printer = true → printer.kind = .virtual →
        (catalog.virtualSpooler printer.id).isSome = true := by
    intro printer hprinter hallowed hvirtual
    rcases List.mem_map.mp ((hrows printer hprinter).2 hvirtual) with ⟨old, hold, hid⟩
    -- the id is that of a virtual printer, so its old row was one as well
    have hkind : old.kind = printer.kind := by
      have hassigned := (hnative old hold).assigned
      rw [hid] at hassigned
      exact hassignment.functional hassigned (hrows printer hprinter).1.assigned
    rw [← hid]
    refine hsettled.registered old (mem_active.mpr ⟨hold, ?_⟩) (hkind.trans hvirtual)
    rw [featureAllowsPrinter, hkind]
    exact hallowed
  rcases performAll_sync features hvalid hids.1
    { catalog with setting := setting, state := reconcile lowercase catalog.state discovered }
    with ⟨resolver, hsync, hresolver⟩
  refine settles resolver catalog.virtualSpooler ?_ hstored hids.1 hvalid ?_ hregistered
  · rw [Desktop.refresh, performAll_cons rfl, performAll_append, hsync]
    show performAll features [.bumpRevision, .list] _ = _
    rw [performAll_cons rfl, performAll_cons (perform_list _)]
    · rfl
    · intro printer hprinter hvirtual
      rw [mem_active] at hprinter
      exact hregistered printer hprinter.1 hprinter.2 hvirtual
  · intro id reference
    rw [hresolver id reference]
    constructor
    · rintro (hfound | ⟨hnew, hold⟩)
      · exact hfound
      · -- what resolved before has a row still
        rcases (hsettled.resolves id reference).mp hold with ⟨old, hmem, _, rfl, _⟩
        exact absurd (hids.2 (List.mem_map_of_mem hmem)) hnew
    · exact .inl

/-- **A call that goes on to its end leaves a settled catalog.** -/
theorem Settled.planned (hassignment : Assignment assigned)
    (hsound : Sound assigned (Native assigned) catalog) {call : Call} {plan : Plan}
    (hadmissible : catalog.Admissible call)
    (hplanned : Planned features lowercase catalog call plan) :
    ∃ settled, performAll features plan.effects
        { catalog with setting := some (Serde.content plan.next.toValue) } = .ok settled ∧
      Settled features settled := by
  have hstored := storedCatalog_toValue plan.next
  cases hplanned with
  | refresh hscan =>
      exact hsettled.refreshed hassignment hsound.state
        (hsound.scans _ (List.mem_of_getElem? hscan)) (hadmissible.2 _ hscan) hstored
  | configure hrow _ hallowed _ hvalid =>
      refine hsettled.configured hrow ?_ ?_ hallowed hvalid hstored
      · rfl
      · rfl
  | @addManual input _ id hallowed hdrawn hvalid =>
      have hactive : featureAllowsPrinter features (manualPrinter id input) = true := hallowed
      refine hsettled.addedManual (hadmissible.1 _ ?_) hactive ?_ hvalid hstored
      · rw [Call.drawn, hdrawn]
        rfl
      · intro hvirtual
        cases hvirtual
  | @createVirtual input _ id hallowed hdrawn hvalid =>
      have hactive : featureAllowsPrinter features (virtualPrinter id input) = true := hallowed
      refine hsettled.createdVirtual (hadmissible.1 _ ?_) hactive hvalid hstored
      rw [Call.drawn, hdrawn]
      rfl
  | updateVirtual _ hrow _ _ =>
      refine hsettled.updatedVirtual (_, _) hrow ?_ hstored
      rfl
  | remove hrow _ => exact hsettled.removed hrow hstored

end Calls

/-! ## Runs -/

section Runs

variable {features : ProductFeatures} {lowercase : String → String}
  {assigned : PrinterId → ConnectionKind → Prop} {catalog next : PrinterCatalog}

/-- What is loaded is settled. -/
lemma settled_of_load {setting : Option Serde.Content} {fault : Fault}
    (hload : load features setting fault = .ok next) : Settled features next := by
  rcases load_eq_ok hload with ⟨_, _, hsetting, hrows, hresolver, hdevices, _⟩
  rcases checkRows_eq_ok.mp hrows with ⟨hvalid, hids, _⟩
  refine ⟨hids, hvalid, hsetting, ?_, ?_⟩
  · intro id reference
    rw [hresolver, directory, Option.map_eq_some_iff]
    constructor
    · rintro ⟨printer, hfind, rfl⟩
      rcases List.mem_filter.mp (List.mem_of_find?_eq_some hfind) with ⟨hprinter, hallowed⟩
      have hid := List.find?_some hfind
      exact ⟨printer, hprinter, hallowed, of_decide_eq_true hid, rfl⟩
    · rintro ⟨printer, hprinter, hallowed, rfl, rfl⟩
      cases hfind : (next.state.printers.filter (featureAllowsPrinter features)).find?
          fun found => found.id = printer.id with
      | none =>
          have hother := List.find?_eq_none.mp hfind printer
            (List.mem_filter.mpr ⟨hprinter, hallowed⟩)
          exact absurd (decide_eq_true rfl) hother
      | some found =>
          have hfound := (List.mem_filter.mp (List.mem_of_find?_eq_some hfind)).1
          have hid := List.find?_some hfind
          exact ⟨found, rfl, congrArg _ (eq_of_id_eq hids hfound hprinter (of_decide_eq_true hid))⟩
  · intro printer hprinter hvirtual
    rw [mem_active] at hprinter
    rw [hdevices, startedDevices, Option.isSome_map, List.find?_isSome]
    refine ⟨printer, hprinter.1, ?_⟩
    rw [CatalogPrinter.isVirtual, hvirtual, hprinter.2]
    simp

/-- A step that keeps the catalog coherent leads on to a settled catalog. -/
lemma Settling.step (hassignment : Assignment assigned) (hsound : Sound assigned (Native assigned) catalog)
    (hsettling : Settling features catalog) {action : CatalogAction}
    (horderly : catalog.Orderly action) {events : List CatalogEvent}
    (hacts : Acts features lowercase catalog action next events) : Settling features next := by
  cases hacts with
  | scanned surroundings => exact hsettling.with _
  | @started call fault _ _ hmutation hstarts =>
      rcases @taken_eq catalog call with ⟨scans, htaken, _⟩
      rcases hsettling with ⟨settled, hperform, hsettled⟩
      rw [hmutation] at hperform
      cases hperform
      cases hstarts with
      | refused =>
          rw [htaken]
          exact ⟨_, by rw [hmutation]; rfl, hsettled.with scans catalog.mutation⟩
      | stranded _ hfault _ => exact absurd hfault horderly.2
      | @stored plan hplan _ _ =>
          rcases hsettled.planned hassignment hsound horderly.1 hplan with
            ⟨final, hperform, hfinal⟩
          rw [htaken]
          refine ⟨_, ?_, hfinal.with scans (some plan.effects)⟩
          show performAll features plan.effects { { catalog with
            setting := some (Serde.content plan.next.toValue) } with
              scans := scans, mutation := some plan.effects } = _
          rw [performAll_with, hperform]
          rfl
  | returned hmutation =>
      rcases hsettling with ⟨settled, hperform, hsettled⟩
      rw [hmutation] at hperform
      cases hperform
      exact ⟨_, rfl, hsettled.with catalog.scans none⟩
  | @performed effect effects result hmutation hresult =>
      rcases hsettling with ⟨settled, hperform, hsettled⟩
      rw [hmutation, Option.getD_some, performAll_cons hresult] at hperform
      refine ⟨_, ?_, hsettled.with result.scans (some effects)⟩
      show performAll features effects { result with
        scans := result.scans, mutation := some effects } = _
      rw [performAll_with, hperform]
      rfl
  | failed hmutation hresult =>
      rcases hsettling with ⟨settled, hperform, _⟩
      rw [hmutation, Option.getD_some, performAll, hresult] at hperform
      cases hperform
  | restarted hload =>
      have hsettled := settled_of_load hload
      rcases load_eq_ok hload with ⟨_, _, _, _, _, _, _, _, hmutation⟩
      refine ⟨next, ?_, hsettled⟩
      rw [hmutation]
      rfl

/-- **The catalog is coherent whenever no call has the lock**, in every run whose steps keep it so. -/
theorem coherent {setting : Option Serde.Content} {fault : Fault} {initial : PrinterCatalog}
    (hload : load features setting fault = .ok initial)
    (hrows : ∀ printer ∈ initial.state.printers, Native byFamily printer)
    {history : List CatalogEvent}
    (hrun : (mutations features lowercase).Runs (fun _ catalog action => catalog.Orderly action)
      initial history catalog) (hidle : catalog.mutation = none) : Coherent features catalog := by
  have hsettling : Settling features catalog := by
    clear hidle
    induction hrun with
    | start =>
        rcases load_eq_ok hload with ⟨_, _, _, _, _, _, _, _, hmutation⟩
        refine ⟨initial, ?_, settled_of_load hload⟩
        rw [hmutation]
        rfl
    | step hrun horderly hstep ih =>
        exact ih.step byFamily_assignment
          (native_rule.rows byFamily_assignment hload hrows hrun) horderly (acts hstep)
  rcases hsettling with ⟨settled, hperform, hsettled⟩
  rw [hidle] at hperform
  cases hperform
  exact hsettled.isCoherent

/-- A virtual printer is created and refreshed. -/
def virtualPrinterRefreshed : List CatalogAction :=
  wholeCall (.createVirtual ⟨"Office", .escPosReceipt 80⟩ 0) 6 ++ [.scan quietSurroundings] ++
    wholeCall (.refresh 0) 5

theorem coherent_virtualPrinterRefreshed :
    (((weighed everyFeature id).run (fun _ catalog action => decide (catalog.Orderly action))
      freshCatalog virtualPrinterRefreshed).2.state.ids.length = 1) ∧
    Coherent everyFeature
      ((weighed everyFeature id).run (fun _ catalog action => decide (catalog.Orderly action))
        freshCatalog virtualPrinterRefreshed).2 :=
  ⟨by decide +kernel,
    coherent load_freshCatalog (fun _ hprinter => nomatch hprinter)
      (runs_of_weighed (History.System.runs_run (fun _ _ _ horderly => of_decide_eq_true horderly)
        virtualPrinterRefreshed))
      (by decide +kernel)⟩

/-- A virtual printer is removed after a refresh had it in its snapshot. -/
def removedWhileDiscovered : List CatalogAction :=
  wholeCall (.createVirtual ⟨"Office", .escPosReceipt 80⟩ 0) 6 ++ [.scan quietSurroundings] ++
    wholeCall (.remove "printer_virtual_00000000-0000-0000-0000-000000000000") 5 ++
    wholeCall (.refresh 0) 4

/-- **A refresh brings back a virtual printer that was removed**, without registering it, and `list`
fails from then on. -/
theorem removed_virtual_printer_unlisted :
    load everyFeature none .absent = .ok freshCatalog ∧
      ∃ history catalog, (mutations everyFeature id).Runs History.anyStep freshCatalog history
          catalog ∧
        catalog.mutation = none ∧ ¬ Coherent everyFeature catalog := by
  have hlast : (computed removedWhileDiscovered).2.mutation = none ∧
      ((computed removedWhileDiscovered).2.list everyFeature).toOption = none := by
    decide +kernel
  refine ⟨load_freshCatalog, _, _, runs_computed removedWhileDiscovered, hlast.1, ?_⟩
  intro hcoherent
  rw [hcoherent.lists] at hlast
  cases hlast.2

end Runs

end Oppa.Desktop
