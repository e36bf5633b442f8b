import Oppa.Desktop.CatalogRun

/-!
# What every row of the catalog satisfies

* `Assignment` — which ids are those of printers that are connected in one way.  Ids that were drawn
  or computed never name printers of different kinds; `byFamily` tells them apart by how they begin.
* `Native` — a row shows the evidence and the providers of its own kind of connection, and its
  reference is valid.
* `RowRule`, `PassRule` — a property of rows that every change of a row keeps, and one that a pass of
  discovery keeps; `native_rule` says that `Native` is one.
* **`RowRule.rows`** — such a property holds of every row, in memory and stored, in every run.
-/

namespace Oppa.Desktop

open Printer Discovery PrinterCatalog

/-! ## Native rows -/

/-- Which ids are given to printers of a kind. -/
structure Assignment (assigned : PrinterId → ConnectionKind → Prop) : Prop where
  functional : ∀ {id kind other}, assigned id kind → assigned id other → kind = other
  discovered : ∀ source, assigned ⟨discoveredIdText source,
    validateIdentifier_discoveredIdText source⟩ .systemQueue
  manual : ∀ {uuid id}, drawnId "printer_network_" uuid = .ok id → assigned id .network
  virtual : ∀ {uuid id}, drawnId "printer_virtual_" uuid = .ok id → assigned id .virtual

/-- The kind of printer that an id is for, by the family it is drawn from. -/
def familyKind (id : String) : ConnectionKind :=
  if "printer_network_".toList.isPrefixOf id.toList then .network
  else if "printer_virtual_".toList.isPrefixOf id.toList then .virtual
  else .systemQueue

lemma familyKind_discovered (rest : String) :
    familyKind ("printer_discovered_" ++ rest) = .systemQueue := by
  rw [familyKind, String.toList_append]
  rfl

lemma familyKind_network (rest : String) : familyKind ("printer_network_" ++ rest) = .network := by
  rw [familyKind, String.toList_append]
  rfl

lemma familyKind_virtual (rest : String) : familyKind ("printer_virtual_" ++ rest) = .virtual := by
  rw [familyKind, String.toList_append]
  rfl

lemma value_of_drawnId {family : String} {uuid : Uuid} {id : PrinterId}
    (hdrawn : drawnId family uuid = .ok id) : id.value = family ++ uuid.hyphenated := by
  rw [drawnId, Result.mapError_eq_ok] at hdrawn
  exact TypedIdentifier.value_of_new hdrawn

/-- An id is given to printers of the kind that its family is for. -/
def byFamily (id : PrinterId) (kind : ConnectionKind) : Prop := familyKind id.value = kind

/-- **The families of ids keep printers of different kinds apart.** -/
theorem byFamily_assignment : Assignment byFamily where
  functional hkind hother := hkind.symm.trans hother
  discovered source := familyKind_discovered _
  manual hdrawn := by
    rw [byFamily, value_of_drawnId hdrawn]
    exact familyKind_network _
  virtual hdrawn := by
    rw [byFamily, value_of_drawnId hdrawn]
    exact familyKind_virtual _

/-- A row with the id and the evidence of its kind of connection, and with a valid reference. -/
structure Native (assigned : PrinterId → ConnectionKind → Prop) (printer : CatalogPrinter) :
    Prop where
  assigned : assigned printer.id printer.kind
  fits : printer.fingerprint.Fits printer.kind
  reported : ∀ metadata ∈ printer.providers, metadata.Fits printer.kind
  valid : printer.reference.validate = .ok ()

section References

variable {reference : PrinterRef}

/-- The profile of a printer only depends on how it is connected. -/
lemma validateProfile_eq {connection : PrinterConnection}
    (hkind : connection.kind = reference.connection.kind) :
    ({ reference with connection := connection } : PrinterRef).validateProfile =
      reference.validateProfile := by
  simp only [PrinterRef.validateProfile]
  cases connection <;> cases hconnection : reference.connection <;>
    rw [hconnection] at hkind <;> cases hkind
  all_goals cases reference.virtualProfile <;> rfl

lemma validate_eq_ok : reference.validate = .ok () ↔
    validateText "printer display name" reference.displayName maxPrinterNameBytes = .ok () ∧
      reference.connection.validate = .ok () ∧ reference.validateProfile = .ok () := by
  simp only [PrinterRef.validate, Result.bind_eq_ok]
  constructor
  · rintro ⟨_, hname, _, hconnection, hprofile⟩
    exact ⟨hname, hconnection, hprofile⟩
  · rintro ⟨hname, hconnection, hprofile⟩
    exact ⟨(), hname, (), hconnection, hprofile⟩

/-- A name that is checked under one description is checked under another. -/
lemma validateText_field {field other value : String} {maximum : ℕ}
    (hvalid : validateText field value maximum = .ok ()) :
    validateText other value maximum = .ok () := by
  rw [validateText] at hvalid ⊢
  split_ifs at hvalid ⊢
  rfl

end References

/-! ## Rules about rows -/

/-- A property that every change of a row keeps. -/
structure RowRule (assigned : PrinterId → ConnectionKind → Prop) (P : CatalogPrinter → Prop) :
    Prop where
  native : ∀ {printer}, P printer → Native assigned printer
  unseen : ∀ {printer}, P printer → P printer.unseen
  observed : ∀ {printer observation}, P printer → Credible assigned observation →
    Checked observation → observation.connection.kind = printer.kind →
    P (printer.observed observation)
  discovered : ∀ {id observation}, Credible assigned observation → Checked observation →
    assigned id observation.connection.kind → P (newPrinter id observation)
  configured : ∀ {printer changes}, P printer →
    changes.submissionMode = none ∨ printer.kind = .systemQueue →
    (printer.configured changes).reference.validate = .ok () → P (printer.configured changes)
  manual : ∀ {id input}, assigned id .network →
    (manualPrinter id input).reference.validate = .ok () → P (manualPrinter id input)
  virtual : ∀ {id input}, assigned id .virtual →
    (virtualPrinter id input).reference.validate = .ok () → P (virtualPrinter id input)
  simulated : ∀ {printer mode delayMs}, P printer → printer.kind = .virtual →
    P (printer.simulated mode delayMs)

/-- A property of rows that one pass of discovery keeps, for observations of which `O` holds. -/
structure PassRule (assigned : PrinterId → ConnectionKind → Prop) (lowercase : String → String)
    (suppressed : List String) (O : DiscoveredPrinter → Prop) (P : CatalogPrinter → Prop) :
    Prop where
  native : ∀ {printer}, P printer → Native assigned printer
  credible : ∀ {observation}, O observation → Credible assigned observation
  unseen : ∀ {printer}, P printer → P printer.unseen
  observed : ∀ {printer observation}, P printer → O observation →
    (observedId lowercase observation).value ∉ suppressed →
    observation.connection.kind = printer.kind → P (printer.observed observation)
  discovered : ∀ {observation}, O observation →
    (observedId lowercase observation).value ∉ suppressed →
    P (newPrinter (observedId lowercase observation) observation)

section Rules

variable {assigned : PrinterId → ConnectionKind → Prop} {P : CatalogPrinter → Prop}
  {O : DiscoveredPrinter → Prop} {suppressed : List String} {lowercase : String → String} {printers : List CatalogPrinter} {printer : CatalogPrinter}
  {observation : DiscoveredPrinter}

@[simp] lemma reference_unseen : printer.unseen.reference = printer.reference := by
  rw [CatalogPrinter.unseen]
  split <;> rfl

@[simp] lemma id_unseen : printer.unseen.id = printer.id :=
  congrArg PrinterRef.id reference_unseen

@[simp] lemma kind_unseen : printer.unseen.kind = printer.kind :=
  congrArg (fun reference => reference.connection.kind) reference_unseen

@[simp] lemma fingerprint_unseen : printer.unseen.fingerprint = printer.fingerprint := by
  rw [CatalogPrinter.unseen]
  split <;> rfl

@[simp] lemma providers_unseen : printer.unseen.providers = printer.providers := by
  rw [CatalogPrinter.unseen]
  split <;> rfl

@[simp] lemma capabilities_unseen : printer.unseen.capabilities = printer.capabilities := by
  rw [CatalogPrinter.unseen]
  split <;> rfl

lemma Native.observed (hnative : Native assigned printer) (hcredible : Credible assigned observation)
    (hchecked : Checked observation) (hkind : observation.connection.kind = printer.kind) :
    Native assigned (printer.observed observation) where
  assigned := by
    have hassigned := hnative.assigned
    rw [← hkind] at hassigned
    exact hassigned
  fits := hcredible.fits.mergeMissing (hkind ▸ hnative.fits)
  reported := by
    intro metadata hmetadata reported hreported
    have hfound := hcredible.reported metadata hmetadata
    rw [hreported, Option.some.injEq] at hfound
    exact hfound
  valid := by
    have hvalid := validate_eq_ok.mp hnative.valid
    refine validate_eq_ok.mpr ⟨hvalid.1, hchecked.connection, ?_⟩
    show ({ printer.reference with
      connection := observation.connection } : PrinterRef).validateProfile = _
    rw [validateProfile_eq hkind]
    exact hvalid.2.2

/-- The reference of a printer that was discovered is valid. -/
lemma validate_newPrinter {id : PrinterId} (hchecked : Checked observation) :
    (newPrinter id observation).reference.validate = .ok () := by
  refine validate_eq_ok.mpr ⟨validateText_field hchecked.name, hchecked.connection, ?_⟩
  cases hconnection : observation.connection <;>
    simp only [newPrinter, PrinterRef.validateProfile, hconnection, PrinterConnection.kind,
      reduceCtorEq, if_false, if_true]
  rfl

/-- **Rows stay native**, whatever changes them. -/
theorem native_rule : RowRule assigned (Native assigned) where
  native hnative := hnative
  unseen hnative :=
    { assigned := by simpa using hnative.assigned
      fits := by simpa using hnative.fits
      reported := by simpa using hnative.reported
      valid := by simpa using hnative.valid }
  observed := Native.observed
  discovered hcredible hchecked hassigned :=
    { assigned := hassigned
      fits := hcredible.fits
      reported := by
        intro metadata hmetadata reported hreported
        have hfound := hcredible.reported metadata hmetadata
        rw [hreported, Option.some.injEq] at hfound
        exact hfound
      valid := validate_newPrinter hchecked }
  configured hnative _ hvalid :=
    { assigned := hnative.assigned
      fits := hnative.fits
      reported := hnative.reported
      valid := hvalid }
  manual hassigned hvalid :=
    { assigned := hassigned
      fits := ⟨fun _ => ⟨rfl, rfl⟩, fun hkind => absurd rfl hkind⟩
      reported := by
        intro metadata hmetadata
        rw [List.mem_singleton.mp hmetadata]
        rintro reported ⟨⟩
        rfl
      valid := hvalid }
  virtual hassigned hvalid :=
    { assigned := hassigned
      fits := ⟨fun _ => ⟨rfl, rfl⟩, fun _ => rfl⟩
      reported := by
        intro metadata hmetadata
        rw [List.mem_singleton.mp hmetadata]
        rintro reported ⟨⟩
        rfl
      valid := hvalid }
  simulated hnative _ :=
    { assigned := hnative.assigned
      fits := hnative.fits
      reported := hnative.reported
      valid := hnative.valid }

/-! ## Discovery keeps them -/

lemma assigned_observedId (hassignment : Assignment assigned)
    (hcredible : Credible assigned observation) :
    assigned (observedId lowercase observation) observation.connection.kind := by
  rw [observedId]
  cases hid : observation.id with
  | none =>
      rw [hcredible.queue hid]
      exact hassignment.discovered _
  | some id => exact hcredible.configured id hid

/-- Evidence that a row and an observation share is of one kind of connection. -/
lemma kind_eq_of_sharesEvidence (hnative : Native assigned printer)
    (hcredible : Credible assigned observation)
    (hshares : sharesEvidence lowercase observation printer = true) :
    observation.connection.kind = printer.kind := by
  rw [sharesEvidence, Bool.or_eq_true, List.any_eq_true, List.any_eq_true] at hshares
  rcases hshares with ⟨key, hkey, hobserved⟩ | ⟨stored, hstored, hobserved⟩
  · have hkind := hcredible.fits.keyKind_eq hcredible.plain (of_decide_eq_true hobserved)
    exact hnative.fits.kind_eq hkey hkind
  · rw [List.any_eq_true] at hobserved
    rcases hobserved with ⟨observed, hmem, hsame⟩
    simp only [sameRecord, Bool.and_eq_true, decide_eq_true_eq] at hsame
    have hkind := hcredible.reported observed hmem
    rw [← hsame.1.1] at hkind
    exact hnative.reported stored hstored _ hkind

/-- The row an observation is about is of the same kind of connection. -/
lemma exists_of_matchingPrinterIndex (hassignment : Assignment assigned)
    (hnative : ∀ printer ∈ printers, Native assigned printer)
    (hcredible : Credible assigned observation) {index : ℕ}
    (hindex : matchingPrinterIndex lowercase printers (observedId lowercase observation)
      observation = some index) :
    ∃ printer, printers[index]? = some printer ∧ printer ∈ printers ∧
      observation.connection.kind = printer.kind := by
  rw [matchingPrinterIndex] at hindex
  split at hindex
  · rename_i found hfound
    cases hindex
    rcases Roster.getElem?_of_findIdx? hfound with ⟨printer, hprinter, hmem, hid⟩
    refine ⟨printer, hprinter, hmem, ?_⟩
    have hassigned := (hnative printer hmem).assigned
    rw [of_decide_eq_true hid] at hassigned
    exact hassignment.functional (assigned_observedId hassignment hcredible) hassigned
  · rcases Roster.getElem?_of_findIdx? hindex with ⟨printer, hprinter, hmem, hshares⟩
    exact ⟨printer, hprinter, hmem,
      kind_eq_of_sharesEvidence (hnative printer hmem) hcredible hshares⟩

variable (hassignment : Assignment assigned)

include hassignment

lemma PassRule.reconcileObservation (hrule : PassRule assigned lowercase suppressed O P)
    (hprinters : ∀ printer ∈ printers, P printer) (hobservation : O observation) :
    ∀ printer ∈ reconcileObservation lowercase suppressed printers observation, P printer := by
  intro printer hprinter
  rw [Desktop.reconcileObservation] at hprinter
  split_ifs at hprinter with hsuppressed
  · exact hprinters printer hprinter
  · split at hprinter
    · rename_i index hindex
      rcases exists_of_matchingPrinterIndex hassignment
        (fun found hfound => hrule.native (hprinters found hfound))
        (hrule.credible hobservation) hindex with ⟨existing, hexisting, hmem, hkind⟩
      rcases Roster.mem_modify hprinter with hold | ⟨entry, hentry, rfl⟩
      · exact hprinters printer hold
      · rw [hexisting, Option.some.injEq] at hentry
        rw [← hentry]
        exact hrule.observed (hprinters existing hmem) hobservation hsuppressed hkind
    · rcases List.mem_append.mp hprinter with hold | hnew
      · exact hprinters printer hold
      · rw [List.mem_singleton.mp hnew]
        exact hrule.discovered hobservation hsuppressed

/-- **What one pass keeps of a row, it keeps of all rows.** -/
theorem PassRule.reconcile {state : PersistedCatalog} {discovered : List DiscoveredPrinter}
    (hrule : PassRule assigned lowercase state.suppressedSystemIds O P)
    (hstate : ∀ printer ∈ state.printers, P printer)
    (hdiscovered : ∀ observation ∈ discovered, O observation) :
    ∀ printer ∈ (reconcile lowercase state discovered).printers, P printer := by
  have hfold : ∀ printers : List CatalogPrinter, (∀ printer ∈ printers, P printer) →
      ∀ printer ∈ discovered.foldl
        (Desktop.reconcileObservation lowercase state.suppressedSystemIds) printers, P printer := by
    induction discovered with
    | nil => exact fun _ hprinters => hprinters
    | cons observation discovered ih =>
        intro printers hprinters
        exact ih (fun found hfound => hdiscovered found (List.mem_cons_of_mem _ hfound)) _
          (hrule.reconcileObservation hassignment hprinters
            (hdiscovered observation List.mem_cons_self))
  refine hfold _ ?_
  intro printer hprinter
  rcases List.mem_map.mp hprinter with ⟨existing, hexisting, rfl⟩
  exact hrule.unseen (hstate existing hexisting)

/-- A pass keeps what every change of a row keeps. -/
lemma RowRule.pass (hrule : RowRule assigned P) : PassRule assigned lowercase suppressed
    (fun observation => Credible assigned observation ∧ Checked observation) P where
  native := hrule.native
  credible hobservation := hobservation.1
  unseen := hrule.unseen
  observed hprinter hobservation _ hkind :=
    hrule.observed hprinter hobservation.1 hobservation.2 hkind
  discovered hobservation _ :=
    hrule.discovered hobservation.1 hobservation.2 (assigned_observedId hassignment hobservation.1)

end Rules

/-! ## Every run keeps them -/

/-- What holds of the rows in memory and of the stored ones, and what is discovered is credible. -/
structure Sound (assigned : PrinterId → ConnectionKind → Prop) (P : CatalogPrinter → Prop)
    (catalog : PrinterCatalog) : Prop where
  state : ∀ printer ∈ catalog.state.printers, P printer
  stored : ∃ stored, storedCatalog catalog.setting = .ok (stored, false) ∧
    ∀ printer ∈ stored.printers, P printer
  writes : ∀ effects, catalog.mutation = some effects → ∀ next, .write next ∈ effects →
    storedCatalog catalog.setting = .ok (next, false)
  scans : ∀ discovered ∈ catalog.scans, ∀ observation ∈ discovered,
    Credible assigned observation ∧ Checked observation

section Runs

variable {features : ProductFeatures} {lowercase : String → String}
  {assigned : PrinterId → ConnectionKind → Prop} {P : CatalogPrinter → Prop}
  {catalog next : PrinterCatalog} {events : List CatalogEvent}

/-- What `load` makes of a setting. -/
lemma load_eq_ok {setting : Option Serde.Content} {fault : Fault}
    (hload : load features setting fault = .ok next) :
    ∃ migrated, storedCatalog setting = .ok (next.state, migrated) ∧
      storedCatalog next.setting = .ok (next.state, false) ∧
      checkRows [] next.state.printers = .ok () ∧
      next.resolver = directory features next.state ∧
      next.virtualSpooler = startedDevices features next.state ∧ next.revision = 1 ∧
      next.scans = [] ∧ next.mutation = none := by
  simp only [load, Result.bind_eq_ok, Result.pure_eq_ok] at hload
  rcases hload with ⟨⟨state, migrated⟩, hstored, newSetting, hsetting, _, hrows, rfl⟩
  refine ⟨migrated, hstored, ?_, hrows, rfl, rfl, rfl, rfl, rfl⟩
  cases migrated with
  | false =>
      cases hsetting
      exact hstored
  | true =>
      rw [upgrade, if_pos rfl, Result.map_eq_ok] at hsetting
      rcases hsetting with ⟨_, hpersist, rfl⟩
      simp only [persistState] at hpersist ⊢
      split_ifs at hpersist ⊢
      cases fault with
      | absent => exact storedCatalog_toValue state
      | before => cases hpersist
      | after => cases hpersist

lemma credible_of_mem_observations {surroundings : Surroundings} {snapshot : PersistedCatalog}
    (hsnapshot : ∀ printer ∈ snapshot.printers, assigned printer.id printer.kind) :
    ∀ observation ∈ observations features surroundings snapshot, Credible assigned observation := by
  intro observation hobservation
  simp only [observations, List.mem_append] at hobservation
  rcases hobservation with (hqueue | hnetwork) | hvirtual
  · split_ifs at hqueue
    · rcases List.mem_map.mp hqueue with ⟨report, _, rfl⟩
      exact report.credible
    · cases hqueue
  · split_ifs at hnetwork
    · cases hmanual : discoverManual surroundings.connected (manualPrinters snapshot) with
      | error e =>
          rw [hmanual] at hnetwork
          cases hnetwork
      | ok found =>
          rw [hmanual] at hnetwork
          rw [discoverManual, Result.mapM_eq_ok] at hmanual
          rcases Result.exists_of_forall₂ hmanual hnetwork with ⟨manual, hmem, hresult⟩
          rw [Result.bind_eq_ok] at hresult
          rcases hresult with ⟨_, _, hpure⟩
          cases hpure
          rcases List.mem_filterMap.mp hmem with ⟨printer, hprinter, heq⟩
          have hassigned := hsnapshot printer hprinter
          rw [CatalogPrinter.kind] at hassigned
          split at heq
          · rename_i host port hconnection
            cases heq
            rw [hconnection] at hassigned
            exact ManualNetworkPrinter.credible hassigned
          · cases heq
    · cases hnetwork
  · split_ifs at hvirtual
    · rcases List.mem_map.mp hvirtual with ⟨definition, hdefinition, rfl⟩
      rcases List.mem_map.mp hdefinition with ⟨printer, hprinter, rfl⟩
      have hassigned := hsnapshot printer (List.mem_of_mem_filter hprinter)
      have hkind := of_decide_eq_true (List.mem_filter.mp hprinter).2
      rw [hkind] at hassigned
      exact VirtualPrinterDefinition.credible hassigned
    · cases hvirtual

/-- What a step of a call leaves alone, and which rows it writes. -/
lemma perform_frame {effect : Effect} (hperform : catalog.perform features effect = .ok next) :
    next.setting = catalog.setting ∧ next.scans = catalog.scans ∧
      (effect = .write next.state ∨
        (next.state = catalog.state ∧ ∀ state, effect ≠ .write state)) := by
  cases effect with
  | write state =>
      cases hperform
      exact ⟨rfl, rfl, .inl rfl⟩
  | upsert reference =>
      rw [perform] at hperform
      split at hperform
      · cases hperform
        exact ⟨rfl, rfl, .inr ⟨rfl, nofun⟩⟩
      · cases hperform
  | summarize printer =>
      rw [perform, Result.map_eq_ok] at hperform
      rcases hperform with ⟨_, _, rfl⟩
      exact ⟨rfl, rfl, .inr ⟨rfl, nofun⟩⟩
  | list =>
      rw [perform, Result.map_eq_ok] at hperform
      rcases hperform with ⟨_, _, rfl⟩
      exact ⟨rfl, rfl, .inr ⟨rfl, nofun⟩⟩
  | register id mode delayMs =>
      cases hperform
      exact ⟨rfl, rfl, .inr ⟨rfl, nofun⟩⟩
  | unregister id =>
      cases hperform
      exact ⟨rfl, rfl, .inr ⟨rfl, nofun⟩⟩
  | withdraw id =>
      cases hperform
      exact ⟨rfl, rfl, .inr ⟨rfl, nofun⟩⟩
  | bumpRevision =>
      cases hperform
      exact ⟨rfl, rfl, .inr ⟨rfl, nofun⟩⟩

/-- A call writes the rows it has stored. -/
lemma Planned.write_eq {call : Call} {plan : Plan}
    (hplanned : Planned features lowercase catalog call plan) {state : PersistedCatalog}
    (hwrite : .write state ∈ plan.effects) : state = plan.next := by
  cases hplanned with
  | refresh hscan =>
      simp only [Desktop.refresh, List.mem_cons, List.mem_append, List.mem_map, Effect.write.injEq,
        reduceCtorEq, List.not_mem_nil, or_false] at hwrite
      rcases hwrite with rfl | ⟨printer, _, hsync⟩
      · rfl
      · rw [syncEffect] at hsync
        split_ifs at hsync
  | remove hrow hid =>
      rw [List.mem_append, List.mem_append] at hwrite
      rcases hwrite with (hwrite | hwrite) | hwrite
      · simpa using hwrite
      · split_ifs at hwrite <;> simp at hwrite
      · simp at hwrite
  | _ => simpa using hwrite

/-- What the catalog starts with. -/
lemma sound_of_load {setting : Option Serde.Content} {fault : Fault} {initial : PrinterCatalog}
    (hload : load features setting fault = .ok initial)
    (hrows : ∀ printer ∈ initial.state.printers, P printer) : Sound assigned P initial := by
  rcases load_eq_ok hload with ⟨_, _, hsetting, _, _, _, _, hscans, hmutation⟩
  refine ⟨hrows, ⟨_, hsetting, hrows⟩, ?_, ?_⟩
  · intro effects heffects
    rw [hmutation] at heffects
    cases heffects
  · rw [hscans]
    exact nofun

variable (hassignment : Assignment assigned) (hrule : RowRule assigned P)

include hassignment hrule

/-- The rows a call wants stored have the property when those in memory do. -/
lemma RowRule.planned {call : Call} {plan : Plan} (hsound : Sound assigned P catalog)
    (hplanned : Planned features lowercase catalog call plan) :
    ∀ printer ∈ plan.next.printers, P printer := by
  have hrow : ∀ {index : ℕ} {printer : CatalogPrinter},
      catalog.state.printers[index]? = some printer → P printer := by
    intro index printer hrow
    exact hsound.state printer (List.mem_of_getElem? hrow)
  have hset : ∀ {index : ℕ} {updated : CatalogPrinter},
      P updated → ∀ found ∈ (catalog.state.set index updated).printers, P found := by
    intro index updated hupdated found hfound
    rcases Roster.mem_modify hfound with hold | ⟨_, _, rfl⟩
    · exact hsound.state found hold
    · exact hupdated
  have hpush : ∀ {printer : CatalogPrinter}, P printer →
      ∀ found ∈ (catalog.state.push printer).printers, P found := by
    intro printer hprinter found hfound
    rcases List.mem_append.mp hfound with hold | hnew
    · exact hsound.state found hold
    · rw [List.mem_singleton.mp hnew]
      exact hprinter
  cases hplanned with
  | refresh hscan =>
      exact (hrule.pass hassignment).reconcile hassignment hsound.state
        (hsound.scans _ (List.mem_of_getElem? hscan))
  | configure hfound _ _ hmode hvalid =>
      exact hset (hrule.configured (hrow hfound) hmode hvalid)
  | addManual _ hdrawn hvalid => exact hpush (hrule.manual (hassignment.manual hdrawn) hvalid)
  | createVirtual _ hdrawn hvalid =>
      exact hpush (hrule.virtual (hassignment.virtual hdrawn) hvalid)
  | updateVirtual _ hfound _ hvirtual =>
      exact hset (hrule.simulated (hrow hfound) hvirtual)
  | remove _ _ => exact fun printer hprinter => hsound.state printer (List.mem_of_mem_eraseIdx hprinter)

/-- A step keeps what holds of the rows. -/
lemma RowRule.step (hsound : Sound assigned P catalog) {action : CatalogAction}
    (hacts : Acts features lowercase catalog action next events) : Sound assigned P next := by
  cases hacts with
  | scanned surroundings =>
      refine ⟨hsound.state, hsound.stored, hsound.writes, ?_⟩
      intro discovered hdiscovered
      rcases List.mem_append.mp hdiscovered with hold | hnew
      · exact hsound.scans discovered hold
      · rw [List.mem_singleton.mp hnew]
        exact credible_of_mem_discover (credible_of_mem_observations fun printer hprinter =>
          (hrule.native (hsound.state printer hprinter)).assigned)
  | @started call _ _ _ hmutation hstarts =>
      rcases @taken_eq catalog call with ⟨scans, htaken, hscans⟩
      have hfewer : ∀ discovered ∈ scans, ∀ observation ∈ discovered,
          Credible assigned observation ∧ Checked observation :=
        fun discovered hdiscovered => hsound.scans discovered (hscans hdiscovered)
      cases hstarts with
      | refused =>
          rw [htaken]
          exact ⟨hsound.state, hsound.stored, hsound.writes, hfewer⟩
      | stranded hplan _ _ =>
          have hplanned := hrule.planned hassignment hsound hplan
          rw [htaken]
          refine ⟨hsound.state, ⟨_, storedCatalog_toValue _, hplanned⟩, ?_, hfewer⟩
          intro effects heffects
          rw [hmutation] at heffects
          cases heffects
      | stored hplan _ _ =>
          have hplanned := hrule.planned hassignment hsound hplan
          rw [htaken]
          refine ⟨hsound.state, ⟨_, storedCatalog_toValue _, hplanned⟩, ?_, hfewer⟩
          rintro effects ⟨⟩ state hwrite
          rw [hplan.write_eq hwrite]
          exact storedCatalog_toValue _
  | returned _ => exact ⟨hsound.state, hsound.stored, nofun, hsound.scans⟩
  | @performed effect effects result hmutation hperform =>
      rcases perform_frame hperform with ⟨hsetting, hscans, hstate⟩
      rcases hsound.stored with ⟨stored, hstored, hrows⟩
      refine ⟨?_, ⟨stored, hsetting ▸ hstored, hrows⟩, ?_, hscans ▸ hsound.scans⟩
      · rcases hstate with hwrite | ⟨hsame, _⟩
        · have hnext := hsound.writes _ hmutation result.state (hwrite ▸ List.mem_cons_self)
          rw [hstored] at hnext
          cases hnext
          exact hrows
        · rw [hsame]
          exact hsound.state
      · rintro rest ⟨⟩ state hmem
        rw [hsetting]
        exact hsound.writes _ hmutation state (List.mem_cons_of_mem _ hmem)
  | failed _ _ => exact ⟨hsound.state, hsound.stored, nofun, hsound.scans⟩
  | restarted hload =>
      rcases load_eq_ok hload with ⟨migrated, hread, hsetting, _, _, _, _, hscans, hmutation⟩
      rcases hsound.stored with ⟨stored, hstored, hrows⟩
      rw [hstored] at hread
      cases hread
      refine ⟨hrows, ⟨_, hsetting, hrows⟩, ?_, ?_⟩
      · intro effects heffects
        rw [hmutation] at heffects
        cases heffects
      · rw [hscans]
        exact nofun

/-- **A property of rows that every change keeps holds in every run**, when it holds of the rows the
catalog was loaded with. -/
theorem RowRule.rows {ok : History.StepCondition PrinterCatalog CatalogAction CatalogEvent}
    {setting : Option Serde.Content} {fault : Fault} {initial : PrinterCatalog}
    (hload : load features setting fault = .ok initial)
    (hrows : ∀ printer ∈ initial.state.printers, P printer) {history : List CatalogEvent}
    (hrun : (mutations features lowercase).Runs ok initial history catalog) :
    Sound assigned P catalog := by
  induction hrun with
  | start => exact sound_of_load hload hrows
  | step _ _ hstep ih => exact hrule.step hassignment ih (acts hstep)

end Runs

end Oppa.Desktop
