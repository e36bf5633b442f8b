import Oppa.Desktop.Advertise

/-!
# Catalogs that can be saved

The rows of the catalog are one setting, and the store takes 64 KiB at most.  An operation stores
its rows before it touches anything in memory.

* `persistState_isOk_iff` — which catalogs the store takes.
* `PrinterCatalog.SameMemory` — what an operation that could not store its rows leaves alone.
* **`savings`** — a catalog that fits is stored unless the storage fails, and a call whose rows are
  not stored ends with the memory as it was.
* `full_catalog_refused` — the store refuses a catalog of 219 network printers.
-/

namespace Oppa.Desktop

open PrinterCatalog Printer

variable {features : ProductFeatures} {lowercase : String → String} {catalog next : PrinterCatalog}
  {events : List CatalogEvent} {call : Call} {fault : Fault}

/-! ## What the store takes -/

/-- **The store takes a catalog exactly if it fits**, as long as the storage works. -/
lemma persistState_isOk_iff {state : PersistedCatalog} {setting : Option Serde.Content} :
    (persistState state fault setting).1 = .ok () ↔
      state.size ≤ maxSettingBytes ∧ fault = .absent := by
  simp only [persistState]
  split_ifs with hsize
  · rw [false_iff]
    intro h
    omega
  · cases fault <;> simp [not_lt.mp hsize]

/-- What the store took is what it holds. -/
lemma persistState_stored {state : PersistedCatalog} {setting : Option Serde.Content}
    (hstored : (persistState state fault setting).1 = .ok ()) :
    (persistState state fault setting).2 = some (Serde.content state.toValue) := by
  rcases persistState_isOk_iff.mp hstored with ⟨hsize, rfl⟩
  simp only [persistState, if_neg (not_lt.mpr hsize)]

/-! ## Calls whose rows are not stored -/

/-- The rows, the references, the devices and the revision in memory are the same. -/
structure PrinterCatalog.SameMemory (catalog next : PrinterCatalog) : Prop where
  state : next.state = catalog.state
  resolver : next.resolver = catalog.resolver
  virtualSpooler : next.virtualSpooler = catalog.virtualSpooler
  revision : next.revision = catalog.revision

/-- A call that gets the lock has not touched anything in memory. -/
lemma sameMemory_taken (setting : Option Serde.Content) :
    SameMemory catalog { catalog.taken call with setting := setting } := by
  rcases @taken_eq catalog call with ⟨scans, htaken, _⟩
  rw [htaken]
  exact ⟨rfl, rfl, rfl, rfl⟩

/-- A call that gets the lock with rows to store. -/
lemma start_of_plan {plan : Plan} (hmutation : catalog.mutation = none)
    (hplan : catalog.plan features lowercase call = some (.ok plan)) :
    catalog.start features lowercase call fault =
      match (persistState plan.next fault catalog.setting).1 with
      | .error _ => some ({ catalog.taken call with
          setting := (persistState plan.next fault catalog.setting).2 }, [])
      | .ok () => some ({ catalog.taken call with
          setting := (persistState plan.next fault catalog.setting).2
          mutation := some plan.effects }, catalog.told call plan.next) := by
  cases hstored : (persistState plan.next fault catalog.setting).1 with
  | error e => simp only [start, hmutation, hplan, hstored]
  | ok u => simp only [start, hmutation, hplan, hstored]

/-- What becomes of the rows that calls want stored. -/
structure Savings (features : ProductFeatures) (lowercase : String → String)
    (catalog : PrinterCatalog) : Prop where
  /-- A catalog is accepted, whatever is stored, exactly if it fits and the storage works. -/
  accepted : ∀ state fault setting, (persistState state fault setting).1 = .ok () ↔
    state.size ≤ maxSettingBytes ∧ fault = .absent
  /-- A call whose rows fit goes on to its effects, the first of which is to take them over. -/
  fits : catalog.mutation = none → ∀ call plan,
    catalog.plan features lowercase call = some (.ok plan) → plan.next.size ≤ maxSettingBytes →
      ∃ next, catalog.start features lowercase call .absent =
          some (next, catalog.told call plan.next) ∧
        next.setting = some (Serde.content plan.next.toValue) ∧
        next.mutation = some plan.effects ∧ plan.effects.head? = some (.write plan.next)
  /-- A call whose rows are not stored is over, and so it is with the memory as it was. -/
  fails : catalog.mutation = none → ∀ call plan fault next events,
    catalog.plan features lowercase call = some (.ok plan) →
      (persistState plan.next fault catalog.setting).1 ≠ .ok () →
        catalog.start features lowercase call fault = some (next, events) →
          next.mutation = none ∧ events = [] ∧ SameMemory catalog next

lemma head?_effects {plan : Plan}
    (hplanned : Planned features lowercase catalog call plan) :
    plan.effects.head? = some (.write plan.next) := by
  cases hplanned with
  | refresh hscan => rfl
  | _ => rfl

/-- **A catalog that fits can be saved, and a call that cannot save its rows changes nothing in
memory**, whatever was discovered, asked for or stored before. -/
theorem savings (features : ProductFeatures) (lowercase : String → String)
    (catalog : PrinterCatalog) : Savings features lowercase catalog where
  accepted state fault setting := persistState_isOk_iff
  fits := by
    intro hmutation call plan hplan hsize
    have hstored : (persistState plan.next .absent catalog.setting).1 = .ok () :=
      persistState_isOk_iff.mpr ⟨hsize, rfl⟩
    have hstart := @start_of_plan features lowercase catalog call .absent plan hmutation hplan
    simp only [hstored] at hstart
    exact ⟨_, hstart, persistState_stored hstored, rfl, head?_effects (planned hplan)⟩
  fails := by
    intro hmutation call plan fault next events hplan hfailed hstart
    rw [start_of_plan hmutation hplan] at hstart
    rcases hresult : (persistState plan.next fault catalog.setting).1 with e | u
    · simp only [hresult, Option.some.injEq, Prod.mk.injEq] at hstart
      rcases hstart with ⟨rfl, rfl⟩
      refine ⟨?_, rfl, sameMemory_taken _⟩
      rcases @taken_eq catalog call with ⟨scans, htaken, _⟩
      rw [htaken]
      exact hmutation
    · exact absurd hresult hfailed

/-! ## A catalog that does not fit -/

/-- What a user enters for a network printer. -/
def networkInput : ManualPrinterInput := ⟨"Office", "10.0.0.1", 9100⟩

lemma visible_hyphenated {uuid : Uuid} {c : Char} (hc : c ∈ uuid.hyphenated.toList) :
    0x21 ≤ c.toNat ∧ c.toNat ≤ 0x7e := by
  have hvisible := Protocol.isIdentifierCharacter_lt (isIdentifierCharacter_hyphenated hc)
  omega

/-- The id that is drawn for a network printer. -/
def networkId (uuid : Uuid) : PrinterId :=
  ⟨"printer_network_" ++ uuid.hyphenated,
    validateIdentifier_family (length_hyphenated uuid) (List.forall_iff_forall_mem.mp (by decide))
      (fun _ hc => visible_hyphenated hc) (by decide) (by decide)⟩

lemma drawnId_network (uuid : Uuid) : drawnId "printer_network_" uuid = .ok (networkId uuid) := by
  have hnew : TypedIdentifier.new .printer ("printer_network_" ++ uuid.hyphenated) =
      .ok (networkId uuid) := TypedIdentifier.new_of_valid (networkId uuid).valid
  rw [drawnId, hnew]
  rfl

/-- The printer is added, whatever is drawn for its id. -/
lemma addManual_networkInput (state : PersistedCatalog) (uuid : Uuid) :
    ∃ effects, addManual everyFeature state networkInput uuid =
      .ok ⟨state.push (manualPrinter (networkId uuid) networkInput), effects⟩ := by
  have hvalid : (manualPrinter (networkId uuid) networkInput).reference.validate = .ok () := by
    have hname : validateText "printer display name" "Office" maxPrinterNameBytes = .ok () := by
      decide
    have hconnection : (PrinterConnection.network "10.0.0.1" 9100).validate = .ok () := by decide
    rw [PrinterRef.validate, manualPrinter, networkInput, hname, hconnection]
    rfl
  simp only [addManual, Result.bind_eq_ok, Result.mapError_eq_ok, ensure_eq_ok, Result.pure_eq_ok]
  exact ⟨_, (), rfl, networkId uuid, drawnId_network uuid, (), hvalid, rfl⟩

/-- Ids that are drawn from different last bytes are different. -/
lemma lastByte_of_networkId {first second : Uuid} (hid : networkId first = networkId second) :
    first.toNat % 256 = second.toNat % 256 := by
  have hlast (uuid : Uuid) : (networkId uuid).value.toList.drop 50 =
      [Json.Value.hexDigit (uuid.toNat / 16 ^ 1 % 16),
        Json.Value.hexDigit (uuid.toNat / 16 ^ 0 % 16)] := by
    simp only [networkId, String.toList_append, Uuid.hyphenated, String.toList_ofList]
    rfl
  have hdigit : ∀ i j : Fin 16, Json.Value.hexDigit i = Json.Value.hexDigit j → i = j := by decide
  have heq := (hlast first).symm.trans ((congrArg (fun id => id.value.toList.drop 50) hid).trans
    (hlast second))
  simp only [List.cons.injEq, and_true] at heq
  have hhigh := hdigit ⟨_, Nat.mod_lt _ (by decide)⟩ ⟨_, Nat.mod_lt _ (by decide)⟩ heq.1
  have hlow := hdigit ⟨_, Nat.mod_lt _ (by decide)⟩ ⟨_, Nat.mod_lt _ (by decide)⟩ heq.2
  simp only [Fin.mk.injEq] at hhigh hlow
  omega

/-- The row that is added for the `n`-th network printer. -/
def networkRow (n : ℕ) : CatalogPrinter :=
  manualPrinter (networkId (BitVec.ofNat 128 n)) networkInput

/-- A catalog with so many network printers. -/
def networkCatalog (count : ℕ) : PersistedCatalog :=
  { printers := (List.range count).map networkRow, suppressedSystemIds := [] }

/-- **The store refuses a catalog of 219 network printers**, each of which a user can add. -/
theorem full_catalog_refused :
    (networkCatalog 219).printers.length = 219 ∧ 219 ≤ Protocol.maxPrintersPerInventory ∧
      (networkCatalog 219).ids.Nodup ∧
      (∀ printer ∈ (networkCatalog 219).printers, ∃ uuid plan,
        addManual everyFeature .default networkInput uuid = .ok plan ∧
          plan.next.printers = [printer]) ∧
      ∀ fault setting, (persistState (networkCatalog 219) fault setting).1 ≠ .ok () := by
  have hlength : (networkCatalog 219).printers.length = 219 := by
    rw [networkCatalog, List.length_map, List.length_range]
  refine ⟨hlength, by decide, ?_, ?_, ?_⟩
  · rw [PersistedCatalog.ids, networkCatalog, List.map_map]
    refine List.Nodup.map_on ?_ List.nodup_range
    intro n hn m hm hid
    have hbyte := lastByte_of_networkId hid
    rw [List.mem_range] at hn hm
    simp only [BitVec.toNat_ofNat] at hbyte
    omega
  · intro printer hprinter
    rcases List.mem_map.mp hprinter with ⟨n, _, rfl⟩
    rcases addManual_networkInput .default (BitVec.ofNat 128 n) with ⟨effects, hadded⟩
    exact ⟨_, _, hadded, rfl⟩
  · intro fault setting hstored
    have hfew := length_le_of_size (persistState_isOk_iff.mp hstored).1
    omega

end Oppa.Desktop
