import Oppa.Foundation.History
import Oppa.Desktop.CatalogJson

/-!
# The printer catalog at work

The catalog with everything its operations touch: the stored setting, the rows in memory, the
printers the agent resolves, the devices of the virtual spooler, and the revision.

* `PrinterCatalog.perform` — the steps an operation takes after its rows are stored.
* `PrinterCatalog.act` — the calls, each of which takes the lock and stores its rows or fails, the
  discovery of a refresh, which runs without the lock, and the start of the application.
* `mutations` — the catalog under any order of these, with what is removed and what is added by a
  refresh as its effects.
* `planned`, `acts` — everything a call can want stored, and everything a step can do.

A step between two await points of an operation is atomic: nobody reads the rows between the lock
and the storage, so taking the lock and storing the rows is one step.
-/

namespace Oppa.Desktop

open Printer Discovery

/-! ## The state -/

/-- What a virtual printer simulates, and its delay in milliseconds. -/
abbrev Policy := VirtualPrinterMode × UInt64

/-- The catalog, what its operations touch, and the calls that are under way. -/
structure PrinterCatalog where
  /-- The stored setting. -/
  setting : Option Serde.Content
  state : PersistedCatalog
  resolver : PrinterId → Option PrinterRef
  virtualSpooler : PrinterId → Option Policy
  revision : UInt64
  /-- What the refreshes have discovered that do not have the lock yet. -/
  scans : List (List DiscoveredPrinter)
  /-- What the call that has the lock still has to do. -/
  mutation : Option (List Effect)

/-- What the system answers one discovery pass. -/
structure Surroundings where
  /-- The queues of the system; none if the query fails or takes too long. -/
  queues : Option (List QueueReport)
  /-- Whether a probe of a network printer connects. -/
  connected : ManualNetworkPrinter → Bool
  /-- Whether the provider of network printers answers in time. -/
  networkAnswers : Bool
  /-- Whether the provider of virtual printers answers in time. -/
  virtualAnswers : Bool

/-- The calls that change the catalog. -/
inductive Call
  /-- One of the refreshes that have finished discovery gets the lock. -/
  | refresh (n : ℕ)
  | configure (printerId : String) (changes : ConfigurePrinterChanges)
  | addManual (input : ManualPrinterInput) (uuid : Uuid)
  | createVirtual (input : VirtualPrinterInput) (uuid : Uuid)
  | updateVirtual (printerId : String) (mode : VirtualPrinterMode) (delayMs : UInt64)
  | remove (printerId : String)
  deriving DecidableEq, Repr

/-- What happens next. -/
inductive CatalogAction
  /-- A refresh takes its snapshot and discovers. -/
  | scan (surroundings : Surroundings)
  /-- A call takes the lock, checks its input and stores its rows. -/
  | start (call : Call) (fault : Fault)
  /-- The call that has the lock takes its next step, or returns. -/
  | advance
  /-- The application is started again. -/
  | restart (fault : Fault)

/-- What can be told of a run. -/
inductive CatalogEvent
  /-- `remove` has stored the rows without this one: it can only return `Ok` from here. -/
  | removed (printer : CatalogPrinter)
  /-- A refresh has stored this row, and no row was connected to its printer under its id. -/
  | added (printer : CatalogPrinter)
  deriving DecidableEq

/-! ## Discovery -/

/-- The network printers of a snapshot. -/
def manualPrinters (snapshot : PersistedCatalog) : List ManualNetworkPrinter :=
  snapshot.printers.filterMap fun printer =>
    match printer.reference.connection with
    | .network host port =>
        some { id := printer.id, name := printer.reference.displayName, host := host, port := port }
    | _ => none

/-- The virtual printers of a snapshot. -/
def virtualDefinitions (snapshot : PersistedCatalog) : List VirtualPrinterDefinition :=
  (snapshot.printers.filter CatalogPrinter.isVirtual).map fun printer =>
    { id := printer.id
      name := printer.reference.displayName
      availability := if printer.virtualMode = .offline then .offline else .online }

/-- What the providers of a refresh observe. -/
def observations (features : ProductFeatures) (surroundings : Surroundings)
    (snapshot : PersistedCatalog) : List DiscoveredPrinter :=
  (if features.systemPrinterDiscovery then
    (surroundings.queues.getD []).map QueueReport.observation else []) ++
  (if features.networkPrinterDiscovery ∧ surroundings.networkAnswers then
    (discoverManual surroundings.connected (manualPrinters snapshot)).toOption.getD [] else []) ++
  (if features.virtualPrinter ∧ surroundings.virtualAnswers then
    (virtualDefinitions snapshot).map VirtualPrinterDefinition.observation else [])

/-! ## Steps -/

/-- The most a setting may take. -/
def maxSettingBytes : ℕ := 64 * 1024

/-- The bytes of the stored catalog. -/
def PersistedCatalog.size (catalog : PersistedCatalog) : ℕ := catalog.toValue.toString.utf8ByteSize

/-- `persist_state`: how it ends, and the setting it leaves. -/
def persistState (next : PersistedCatalog) (fault : Fault) (setting : Option Serde.Content) :
    Except CommandError Unit × Option Serde.Content :=
  if maxSettingBytes < next.size then
    (.error (.internal ("invalid storage input: metadata is " ++ toString next.size ++
      " bytes; maximum is " ++ toString maxSettingBytes)), setting)
  else
    match fault with
    | .absent => (.ok (), some (Serde.content next.toValue))
    | .before => (.error (.internal "database worker failed: storage worker stopped"), setting)
    | .after =>
        (.error (.internal "database worker failed: storage worker stopped"),
          some (Serde.content next.toValue))

namespace PrinterCatalog

variable (features : ProductFeatures) (catalog : PrinterCatalog)

/-- The reference the agent should resolve an id to. -/
def directory (state : PersistedCatalog) (id : PrinterId) : Option PrinterRef :=
  ((state.printers.filter (featureAllowsPrinter features)).find? fun printer =>
    printer.id = id).map CatalogPrinter.reference

/-- The devices that are registered at start. -/
def startedDevices (state : PersistedCatalog) (id : PrinterId) : Option Policy :=
  (state.printers.find? fun printer =>
      printer.id = id && printer.isVirtual && featureAllowsPrinter features printer).map
    fun printer => (persistedVirtualMode printer.virtualMode, printer.virtualDelayMs)

/-- The setting after rows that were brought up to date are stored again. -/
def upgrade (state : PersistedCatalog) (migrated : Bool) (fault : Fault)
    (setting : Option Serde.Content) : Except CommandError (Option Serde.Content) :=
  if migrated then
    (persistState state fault setting).1.map fun _ => (persistState state fault setting).2
  else .ok setting

/-- `PrinterCatalog::load`. -/
def load (setting : Option Serde.Content) (fault : Fault) : Except CommandError PrinterCatalog :=
  do
  let (state, migrated) ← storedCatalog setting
  let setting ← upgrade state migrated fault setting
  checkRows [] state.printers
  pure
    { setting := setting
      state := state
      resolver := directory features state
      virtualSpooler := startedDevices features state
      revision := 1
      scans := []
      mutation := none }

/-- `summary`, as far as it can fail. -/
def summarize (printer : CatalogPrinter) : Except CommandError Unit :=
  if printer.isVirtual ∧ (catalog.virtualSpooler printer.id).isNone then
    .error (.internal (SpoolerError.backendUnavailable
      "virtual printer is not registered").display)
  else .ok ()

/-- The rows of `list`. -/
def active : List CatalogPrinter := catalog.state.printers.filter (featureAllowsPrinter features)

/-- `list`, as far as it can fail. -/
def list : Except CommandError Unit := (catalog.active features).forM catalog.summarize

/-- `bump_revision`. -/
def bumped : UInt64 :=
  if catalog.revision.toNat + 1 < 2 ^ 64 then catalog.revision + 1 else catalog.revision

/-- A step of a call that has stored its rows. -/
def perform : Effect → Except CommandError PrinterCatalog
  | .write next => .ok { catalog with state := next }
  | .register id mode delayMs =>
      .ok { catalog with
        virtualSpooler := Function.update catalog.virtualSpooler id (some (mode, delayMs)) }
  | .unregister id =>
      .ok { catalog with virtualSpooler := Function.update catalog.virtualSpooler id none }
  | .upsert reference =>
      match reference.validate with
      | .ok () =>
          .ok { catalog with
            resolver := Function.update catalog.resolver reference.id (some reference) }
      | .error e => .error (.internal (PrinterResolutionError.invalidPrinter e.display).display)
  | .withdraw id => .ok { catalog with resolver := Function.update catalog.resolver id none }
  | .bumpRevision => .ok { catalog with revision := catalog.bumped }
  | .summarize printer => (catalog.summarize printer).map fun _ => catalog
  | .list => (catalog.list features).map fun _ => catalog

/-- The steps of a call, one after another. -/
def performAll : List Effect → PrinterCatalog → Except CommandError PrinterCatalog
  | [], catalog => .ok catalog
  | effect :: effects, catalog => do
      let next ← catalog.perform features effect
      performAll effects next

variable (lowercase : String → String)

/-- What a call that gets the lock wants stored. -/
def plan : Call → Option (Except CommandError Plan)
  | .refresh n =>
      (catalog.scans[n]?).map fun discovered =>
        .ok (refresh features catalog.state lowercase discovered)
  | .configure printerId changes => some (configure features catalog.state printerId changes)
  | .addManual input uuid => some (addManual features catalog.state input uuid)
  | .createVirtual input uuid => some (createVirtual features catalog.state input uuid)
  | .updateVirtual printerId mode delayMs =>
      some (updateVirtual features catalog.state printerId mode delayMs)
  | .remove printerId => some (remove catalog.state printerId)

/-- The catalog without the discovery of a refresh that goes on. -/
def taken : Call → PrinterCatalog
  | .refresh n => { catalog with scans := catalog.scans.eraseIdx n }
  | _ => catalog

/-- What a call that has stored its rows tells. -/
def told (call : Call) (next : PersistedCatalog) : List CatalogEvent :=
  match call with
  | .refresh _ =>
      (next.printers.filter fun printer => ∀ old ∈ catalog.state.printers,
        old.id = printer.id → old.reference.connection ≠ printer.reference.connection).map .added
  | .remove printerId =>
      (catalog.state.printers.filter fun printer => printer.id.value = printerId).map .removed
  | _ => []

/-- A call gets the lock. -/
def start (call : Call) (fault : Fault) : Option (PrinterCatalog × List CatalogEvent) :=
  match catalog.mutation, catalog.plan features lowercase call with
  | some _, _ | _, none => none
  | none, some (.error _) => some (catalog.taken call, [])
  | none, some (.ok plan) =>
      let stored := { catalog.taken call with
        setting := (persistState plan.next fault catalog.setting).2 }
      match (persistState plan.next fault catalog.setting).1 with
      | .error _ => some (stored, [])
      | .ok () =>
          some ({ stored with mutation := some plan.effects }, catalog.told call plan.next)

/-- The call that has the lock goes on. -/
def advance : Option PrinterCatalog :=
  match catalog.mutation with
  | none => none
  | some [] => some { catalog with mutation := none }
  | some (effect :: effects) =>
      match catalog.perform features effect with
      | .ok next => some { next with mutation := some effects }
      | .error _ => some { catalog with mutation := none }

/-- A step of the catalog. -/
def act : CatalogAction → Option (PrinterCatalog × List CatalogEvent)
  | .scan surroundings =>
      some ({ catalog with
        scans := catalog.scans ++
          [discover lowercase (observations features surroundings catalog.state)] }, [])
  | .start call fault => catalog.start features lowercase call fault
  | .advance => (catalog.advance features).map fun next => (next, [])
  | .restart fault => (load features catalog.setting fault).toOption.map fun next => (next, [])

end PrinterCatalog

/-- The catalog of a product build under any order of calls. -/
def mutations (features : ProductFeatures) (lowercase : String → String) :
    History.System PrinterCatalog CatalogAction CatalogEvent where
  step catalog action := catalog.act features lowercase action

/-! ## Steps that can be computed

The text of a setting is slow to compute.  Its length is bounded by a weight that is not. -/

section Weighed

open PrinterCatalog

/-- A step that stores rows only when their weight shows that they fit. -/
def PrinterCatalog.weighed (features : ProductFeatures) (lowercase : String → String)
    (catalog : PrinterCatalog) : CatalogAction → Option (PrinterCatalog × List CatalogEvent)
  | .start call .absent =>
      match catalog.mutation, catalog.plan features lowercase call with
      | none, some (.ok plan) =>
          if plan.next.toValue.weight ≤ maxSettingBytes then
            some ({ catalog.taken call with
                setting := some (Serde.content plan.next.toValue)
                mutation := some plan.effects }, catalog.told call plan.next)
          else none
      | _, _ => none
  | action => catalog.act features lowercase action

/-- The catalog under steps that can be computed. -/
def weighed (features : ProductFeatures) (lowercase : String → String) :
    History.System PrinterCatalog CatalogAction CatalogEvent where
  step catalog action := catalog.weighed features lowercase action

lemma size_le_weight (state : PersistedCatalog) : state.size ≤ state.toValue.weight :=
  Json.Value.utf8ByteSize_toString_le _

lemma act_of_weighed {features : ProductFeatures} {lowercase : String → String}
    {catalog : PrinterCatalog} {action : CatalogAction}
    {result : PrinterCatalog × List CatalogEvent}
    (hweighed : catalog.weighed features lowercase action = some result) :
    catalog.act features lowercase action = some result := by
  cases action with
  | start call fault =>
      cases fault with
      | absent =>
          rw [PrinterCatalog.weighed] at hweighed
          rw [act, start]
          split at hweighed
          · rename_i plan hmutation hplan
            split_ifs at hweighed with hweight
            have hsize : ¬ maxSettingBytes < plan.next.size :=
              not_lt.mpr (le_trans (size_le_weight _) hweight)
            simp only [hmutation, hplan, persistState, if_neg hsize]
            exact hweighed
          · cases hweighed
      | _ => exact hweighed
  | _ => exact hweighed

/-- **A run that was computed is a run of the catalog.** -/
theorem runs_of_weighed {features : ProductFeatures} {lowercase : String → String}
    {ok : History.StepCondition PrinterCatalog CatalogAction CatalogEvent}
    {initial catalog : PrinterCatalog} {history : List CatalogEvent}
    (hrun : (weighed features lowercase).Runs ok initial history catalog) :
    (mutations features lowercase).Runs ok initial history catalog :=
  hrun.mono fun _ _ _ => act_of_weighed

/-- A call without a fault, and so many steps after it. -/
def wholeCall (call : Call) (steps : ℕ) : List CatalogAction :=
  .start call .absent :: List.replicate steps .advance

/-- A product build with every feature. -/
def everyFeature : ProductFeatures := ⟨true, true, true, true⟩

/-- Surroundings without queues, in which every printer answers. -/
def quietSurroundings : Surroundings := ⟨some [], fun _ => true, true, true⟩

/-- The catalog of a fresh installation. -/
def freshCatalog : PrinterCatalog where
  setting := none
  state := .default
  resolver := directory everyFeature .default
  virtualSpooler := startedDevices everyFeature .default
  revision := 1
  scans := []
  mutation := none

lemma load_freshCatalog : load everyFeature none .absent = .ok freshCatalog := rfl

/-- What a fresh installation is led to. -/
def computed (actions : List CatalogAction) : List CatalogEvent × PrinterCatalog :=
  (weighed everyFeature id).run (fun _ _ _ => true) freshCatalog actions

lemma runs_computed (actions : List CatalogAction) :
    (mutations everyFeature id).Runs History.anyStep freshCatalog (computed actions).1
      (computed actions).2 :=
  runs_of_weighed (History.System.runs_run (fun _ _ _ _ => trivial) actions)

end Weighed

/-! ## What a step can do -/

section Steps

open PrinterCatalog

variable {features : ProductFeatures} {lowercase : String → String} {catalog next : PrinterCatalog}
  {events : List CatalogEvent}

/-- What a call that gets the lock can want stored. -/
inductive Planned (features : ProductFeatures) (lowercase : String → String)
    (catalog : PrinterCatalog) : Call → Plan → Prop
  | refresh {n : ℕ} {discovered : List DiscoveredPrinter}
      (hscan : catalog.scans[n]? = some discovered) :
      Planned features lowercase catalog (.refresh n)
        (refresh features catalog.state lowercase discovered)
  | configure {printerId : String} {changes : ConfigurePrinterChanges} {index : ℕ}
      {printer : CatalogPrinter} (hrow : catalog.state.printers[index]? = some printer)
      (hid : printer.id.value = printerId)
      (hallowed : featureAllowsPrinter features printer = true)
      (hmode : changes.submissionMode = none ∨ printer.kind = .systemQueue)
      (hvalid : (printer.configured changes).reference.validate = .ok ()) :
      Planned features lowercase catalog (.configure printerId changes)
        { next := catalog.state.set index (printer.configured changes)
          effects := [.write (catalog.state.set index (printer.configured changes)),
            .upsert (printer.configured changes).reference, .bumpRevision,
            .summarize (printer.configured changes)] }
  | addManual {input : ManualPrinterInput} {uuid : Uuid} {id : PrinterId}
      (hallowed : features.networkPrinterDiscovery = true)
      (hdrawn : drawnId "printer_network_" uuid = .ok id)
      (hvalid : (manualPrinter id input).reference.validate = .ok ()) :
      Planned features lowercase catalog (.addManual input uuid)
        { next := catalog.state.push (manualPrinter id input)
          effects := [.write (catalog.state.push (manualPrinter id input)),
            .upsert (manualPrinter id input).reference, .bumpRevision,
            .summarize (manualPrinter id input)] }
  | createVirtual {input : VirtualPrinterInput} {uuid : Uuid} {id : PrinterId}
      (hallowed : features.virtualPrinter = true)
      (hdrawn : drawnId "printer_virtual_" uuid = .ok id)
      (hvalid : (virtualPrinter id input).reference.validate = .ok ()) :
      Planned features lowercase catalog (.createVirtual input uuid)
        { next := catalog.state.push (virtualPrinter id input)
          effects := [.write (catalog.state.push (virtualPrinter id input)),
            .register id .alwaysSucceed 0, .upsert (virtualPrinter id input).reference,
            .bumpRevision, .summarize (virtualPrinter id input)] }
  | updateVirtual {printerId : String} {mode : VirtualPrinterMode} {delayMs : UInt64} {index : ℕ}
      {printer : CatalogPrinter} (hallowed : features.virtualPrinter = true)
      (hrow : catalog.state.printers[index]? = some printer)
      (hid : printer.id.value = printerId) (hvirtual : printer.kind = .virtual) :
      Planned features lowercase catalog (.updateVirtual printerId mode delayMs)
        { next := catalog.state.set index (printer.simulated mode delayMs)
          effects := [.write (catalog.state.set index (printer.simulated mode delayMs)),
            .register printer.id mode delayMs, .bumpRevision,
            .summarize (printer.simulated mode delayMs)] }
  | remove {printerId : String} {index : ℕ} {printer : CatalogPrinter}
      (hrow : catalog.state.printers[index]? = some printer)
      (hid : printer.id.value = printerId) :
      Planned features lowercase catalog (.remove printerId)
        { next := catalog.state.without index printer
          effects := [.write (catalog.state.without index printer), .withdraw printer.id] ++
            (if printer.isVirtual then [.unregister printer.id] else []) ++ [.bumpRevision] }

lemma value_of_callerId {printerId : String} {id : PrinterId}
    (hid : callerId printerId = .ok id) : id.value = printerId := by
  rw [callerId, Result.mapError_eq_ok] at hid
  exact TypedIdentifier.value_of_new hid

lemma getElem?_of_find {state : PersistedCatalog} {id : PrinterId} {index : ℕ}
    {printer : CatalogPrinter} (hfind : state.find id = .ok (index, printer)) :
    state.printers[index]? = some printer ∧ printer.id = id := by
  rw [PersistedCatalog.find] at hfind
  cases hindex : state.printers.findIdx? fun printer => printer.id = id with
  | none =>
      rw [hindex] at hfind
      cases hfind
  | some found =>
      rcases Roster.getElem?_of_findIdx? hindex with ⟨entry, hentry, _, hid⟩
      simp only [hindex, hentry] at hfind
      cases hfind
      exact ⟨hentry, of_decide_eq_true hid⟩

/-- **What a call wants stored is one of these.** -/
theorem planned {call : Call} {plan : Plan}
    (hplan : catalog.plan features lowercase call = some (.ok plan)) :
    Planned features lowercase catalog call plan := by
  cases call with
  | refresh n =>
      rw [PrinterCatalog.plan, Option.map_eq_some_iff] at hplan
      rcases hplan with ⟨discovered, hscan, heq⟩
      cases heq
      exact .refresh hscan
  | configure printerId changes =>
      simp only [PrinterCatalog.plan, Option.some.injEq, Desktop.configure, Result.bind_eq_ok,
        Result.mapError_eq_ok, ensure_eq_ok, Result.pure_eq_ok] at hplan
      rcases hplan with ⟨id, hid, ⟨index, printer⟩, hfind, _, hallowed, _, hmode, _, hvalid, rfl⟩
      rcases getElem?_of_find hfind with ⟨hrow, rfl⟩
      refine .configure hrow (value_of_callerId hid) hallowed ?_ hvalid
      simpa using hmode
  | addManual input uuid =>
      simp only [PrinterCatalog.plan, Option.some.injEq, Desktop.addManual, Result.bind_eq_ok,
        Result.mapError_eq_ok, ensure_eq_ok, Result.pure_eq_ok] at hplan
      rcases hplan with ⟨_, hallowed, id, hdrawn, _, hvalid, rfl⟩
      exact .addManual hallowed hdrawn hvalid
  | createVirtual input uuid =>
      simp only [PrinterCatalog.plan, Option.some.injEq, Desktop.createVirtual, Result.bind_eq_ok,
        Result.mapError_eq_ok, ensure_eq_ok, Result.pure_eq_ok] at hplan
      rcases hplan with ⟨_, hallowed, _, _, id, hdrawn, _, hvalid, rfl⟩
      exact .createVirtual hallowed hdrawn hvalid
  | updateVirtual printerId mode delayMs =>
      simp only [PrinterCatalog.plan, Option.some.injEq, Desktop.updateVirtual, Result.bind_eq_ok,
        ensure_eq_ok, Result.pure_eq_ok] at hplan
      rcases hplan with ⟨_, hallowed, _, _, id, hid, ⟨index, printer⟩, hfind, _, hvirtual, rfl⟩
      rcases getElem?_of_find hfind with ⟨hrow, rfl⟩
      exact .updateVirtual hallowed hrow (value_of_callerId hid) (of_decide_eq_true hvirtual)
  | remove printerId =>
      simp only [PrinterCatalog.plan, Option.some.injEq, Desktop.remove, Result.bind_eq_ok,
        Result.pure_eq_ok] at hplan
      rcases hplan with ⟨id, hid, ⟨index, printer⟩, hfind, rfl⟩
      rcases getElem?_of_find hfind with ⟨hrow, rfl⟩
      exact .remove hrow (value_of_callerId hid)

/-- What starting a call can do to the catalog. -/
inductive Starts (features : ProductFeatures) (lowercase : String → String)
    (catalog : PrinterCatalog) (call : Call) (fault : Fault) :
    PrinterCatalog → List CatalogEvent → Prop
  /-- The call fails before anything is stored. -/
  | refused : Starts features lowercase catalog call fault (catalog.taken call) []
  /-- The storage fails, after the rows were stored. -/
  | stranded {plan : Plan} (hplan : Planned features lowercase catalog call plan)
      (hfault : fault = .after) (hsize : plan.next.size ≤ maxSettingBytes) :
      Starts features lowercase catalog call fault
        { catalog.taken call with setting := some (Serde.content plan.next.toValue) } []
  /-- The rows are stored. -/
  | stored {plan : Plan} (hplan : Planned features lowercase catalog call plan)
      (hfault : fault = .absent) (hsize : plan.next.size ≤ maxSettingBytes) :
      Starts features lowercase catalog call fault
        { catalog.taken call with
          setting := some (Serde.content plan.next.toValue)
          mutation := some plan.effects }
        (catalog.told call plan.next)

lemma taken_eq (call : Call) : ∃ scans, catalog.taken call = { catalog with scans := scans } ∧
    scans ⊆ catalog.scans := by
  cases call with
  | refresh n => exact ⟨_, rfl, fun _ hscan => List.mem_of_mem_eraseIdx hscan⟩
  | _ => exact ⟨_, rfl, fun _ hscan => hscan⟩

lemma starts {call : Call} {fault : Fault}
    (hstep : catalog.start features lowercase call fault = some (next, events)) :
    catalog.mutation = none ∧ Starts features lowercase catalog call fault next events := by
  rw [start] at hstep
  cases hmutation : catalog.mutation with
  | some effects =>
      rw [hmutation] at hstep
      cases hstep
  | none =>
      refine ⟨rfl, ?_⟩
      rw [hmutation] at hstep
      cases hplan : catalog.plan features lowercase call with
      | none =>
          rw [hplan] at hstep
          cases hstep
      | some outcome =>
          rw [hplan] at hstep
          cases outcome with
          | error e =>
              cases hstep
              exact .refused
          | ok plan =>
              have hrefused : { catalog.taken call with setting := catalog.setting } =
                  catalog.taken call := by
                rcases @taken_eq catalog call with ⟨scans, htaken, _⟩
                rw [htaken]
              simp only [persistState] at hstep
              split_ifs at hstep with hsize
              · simp only [Option.some.injEq, Prod.mk.injEq, hrefused] at hstep
                rcases hstep with ⟨rfl, rfl⟩
                exact .refused
              · cases fault with
                | absent =>
                    cases hstep
                    exact .stored (planned hplan) rfl (not_lt.mp hsize)
                | before =>
                    simp only [Option.some.injEq, Prod.mk.injEq, hrefused] at hstep
                    rcases hstep with ⟨rfl, rfl⟩
                    exact .refused
                | after =>
                    cases hstep
                    exact .stranded (planned hplan) rfl (not_lt.mp hsize)

/-- What a step of the catalog can be. -/
inductive Acts (features : ProductFeatures) (lowercase : String → String)
    (catalog : PrinterCatalog) : CatalogAction → PrinterCatalog → List CatalogEvent → Prop
  | scanned (surroundings : Surroundings) :
      Acts features lowercase catalog (.scan surroundings)
        { catalog with
          scans := catalog.scans ++
            [discover lowercase (observations features surroundings catalog.state)] } []
  | started {call : Call} {fault : Fault} {next : PrinterCatalog} {events : List CatalogEvent}
      (hmutation : catalog.mutation = none)
      (hstarts : Starts features lowercase catalog call fault next events) :
      Acts features lowercase catalog (.start call fault) next events
  /-- The call returns. -/
  | returned (hmutation : catalog.mutation = some []) :
      Acts features lowercase catalog .advance { catalog with mutation := none } []
  | performed {effect : Effect} {effects : List Effect} {next : PrinterCatalog}
      (hmutation : catalog.mutation = some (effect :: effects))
      (hperform : catalog.perform features effect = .ok next) :
      Acts features lowercase catalog .advance { next with mutation := some effects } []
  /-- A step of the call fails, and so does the call. -/
  | failed {effect : Effect} {effects : List Effect} {e : CommandError}
      (hmutation : catalog.mutation = some (effect :: effects))
      (hperform : catalog.perform features effect = .error e) :
      Acts features lowercase catalog .advance { catalog with mutation := none } []
  | restarted {fault : Fault} {next : PrinterCatalog} (hload : load features catalog.setting fault = .ok next) :
      Acts features lowercase catalog (.restart fault) next []

/-- **A step of the catalog is one of these.** -/
theorem acts {action : CatalogAction}
    (hstep : catalog.act features lowercase action = some (next, events)) :
    Acts features lowercase catalog action next events := by
  cases action with
  | scan surroundings =>
      cases hstep
      exact .scanned surroundings
  | start call fault => exact .started (starts hstep).1 (starts hstep).2
  | advance =>
      rw [act, Option.map_eq_some_iff] at hstep
      rcases hstep with ⟨result, hstep, heq⟩
      cases heq
      rw [advance] at hstep
      cases hmutation : catalog.mutation with
      | none =>
          rw [hmutation] at hstep
          cases hstep
      | some effects =>
          rw [hmutation] at hstep
          cases effects with
          | nil =>
              cases hstep
              exact .returned hmutation
          | cons effect effects =>
              cases hperform : catalog.perform features effect with
              | ok result =>
                  simp only [hperform] at hstep
                  cases hstep
                  exact .performed hmutation hperform
              | error e =>
                  simp only [hperform] at hstep
                  cases hstep
                  exact .failed hmutation hperform
  | restart fault =>
      rw [act, Option.map_eq_some_iff] at hstep
      rcases hstep with ⟨result, hload, heq⟩
      cases heq
      cases hresult : load features catalog.setting fault with
      | error e =>
          rw [hresult] at hload
          cases hload
      | ok started =>
          rw [hresult] at hload
          cases hload
          exact .restarted hresult

end Steps

end Oppa.Desktop
