import Mathlib.Data.List.Destutter
import Mathlib.Data.List.DropRight
import Oppa.Discovery.Providers

/-!
# The discovery manager

How the observations of all providers become one list of printers.

* `normalizePrinter` — cleans the texts of an observation and checks it.
* `deduplicate` — merges observations that share an identity key.
* `discover` — one pass over the providers.
* **`credible_of_mem_discover`** — what a pass reports is valid and credible: printers that are
  connected in different ways share no key, so nothing that is merged contradicts itself.

How a text is folded to lower case is left open.
-/

namespace Oppa.Discovery

open Printer Text

/-! ## Normalisation -/

/-- A text without white space around it, unless nothing is left. -/
def trimmed (value : Option String) : Option String :=
  (value.map trim).filter fun value => !value.isEmpty

/-- `str::trim_end_matches('.')` and `str::to_ascii_lowercase`. -/
def normalizeHost (host : String) : String :=
  String.ofList (toAsciiLowercase (host.toList.rdropWhile (· = '.')))

/-- The connection of a normalised observation. -/
def normalizeConnection : PrinterConnection → PrinterConnection
  | .systemQueue queueName => .systemQueue (trim queueName)
  | .network host port => .network (normalizeHost (trim host)) port
  | .usb vendorId productId serialNumber => .usb vendorId productId (trimmed serialNumber)
  | .virtual printerId => .virtual (trim printerId)

/-- The evidence of a normalised observation. -/
def normalizeFingerprint (fingerprint : PrinterFingerprint) : PrinterFingerprint :=
  { fingerprint with
    queueName := trimmed fingerprint.queueName
    driverName := trimmed fingerprint.driverName
    deviceUri := trimmed fingerprint.deviceUri
    host := (trimmed fingerprint.host).map normalizeHost
    serialNumber := trimmed fingerprint.serialNumber
    macAddress := trimmed fingerprint.macAddress }

/-- The order of `Option<String>`. -/
def optionLe : Option String → Option String → Bool
  | none, _ => true
  | some _, none => false
  | some a, some b => a ≤ b

/-- The order of providers by their names and their own identifiers. -/
def providerLe (a b : ProviderMetadata) : Bool :=
  a.provider < b.provider || (a.provider = b.provider && optionLe a.providerId b.providerId)

/-- Whether two records are of one provider and one identifier. -/
def sameProvider (a b : ProviderMetadata) : Bool :=
  a.provider = b.provider && a.providerId = b.providerId

/-- `normalize_printer` before its check. -/
def normalized (printer : DiscoveredPrinter) : DiscoveredPrinter :=
  { printer with
    name := trim printer.name
    connection := normalizeConnection printer.connection
    fingerprint := normalizeFingerprint printer.fingerprint
    providers := (printer.providers.mergeSort providerLe).destutter fun a b =>
      sameProvider a b = false }

/-- `normalize_printer`. -/
def normalizePrinter (printer : DiscoveredPrinter) :
    Except PrinterValidationError DiscoveredPrinter := do
  (normalized printer).validate
  pure (normalized printer)

/-! ## Merging -/

/-- `availability_rank`. -/
def availabilityRank : PrinterAvailability → ℕ
  | .online => 3
  | .degraded => 2
  | .unknown => 1
  | .offline => 0

/-- `merge_capabilities`. -/
def mergeCapabilities (destination source : PrinterCapabilities) : PrinterCapabilities :=
  { destination with
    receiptWidthsMm :=
      ((destination.receiptWidthsMm ++ source.receiptWidthsMm).mergeSort fun a b => a ≤ b).destutter
        (· ≠ ·)
    escPos := destination.escPos || source.escPos
    raster := destination.raster || source.raster
    cut := destination.cut || source.cut
    qrCode := destination.qrCode || source.qrCode
    barcode := destination.barcode || source.barcode
    cancellation := destination.cancellation || source.cancellation }

/-- The capabilities of a merged observation. -/
def mergedCapabilities : Option PrinterCapabilities → Option PrinterCapabilities →
    Option PrinterCapabilities
  | none, source => source
  | some destination, none => some destination
  | some destination, some source => some (mergeCapabilities destination source)

/-- The providers of a merged observation. -/
def mergeProviders (destination source : List ProviderMetadata) : List ProviderMetadata :=
  (source.foldl (fun kept provider =>
    if kept.any (sameProvider · provider) then kept else kept ++ [provider])
    destination).mergeSort providerLe

/-- `merge_observation`. -/
def mergeObservation (destination source : DiscoveredPrinter) : DiscoveredPrinter :=
  { destination with
    fingerprint := destination.fingerprint.mergeMissing source.fingerprint
    id := destination.id <|> source.id
    capabilities := mergedCapabilities destination.capabilities source.capabilities
    availability :=
      if availabilityRank destination.availability < availabilityRank source.availability then
        source.availability
      else destination.availability
    providers := mergeProviders destination.providers source.providers }

section Discover

variable (lowercase : String → String)

/-- The key of a connection. -/
def connectionKeys : PrinterConnection → List String
  | .systemQueue queueName => ["queue:" ++ lowercase (trim queueName)]
  | .network host port =>
      ["network:" ++ lowercase (String.ofList (host.toList.rdropWhile (· = '.'))) ++ ":" ++
        toString port.toNat]
  | .usb vendorId productId (some serial) => [usbKey vendorId productId (lowercase (trim serial))]
  | .usb _ _ none => []
  | .virtual printerId => ["virtual:" ++ lowercase printerId]

/-- `identity_keys`, as a list: only what it contains matters, and which of it comes first in
order. -/
def identityKeys (printer : DiscoveredPrinter) : List String :=
  printer.fingerprint.identityKeys lowercase ++ connectionKeys lowercase printer.connection

/-- `inventory_key`. -/
def inventoryKey (printer : DiscoveredPrinter) : String :=
  match printer.id, ((identityKeys lowercase printer).mergeSort fun a b => a ≤ b).head?,
      printer.providers.head? with
  | some id, _, _ => "id:" ++ id.value
  | none, some key, _ => key
  | none, none, some metadata =>
      "provider:" ++ metadata.provider ++ ":" ++ metadata.providerId.getD "" ++ ":" ++
        lowercase printer.name
  | none, none, none => "provider:unknown::" ++ lowercase printer.name

/-- Whether two observations share an identity key. -/
def sharesKey (a b : DiscoveredPrinter) : Bool :=
  (identityKeys lowercase a).any (· ∈ identityKeys lowercase b)

/-- One round of the loop of `deduplicate`. -/
def mergeInto (printer : DiscoveredPrinter) : List DiscoveredPrinter → List DiscoveredPrinter
  | [] => [printer]
  | existing :: merged =>
      if sharesKey lowercase printer existing then mergeObservation existing printer :: merged
      else existing :: mergeInto printer merged

/-- The order of an inventory. -/
def inventoryLe (a b : DiscoveredPrinter) : Bool :=
  lowercase a.name < lowercase b.name ||
    (lowercase a.name = lowercase b.name && inventoryKey lowercase a ≤ inventoryKey lowercase b)

/-- `deduplicate`. -/
def deduplicate (printers : List DiscoveredPrinter) : List DiscoveredPrinter :=
  (printers.foldl (fun merged printer => mergeInto lowercase printer merged) []).mergeSort
    (inventoryLe lowercase)

/-- `DiscoveryManager::discover`, from what its providers observed; a provider that failed has
observed nothing. -/
def discover (observations : List DiscoveredPrinter) : List DiscoveredPrinter :=
  deduplicate lowercase (observations.filterMap fun printer => (normalizePrinter printer).toOption)

/-! ## What a pass reports -/

variable {lowercase} {assigned : PrinterId → ConnectionKind → Prop}
  {printer other : DiscoveredPrinter}

@[simp] lemma kind_normalizeConnection (connection : PrinterConnection) :
    (normalizeConnection connection).kind = connection.kind := by
  cases connection <;> simp only [normalizeConnection, PrinterConnection.kind]

@[simp] lemma trimmed_none : trimmed none = none := rfl

lemma Credible.normalized (hcredible : Credible assigned printer) :
    Credible assigned (normalized printer) where
  fits := by
    constructor
    · intro hkind
      have hnone := hcredible.fits.queue (by simpa [Discovery.normalized] using hkind)
      simp [Discovery.normalized, normalizeFingerprint, hnone]
    · intro hkind
      have hnone := hcredible.fits.host (by simpa [Discovery.normalized] using hkind)
      simp [Discovery.normalized, normalizeFingerprint, hnone]
  plain := by
    constructor
    · exact hcredible.plain.usbVendorId
    · simp [Discovery.normalized, normalizeFingerprint, hcredible.plain.macAddress]
  reported := by
    intro metadata hmetadata
    have hmem := (List.destutter_sublist _ _).subset hmetadata
    rw [List.mem_mergeSort] at hmem
    simpa [Discovery.normalized] using hcredible.reported metadata hmem
  papers := hcredible.papers
  queue hid := by simpa [Discovery.normalized] using hcredible.queue hid
  configured id hid := by simpa [Discovery.normalized] using hcredible.configured id hid
  physical := by simpa [Discovery.normalized] using hcredible.physical
  network hkind := hcredible.network (by simpa [Discovery.normalized] using hkind)
  described := hcredible.described

/-- Every key of a credible observation tells how the printer is connected. -/
lemma Credible.keyKind_eq (hcredible : Credible assigned printer) {key : String}
    (hkey : key ∈ identityKeys lowercase printer) :
    keyKind key = some printer.connection.kind := by
  rw [identityKeys, List.mem_append] at hkey
  rcases hkey with hkey | hkey
  · exact hcredible.fits.keyKind_eq hcredible.plain hkey
  · have hphysical := hcredible.physical
    cases hconnection : printer.connection with
    | systemQueue queueName =>
        rw [hconnection, connectionKeys, List.mem_singleton] at hkey
        rw [hkey]
        exact keyKind_queue _
    | network host port =>
        rw [hconnection, connectionKeys, List.mem_singleton] at hkey
        rw [hkey, String.append_assoc, String.append_assoc]
        exact keyKind_network _
    | virtual printerId =>
        rw [hconnection, connectionKeys, List.mem_singleton] at hkey
        rw [hkey]
        exact keyKind_virtual _
    | usb vendorId productId serialNumber =>
        rw [hconnection] at hphysical
        exact absurd rfl hphysical

/-- Credible observations that share a key are of printers connected in the same way. -/
lemma Credible.kind_eq (hcredible : Credible assigned printer) (hother : Credible assigned other)
    (hshares : sharesKey lowercase printer other = true) :
    printer.connection.kind = other.connection.kind := by
  rw [sharesKey, List.any_eq_true] at hshares
  rcases hshares with ⟨key, hkey, hshared⟩
  have hfirst := hcredible.keyKind_eq hkey
  have hsecond := hother.keyKind_eq (of_decide_eq_true hshared)
  rw [hfirst, Option.some.injEq] at hsecond
  exact hsecond

lemma mem_of_mem_mergeProviders {destination source : List ProviderMetadata}
    {metadata : ProviderMetadata} (hmem : metadata ∈ mergeProviders destination source) :
    metadata ∈ destination ∨ metadata ∈ source := by
  rw [mergeProviders, List.mem_mergeSort] at hmem
  induction source generalizing destination with
  | nil => exact .inl hmem
  | cons provider source ih =>
      rw [List.foldl_cons] at hmem
      rcases ih hmem with hkept | hrest
      · split at hkept
        · exact .inl hkept
        · rw [List.mem_append, List.mem_singleton] at hkept
          rcases hkept with hkept | rfl
          · exact .inl hkept
          · exact .inr List.mem_cons_self
      · exact .inr (List.mem_cons_of_mem _ hrest)

/-- What is merged of two credible observations with a common key is credible. -/
lemma Credible.mergeObservation (hcredible : Credible assigned printer)
    (hother : Credible assigned other)
    (hkind : other.connection.kind = printer.connection.kind) :
    Credible assigned (mergeObservation printer other) where
  fits := hcredible.fits.mergeMissing (hkind ▸ hother.fits)
  plain := hcredible.plain.mergeMissing hother.plain
  reported := by
    intro metadata hmetadata
    rcases mem_of_mem_mergeProviders hmetadata with hmem | hmem
    · exact hcredible.reported metadata hmem
    · have hreported := hother.reported metadata hmem
      rw [hkind] at hreported
      exact hreported
  papers := by
    intro found hfound pdf hpdf
    simp only [Discovery.mergeObservation] at hfound
    cases hdestination : printer.capabilities with
    | none => exact absurd hdestination hcredible.described
    | some destination =>
        have hpapers := hcredible.papers destination hdestination pdf
        rw [hdestination] at hfound
        cases hsource : other.capabilities <;> rw [hsource] at hfound <;> cases hfound <;>
          exact hpapers hpdf
  queue hid := by
    simp only [Discovery.mergeObservation, Option.orElse_eq_orElse, Option.orElse_eq_or,
      Option.or_eq_none_iff] at hid
    exact hcredible.queue hid.1
  configured id hid := by
    simp only [Discovery.mergeObservation, Option.orElse_eq_orElse, Option.orElse_eq_or,
      Option.or_eq_some_iff] at hid
    rcases hid with hid | ⟨_, hid⟩
    · exact hcredible.configured id hid
    · have hassigned := hother.configured id hid
      rw [hkind] at hassigned
      exact hassigned
  physical := hcredible.physical
  network hnetwork := by
    rcases hcredible.network hnetwork with ⟨destination, hdestination, hescPos, hpdf⟩
    simp only [Discovery.mergeObservation, hdestination]
    cases hsource : other.capabilities with
    | none => exact ⟨destination, rfl, hescPos, hpdf⟩
    | some source =>
        refine ⟨mergeCapabilities destination source, rfl, ?_, hpdf⟩
        simp [mergeCapabilities, hescPos]
  described := by
    simp only [Discovery.mergeObservation]
    cases hdestination : printer.capabilities with
    | none => exact absurd hdestination hcredible.described
    | some destination => cases other.capabilities <;> exact nofun

/-- The name and the connection of an observation are checked. -/
structure Checked (printer : DiscoveredPrinter) : Prop where
  name : validateText "printer name" printer.name maxPrinterNameBytes = .ok ()
  connection : printer.connection.validate = .ok ()

lemma checked_of_normalizePrinter (hvalid : normalizePrinter printer = .ok other) :
    other = normalized printer ∧ Checked other := by
  rw [normalizePrinter, Result.bind_eq_ok] at hvalid
  rcases hvalid with ⟨_, hvalidate, hpure⟩
  cases hpure
  rw [DiscoveredPrinter.validate, Result.bind_eq_ok] at hvalidate
  rcases hvalidate with ⟨_, hname, hrest⟩
  rw [Result.bind_eq_ok] at hrest
  rcases hrest with ⟨_, hconnection, _⟩
  exact ⟨rfl, hname, hconnection⟩

/-- A property that merging keeps holds of every printer that is left. -/
lemma forall_mem_mergeInto {P : DiscoveredPrinter → Prop}
    (hmerge : ∀ existing printer, P existing → P printer →
      sharesKey lowercase printer existing = true → P (mergeObservation existing printer))
    {merged : List DiscoveredPrinter} (hprinter : P printer) (hmerged : ∀ found ∈ merged, P found) :
    ∀ found ∈ mergeInto lowercase printer merged, P found := by
  induction merged with
  | nil =>
      intro found hfound
      rw [List.mem_singleton.mp hfound]
      exact hprinter
  | cons existing merged ih =>
      have hexisting := hmerged existing List.mem_cons_self
      have hrest := fun found hfound => hmerged found (List.mem_cons_of_mem _ hfound)
      rw [mergeInto]
      split_ifs with hshares
      · rintro found (_ | ⟨_, hfound⟩)
        · exact hmerge existing printer hexisting hprinter hshares
        · exact hrest found hfound
      · rintro found (_ | ⟨_, hfound⟩)
        · exact hexisting
        · exact ih hrest found hfound

lemma forall_mem_deduplicate {P : DiscoveredPrinter → Prop}
    (hmerge : ∀ existing printer, P existing → P printer →
      sharesKey lowercase printer existing = true → P (mergeObservation existing printer))
    {printers : List DiscoveredPrinter} (hprinters : ∀ found ∈ printers, P found) :
    ∀ found ∈ deduplicate lowercase printers, P found := by
  have hfold : ∀ printers merged : List DiscoveredPrinter, (∀ found ∈ printers, P found) →
      (∀ found ∈ merged, P found) →
      ∀ found ∈ printers.foldl (fun merged printer => mergeInto lowercase printer merged) merged,
        P found := by
    intro printers
    induction printers with
    | nil => intro merged _ hmerged; exact hmerged
    | cons printer printers ih =>
        intro merged hprinters hmerged
        refine ih _ (fun found hfound => hprinters found (List.mem_cons_of_mem _ hfound)) ?_
        exact forall_mem_mergeInto hmerge (hprinters printer List.mem_cons_self) hmerged
  intro found hfound
  rw [deduplicate, List.mem_mergeSort] at hfound
  exact hfold printers [] hprinters (fun _ hnil => nomatch hnil) found hfound

/-- **What a pass reports is valid, and credible when its observations are.** -/
theorem credible_of_mem_discover {observations : List DiscoveredPrinter}
    (hobservations : ∀ printer ∈ observations, Credible assigned printer) :
    ∀ printer ∈ discover lowercase observations, Credible assigned printer ∧ Checked printer := by
  refine forall_mem_deduplicate ?_ ?_
  · rintro existing printer ⟨hexisting, hchecked⟩ ⟨hprinter, _⟩ hshares
    exact ⟨hexisting.mergeObservation hprinter (hprinter.kind_eq hexisting hshares),
      hchecked.name, hchecked.connection⟩
  · intro found hfound
    rcases List.mem_filterMap.mp hfound with ⟨printer, hprinter, hnormal⟩
    cases hresult : normalizePrinter printer with
    | error e =>
        rw [hresult] at hnormal
        cases hnormal
    | ok result =>
        rw [hresult] at hnormal
        cases hnormal
        rcases checked_of_normalizePrinter hresult with ⟨rfl, hchecked⟩
        exact ⟨(hobservations printer hprinter).normalized, hchecked⟩

end Discover

end Oppa.Discovery
