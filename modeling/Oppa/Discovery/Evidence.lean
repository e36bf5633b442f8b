import Oppa.Discovery.Merging
import Oppa.Foundation.Sorting
import Mathlib.Data.String.Basic

/-!
# What a merge keeps

`merge_observation` fills what the evidence of the one printer lacks from that of the other, and
keeps the records and the capabilities of both.

* `about` — the evidence about one thing: the device, its URI, its address, its queue, its hardware.
* `KeepsAll` — every key, record and capability of both printers is kept.
* `KeepsEvidence` — every one of the printer that is merged into, and of the other one the keys of
  evidence that the first lacks or has alike, the records of other providers, and the capabilities.
* **`mergeObservation_keepsEvidence`** — what a merge keeps.
* `other_queue_is_not_kept` — the name of a second queue is not.
-/

namespace Oppa.Discovery

open Printer Text Sorting

/-! ## The evidence in parts -/

/-- What a key of the evidence is about. -/
inductive Part
  | device
  | uri
  | address
  | queue
  | hardware
  deriving DecidableEq, Repr

/-- The evidence about one thing. -/
def about (part : Part) (fingerprint : PrinterFingerprint) : PrinterFingerprint :=
  match part with
  | .device =>
      { usbVendorId := fingerprint.usbVendorId, usbProductId := fingerprint.usbProductId,
        serialNumber := fingerprint.serialNumber }
  | .uri => { deviceUri := fingerprint.deviceUri }
  | .address => { host := fingerprint.host, port := fingerprint.port }
  | .queue => { queueName := fingerprint.queueName }
  | .hardware => { macAddress := fingerprint.macAddress }

/-- Evidence that tells nothing but what other evidence tells as well. -/
structure Admits (fingerprint other : PrinterFingerprint) : Prop where
  queueName : fingerprint.queueName = none ∨ fingerprint.queueName = other.queueName
  driverName : fingerprint.driverName = none ∨ fingerprint.driverName = other.driverName
  deviceUri : fingerprint.deviceUri = none ∨ fingerprint.deviceUri = other.deviceUri
  host : fingerprint.host = none ∨ fingerprint.host = other.host
  port : fingerprint.port = none ∨ fingerprint.port = other.port
  usbVendorId : fingerprint.usbVendorId = none ∨ fingerprint.usbVendorId = other.usbVendorId
  usbProductId : fingerprint.usbProductId = none ∨ fingerprint.usbProductId = other.usbProductId
  serialNumber : fingerprint.serialNumber = none ∨ fingerprint.serialNumber = other.serialNumber
  macAddress : fingerprint.macAddress = none ∨ fingerprint.macAddress = other.macAddress

section Evidence

variable {lowercase : String → String} {fingerprint other : PrinterFingerprint} {part : Part}
  {key : String}

lemma orElse_of_admits {α : Type} {value other : Option α} (h : value = none ∨ value = other) :
    (value <|> other) = other := by
  rcases h with rfl | rfl
  · rfl
  · cases value <;> rfl

lemma Admits.mergeMissing_eq (hadmits : Admits fingerprint other) :
    fingerprint.mergeMissing other = other := by
  rw [PrinterFingerprint.mergeMissing, orElse_of_admits hadmits.queueName,
    orElse_of_admits hadmits.driverName, orElse_of_admits hadmits.deviceUri,
    orElse_of_admits hadmits.host, orElse_of_admits hadmits.port,
    orElse_of_admits hadmits.usbVendorId, orElse_of_admits hadmits.usbProductId,
    orElse_of_admits hadmits.serialNumber, orElse_of_admits hadmits.macAddress]

lemma about_mergeMissing :
    about part (fingerprint.mergeMissing other) =
      (about part fingerprint).mergeMissing (about part other) := by
  cases part <;> rfl

/-- Every key of the evidence is about one thing. -/
lemma mem_identityKeys_iff :
    key ∈ fingerprint.identityKeys lowercase ↔
      ∃ part, key ∈ (about part fingerprint).identityKeys lowercase := by
  constructor
  · intro hkey
    simp only [PrinterFingerprint.identityKeys, List.mem_append] at hkey
    rcases hkey with (((husb | huri) | hhost) | hqueue) | hmac
    · refine ⟨.device, ?_⟩
      simpa only [about, PrinterFingerprint.identityKeys, Printer.normalized_none, Option.map_none,
        Option.toList_none, List.append_nil] using husb
    · refine ⟨.uri, ?_⟩
      simpa [about, PrinterFingerprint.identityKeys] using huri
    · refine ⟨.address, ?_⟩
      simpa [about, PrinterFingerprint.identityKeys] using hhost
    · refine ⟨.queue, ?_⟩
      simpa [about, PrinterFingerprint.identityKeys] using hqueue
    · refine ⟨.hardware, ?_⟩
      simpa [about, PrinterFingerprint.identityKeys] using hmac
  · rintro ⟨part, hkey⟩
    cases part <;>
      simp only [about, PrinterFingerprint.identityKeys, Printer.normalized_none, Option.map_none,
        Option.toList_none, List.append_nil, List.nil_append] at hkey ⊢ <;>
      simp only [List.mem_append] <;> tauto

/-- Evidence with a key about one thing is complete there, but for the port of an address. -/
lemma about_mergeMissing_eq (hkey : key ∈ (about part fingerprint).identityKeys lowercase)
    (hport : part = .address → fingerprint.port ≠ none ∨ other.port = none) :
    about part (fingerprint.mergeMissing other) = about part fingerprint := by
  cases part with
  | device =>
      cases hvendor : fingerprint.usbVendorId with
      | none => simp [about, PrinterFingerprint.identityKeys, hvendor] at hkey
      | some vendor =>
          cases hproduct : fingerprint.usbProductId with
          | none => simp [about, PrinterFingerprint.identityKeys, hproduct] at hkey
          | some product =>
              cases hserial : fingerprint.serialNumber with
              | none => simp [about, PrinterFingerprint.identityKeys, hserial] at hkey
              | some serial =>
                  simp [about, PrinterFingerprint.mergeMissing, hvendor, hproduct, hserial]
  | uri =>
      cases huri : fingerprint.deviceUri with
      | none => simp [about, PrinterFingerprint.identityKeys, huri] at hkey
      | some uri => simp [about, PrinterFingerprint.mergeMissing, huri]
  | address =>
      cases hhost : fingerprint.host with
      | none => simp [about, PrinterFingerprint.identityKeys, hhost] at hkey
      | some host =>
          rcases hport rfl with hsome | hnone
          · cases hvalue : fingerprint.port with
            | none => exact absurd hvalue hsome
            | some port => simp [about, PrinterFingerprint.mergeMissing, hhost, hvalue]
          · cases hvalue : fingerprint.port <;>
              simp [about, PrinterFingerprint.mergeMissing, hhost, hvalue, hnone]
  | queue =>
      cases hqueue : fingerprint.queueName with
      | none => simp [about, PrinterFingerprint.identityKeys, hqueue] at hkey
      | some queue => simp [about, PrinterFingerprint.mergeMissing, hqueue]
  | hardware =>
      cases hmac : fingerprint.macAddress with
      | none => simp [about, PrinterFingerprint.identityKeys, hmac] at hkey
      | some mac => simp [about, PrinterFingerprint.mergeMissing, hmac]

end Evidence

/-! ## Records -/

section Records

variable {destination source : List ProviderMetadata} {metadata : ProviderMetadata}

lemma isOrder_optionLe : IsOrder optionLe where
  trans a b c hab hbc := by
    cases a with
    | none => rfl
    | some a =>
        cases b with
        | none => cases hab
        | some b =>
            cases c with
            | none => cases hbc
            | some c =>
                simp only [optionLe, decide_eq_true_eq] at hab hbc ⊢
                exact hab.trans hbc
  total a b := by
    cases a with
    | none => rfl
    | some a =>
        cases b with
        | none => rfl
        | some b =>
            simp only [optionLe, Bool.or_eq_true, decide_eq_true_eq]
            exact le_total a b

lemma isOrder_providerLe : IsOrder providerLe := by
  have hidentifier : IsOrder fun a b : ProviderMetadata => optionLe a.providerId b.providerId :=
    ⟨fun a b c => isOrder_optionLe.trans _ _ _, fun a b => isOrder_optionLe.total _ _⟩
  exact hidentifier.byFirst ProviderMetadata.provider

lemma optionLe_antisymm {a b : Option String} (hab : optionLe a b = true)
    (hba : optionLe b a = true) : a = b := by
  cases a with
  | none =>
      cases b with
      | none => rfl
      | some b => cases hba
  | some a =>
      cases b with
      | none => cases hab
      | some b =>
          simp only [optionLe, decide_eq_true_eq] at hab hba
          rw [le_antisymm hab hba]

lemma sameProvider_iff (a b : ProviderMetadata) :
    sameProvider a b = true ↔ providerLe a b = true ∧ providerLe b a = true := by
  simp only [sameProvider, providerLe, Bool.or_eq_true, Bool.and_eq_true, decide_eq_true_eq]
  constructor
  · rintro ⟨hprovider, hidentifier⟩
    have hrefl : optionLe b.providerId b.providerId = true := by
      simpa using isOrder_optionLe.total b.providerId b.providerId
    rw [hprovider, hidentifier]
    exact ⟨.inr ⟨rfl, hrefl⟩, .inr ⟨rfl, hrefl⟩⟩
  · rintro ⟨hab | ⟨hprovider, hab⟩, hba | ⟨hprovider', hba⟩⟩
    · exact absurd (hab.trans hba) (lt_irrefl _)
    · exact absurd hab (hprovider' ▸ lt_irrefl _)
    · exact absurd hba (hprovider ▸ lt_irrefl _)
    · exact ⟨hprovider, optionLe_antisymm hab hba⟩

/-- A normalised observation has one record of a provider and an identifier. -/
lemma pairwise_providers_normalized (printer : DiscoveredPrinter) :
    (normalized printer).providers.Pairwise fun a b => sameProvider a b = false :=
  isOrder_providerLe.pairwise_destutter sameProvider_iff

/-- The records of `merge_observation` before they are sorted. -/
def addProviders (destination source : List ProviderMetadata) : List ProviderMetadata :=
  source.foldl (fun kept provider =>
    if kept.any (sameProvider · provider) then kept else kept ++ [provider]) destination

lemma mem_mergeProviders_iff :
    metadata ∈ mergeProviders destination source ↔ metadata ∈ addProviders destination source :=
  List.mem_mergeSort

lemma subset_addProviders (destination source : List ProviderMetadata) :
    destination ⊆ addProviders destination source := by
  induction source generalizing destination with
  | nil => exact List.Subset.refl _
  | cons provider source ih =>
      rw [addProviders, List.foldl_cons]
      refine List.Subset.trans ?_ (ih _)
      split_ifs
      · exact List.Subset.refl _
      · exact List.subset_append_left _ _

/-- A record of the source is kept unless there is another one of its provider and identifier. -/
lemma mem_addProviders (hsource : source.Pairwise fun a b => sameProvider a b = false)
    (hmem : metadata ∈ source) (hnew : ∀ kept ∈ destination, sameProvider kept metadata = false) :
    metadata ∈ addProviders destination source := by
  induction source generalizing destination with
  | nil => cases hmem
  | cons provider source ih =>
      rw [List.pairwise_cons] at hsource
      rw [addProviders, List.foldl_cons]
      rcases List.mem_cons.mp hmem with rfl | hrest
      · refine subset_addProviders _ source ?_
        rw [if_neg]
        · exact List.mem_append_right _ (List.mem_singleton_self _)
        · rw [List.any_eq_true]
          rintro ⟨kept, hkept, hsame⟩
          rw [hnew kept hkept] at hsame
          cases hsame
      · refine ih hsource.2 hrest ?_
        intro kept hkept
        split_ifs at hkept
        · exact hnew kept hkept
        · rcases List.mem_append.mp hkept with hkept | hlast
          · exact hnew kept hkept
          · rw [List.mem_singleton.mp hlast]
            exact hsource.1 metadata hrest

end Records

/-! ## Capabilities and availability -/

/-- What a printer can report that it is able to do. -/
inductive Capability
  | receiptWidth (widthMm : UInt16)
  | escPos
  | systemDriver
  | raster
  | cut
  | qrCode
  | barcode
  | cancellation
  | pdf
  deriving DecidableEq, Repr

/-- A capability that is among those of a printer. -/
def PrinterReports (capabilities : PrinterCapabilities) : Capability → Prop
  | .receiptWidth widthMm => widthMm ∈ capabilities.receiptWidthsMm
  | .escPos => capabilities.escPos = true
  | .systemDriver => capabilities.systemDriver = true
  | .raster => capabilities.raster = true
  | .cut => capabilities.cut = true
  | .qrCode => capabilities.qrCode = true
  | .barcode => capabilities.barcode = true
  | .cancellation => capabilities.cancellation = true
  | .pdf => capabilities.pdf ≠ none

/-- A capability that an observation reports. -/
def Reports (printer : DiscoveredPrinter) (capability : Capability) : Prop :=
  ∃ capabilities, printer.capabilities = some capabilities ∧ PrinterReports capabilities capability

/-- Capabilities that `merge_capabilities` takes over. -/
def Combined (capability : Capability) : Prop := capability ≠ .systemDriver ∧ capability ≠ .pdf

section Capabilities

variable {destination source : DiscoveredPrinter} {capability : Capability}

lemma mem_widths_mergeCapabilities {a b : PrinterCapabilities} {widthMm : UInt16} :
    widthMm ∈ (mergeCapabilities a b).receiptWidthsMm ↔
      widthMm ∈ a.receiptWidthsMm ∨ widthMm ∈ b.receiptWidthsMm := by
  rw [mergeCapabilities, mem_destutter_ne, List.mem_mergeSort, List.mem_append]

lemma reports_mergeCapabilities_left {a b : PrinterCapabilities}
    (ha : PrinterReports a capability) :
    PrinterReports (mergeCapabilities a b) capability := by
  cases capability with
  | receiptWidth widthMm => exact mem_widths_mergeCapabilities.mpr (.inl ha)
  | systemDriver => exact ha
  | pdf => exact ha
  | escPos | raster | cut | qrCode | barcode | cancellation =>
      simp only [PrinterReports] at ha
      simp only [PrinterReports, mergeCapabilities, ha, Bool.true_or]

lemma reports_mergeCapabilities_right {a b : PrinterCapabilities}
    (hb : PrinterReports b capability) (hcombined : Combined capability) :
    PrinterReports (mergeCapabilities a b) capability := by
  cases capability with
  | receiptWidth widthMm => exact mem_widths_mergeCapabilities.mpr (.inr hb)
  | systemDriver => exact absurd rfl hcombined.1
  | pdf => exact absurd rfl hcombined.2
  | escPos | raster | cut | qrCode | barcode | cancellation =>
      simp only [PrinterReports] at hb
      simp only [PrinterReports, mergeCapabilities, hb, Bool.or_true]

lemma Reports.merge_left (hreports : Reports destination capability) :
    Reports (mergeObservation destination source) capability := by
  rcases hreports with ⟨found, hfound, hreported⟩
  simp only [Reports, mergeObservation, hfound]
  cases source.capabilities with
  | none => exact ⟨found, rfl, hreported⟩
  | some more => exact ⟨_, rfl, reports_mergeCapabilities_left hreported⟩

lemma Reports.merge_right (hreports : Reports source capability)
    (hcombined : destination.capabilities = none ∨ Combined capability) :
    Reports (mergeObservation destination source) capability := by
  rcases hreports with ⟨found, hfound, hreported⟩
  simp only [Reports, mergeObservation, hfound]
  cases hdestination : destination.capabilities with
  | none => exact ⟨found, rfl, hreported⟩
  | some own =>
      rcases hcombined with hnone | hcombined
      · rw [hdestination] at hnone
        cases hnone
      · exact ⟨_, rfl, reports_mergeCapabilities_right hreported hcombined⟩

lemma availabilityRank_mergeObservation :
    availabilityRank (mergeObservation destination source).availability =
      max (availabilityRank destination.availability) (availabilityRank source.availability) := by
  simp only [mergeObservation]
  split_ifs with hlt
  · rw [max_eq_right hlt.le]
  · rw [max_eq_left (not_lt.mp hlt)]

end Capabilities

/-! ## What is kept -/

section Keeps

variable (lowercase : String → String) (destination source merged : DiscoveredPrinter)

/-- Nothing that either of two printers tells is lost. -/
structure KeepsAll : Prop where
  keys : ∀ key, key ∈ identityKeys lowercase destination ∨ key ∈ identityKeys lowercase source →
    key ∈ identityKeys lowercase merged
  records : ∀ metadata, metadata ∈ destination.providers ∨ metadata ∈ source.providers →
    metadata ∈ merged.providers
  capabilities : ∀ capability, Reports destination capability ∨ Reports source capability →
    Reports merged capability
  availability : availabilityRank merged.availability =
    max (availabilityRank destination.availability) (availabilityRank source.availability)

/-- **What is kept of two printers**, one of which is merged into the other. -/
structure KeepsEvidence : Prop where
  /-- The keys of the printer that is merged into, unless it is known by a host without a port and
  the other one tells a port. -/
  keys : ∀ key ∈ identityKeys lowercase destination, key ∈ identityKeys lowercase merged ∨
    key ∈ (about .address destination.fingerprint).identityKeys lowercase ∧
      destination.fingerprint.port = none ∧ source.fingerprint.port ≠ none
  /-- The keys of the other one's evidence about a thing, unless there is other evidence. -/
  added : ∀ part, Admits (about part destination.fingerprint) (about part source.fingerprint) →
    ∀ key ∈ (about part source.fingerprint).identityKeys lowercase,
      key ∈ identityKeys lowercase merged
  records : ∀ metadata ∈ destination.providers, metadata ∈ merged.providers
  newRecords : ∀ metadata ∈ source.providers, metadata ∈ merged.providers ∨
    ∃ kept ∈ destination.providers, sameProvider kept metadata = true
  capabilities : ∀ capability, Reports destination capability → Reports merged capability
  newCapabilities : ∀ capability, Reports source capability →
    destination.capabilities = none ∨ Combined capability → Reports merged capability
  availability : availabilityRank merged.availability =
    max (availabilityRank destination.availability) (availabilityRank source.availability)

variable {destination source}

/-- **A merge keeps the evidence of both printers** where there is no other evidence about the same
thing, and the records and capabilities of both. -/
theorem mergeObservation_keepsEvidence {observed : DiscoveredPrinter}
    (hsource : normalizePrinter observed = .ok source) :
    KeepsEvidence lowercase destination source (mergeObservation destination source) where
  keys := by
    intro key hkey
    rw [identityKeys, List.mem_append] at hkey
    rcases hkey with hkey | hkey
    · rcases mem_identityKeys_iff.mp hkey with ⟨part, hpart⟩
      by_cases hport : part = .address → destination.fingerprint.port ≠ none ∨
          source.fingerprint.port = none
      · left
        rw [identityKeys, List.mem_append]
        refine .inl (mem_identityKeys_iff.mpr ⟨part, ?_⟩)
        rw [mergeObservation, about_mergeMissing_eq hpart hport]
        exact hpart
      · right
        rw [Classical.not_imp, not_or, not_not] at hport
        rcases hport with ⟨rfl, hnone, hsome⟩
        exact ⟨hpart, hnone, hsome⟩
    · left
      rw [identityKeys, List.mem_append]
      exact .inr hkey
  added := by
    intro part hadmits key hkey
    rw [identityKeys, List.mem_append]
    refine .inl (mem_identityKeys_iff.mpr ⟨part, ?_⟩)
    rw [mergeObservation, about_mergeMissing, hadmits.mergeMissing_eq]
    exact hkey
  records := by
    intro metadata hmetadata
    exact mem_mergeProviders_iff.mpr (subset_addProviders _ _ hmetadata)
  newRecords := by
    intro metadata hmetadata
    by_cases hkept : ∃ kept ∈ destination.providers, sameProvider kept metadata = true
    · exact .inr hkept
    · left
      have hpairwise := pairwise_providers_normalized observed
      rw [← (checked_of_normalizePrinter hsource).1] at hpairwise
      refine mem_mergeProviders_iff.mpr (mem_addProviders hpairwise hmetadata ?_)
      intro kept hmem
      rw [← Bool.not_eq_true]
      exact fun hsame => hkept ⟨kept, hmem, hsame⟩
  capabilities _ hreports := hreports.merge_left
  newCapabilities _ hreports hcombined := hreports.merge_right hcombined
  availability := availabilityRank_mergeObservation

end Keeps

lemma mergeObservation_keepsEvidence_twoQueues :
    KeepsEvidence lowercaseAscii (queueAtDevice "front") (queueAtDevice "back")
      (mergeObservation (queueAtDevice "front") (queueAtDevice "back")) :=
  mergeObservation_keepsEvidence lowercaseAscii
    (show normalizePrinter (queueAtDevice "back") = .ok (queueAtDevice "back") by decide +kernel)

/-- The name of the queue that is merged is lost: the other queue has a name. -/
lemma other_queue_is_not_kept :
    ¬ ∀ destination source : DiscoveredPrinter, normalizePrinter destination = .ok destination →
      normalizePrinter source = .ok source →
      KeepsAll lowercaseAscii destination source (mergeObservation destination source) := by
  intro hclaim
  have hkeeps := hclaim (queueAtDevice "front") (queueAtDevice "back") (by decide +kernel)
    (by decide +kernel)
  have hlost : "queue:back" ∉ identityKeys lowercaseAscii
      (mergeObservation (queueAtDevice "front") (queueAtDevice "back")) := by
    decide +kernel
  exact hlost (hkeeps.keys "queue:back" (.inr (by decide +kernel)))

end Oppa.Discovery
