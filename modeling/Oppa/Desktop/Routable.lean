import Oppa.Agent.Processor
import Oppa.Desktop.CatalogSound
import Oppa.Desktop.Descriptor
import Oppa.Desktop.Migration

/-!
# Whether what is advertised can be printed

`protocol_document_formats` lists PDF for every printer whose capabilities have a PDF route.  The
agent routes a job by the connection, the submission mode and the device profile of the printer, and
the user may switch a system queue to raw mode without its capabilities being changed.

* `accepts` — the agent's check of a printer for a format; `accepts_receipt_iff`, `accepts_pdf_iff`.
* `Wired` — what every row of the catalog satisfies: only system queues can be driven in a mode that
  does not go with their capabilities.  `wired_rule` says that every change keeps it.
* `OlderRow`, `wired_of_older` — the rows of older catalogs, after their migration.
* **`formats_routable_iff`** — in every run, the formats of a printer are accepted unless it is a
  queue in raw mode whose capabilities have a PDF route; `raw_queue_lists_pdf` is a run to one.
-/

namespace Oppa.Desktop

open Printer Discovery Json PrinterCatalog

/-! ## The agent's check -/

/-- `printer_render_target` for receipts, `pdf_route` for PDFs. -/
def accepts (printer : PrinterRef) : Protocol.DocumentFormat → Bool
  | .receipt => (printerRenderTarget printer).isOk
  | .pdf => (pdfRoute printer).isOk

section Accepts

variable {printer : PrinterRef}

attribute [local simp] accepts printerRenderTarget pdfRoute PrinterConnection.kind Except.isOk
  Except.toBool

/-- Of the printers that are not connected by USB, only network printers need one mode. -/
lemma accepts_receipt_iff (hprofile : printer.Profiled) (hwired : printer.connection.kind ≠ .usb) :
    accepts printer .receipt = true ↔
      (printer.connection.kind = .network → printer.submissionMode = .raw .escPos) := by
  rcases printer with ⟨id, name, connection, mode, profile, enabled⟩
  rw [PrinterRef.Profiled] at hprofile
  cases connection with
  | usb vendorId productId serialNumber => exact absurd rfl hwired
  | systemQueue queueName =>
      refine iff_of_true ?_ fun hnetwork => by cases hnetwork
      cases profile with
      | some profile => cases hprofile.1
      | none => cases mode <;> rfl
  | network host port =>
      cases profile with
      | some profile => cases hprofile.1
      | none =>
          cases mode with
          | driver => simp
          | raw language =>
              cases language
              exact iff_of_true rfl fun _ => rfl
  | «virtual» printerId =>
      refine iff_of_true ?_ fun hnetwork => by cases hnetwork
      cases profile with
      | none => exact absurd rfl hprofile
      | some profile =>
          have hdriven := hprofile.2
          cases profile <;> cases mode <;> first | rfl | cases hdriven

/-- PDFs are printed in driver mode, on queues and virtual printers. -/
lemma accepts_pdf_iff (hprofile : printer.Profiled) :
    accepts printer .pdf = true ↔ printer.submissionMode = .driver ∧
      (printer.connection.kind = .systemQueue ∨ printer.connection.kind = .virtual) := by
  rcases printer with ⟨id, name, connection, mode, profile, enabled⟩
  rw [PrinterRef.Profiled] at hprofile
  cases connection with
  | usb vendorId productId serialNumber => cases mode <;> simp
  | network host port => cases mode <;> simp
  | systemQueue queueName =>
      cases profile with
      | some profile => cases hprofile.1
      | none => cases mode <;> simp
  | «virtual» printerId =>
      cases profile with
      | none => exact absurd rfl hprofile
      | some profile =>
          have hdriven := hprofile.2
          cases profile <;> cases mode <;> simp [VirtualPrinterProfile.drivenIn] at hdriven ⊢

end Accepts

/-! ## What every row satisfies -/

/-- Capabilities without a route for PDFs. -/
def NoPdf (capabilities : Option PrinterCapabilities) : Prop :=
  ∀ found, capabilities = some found → found.pdf = none

/-- A row whose mode goes with its capabilities, unless it is a system queue. -/
structure Wired (printer : CatalogPrinter) : Prop where
  native : Native byFamily printer
  network : printer.kind = .network →
    printer.reference.submissionMode = .raw .escPos ∧ NoPdf printer.capabilities
  emulated : printer.kind = .virtual →
    printer.reference.submissionMode = .driver ∨ NoPdf printer.capabilities

section Rows

variable {printer : CatalogPrinter}

/-- The capabilities of a virtual printer are those of its profile, and so is its mode. -/
lemma noPdf_of_profile {reference : PrinterRef} (hvalid : reference.validate = .ok ())
    (hvirtual : reference.connection.kind = .virtual) :
    reference.submissionMode = .driver ∨
      NoPdf (some (virtualCapabilitiesForProfile reference.virtualProfile)) := by
  have hprofile := PrinterRef.profiled hvalid
  rw [PrinterRef.Profiled] at hprofile
  cases hfound : reference.virtualProfile with
  | none =>
      rw [hfound] at hprofile
      exact absurd hvirtual hprofile
  | some profile =>
      rw [hfound] at hprofile
      cases profile with
      | escPosReceipt widthMm =>
          refine .inr ?_
          rintro found ⟨⟩
          rfl
      | systemDriverPage widthMm heightMm dpi =>
          refine .inl ?_
          have hdriven := hprofile.2
          cases hmode : reference.submissionMode with
          | driver => rfl
          | raw language =>
              rw [hmode] at hdriven
              cases hdriven

lemma noPdf_of_receiptOnly {capabilities : Option PrinterCapabilities}
    (honly : ReceiptOnly capabilities) : NoPdf capabilities := by
  obtain ⟨only, rfl, -, hpdf⟩ := honly
  rintro found ⟨⟩
  exact hpdf

/-- **Every change of a row keeps it wired.** -/
theorem wired_rule : RowRule byFamily Wired where
  native hprinter := hprinter.native
  unseen hprinter :=
    { native := native_rule.unseen hprinter.native
      network := by simpa using hprinter.network
      emulated := by simpa using hprinter.emulated }
  observed {printer observation} hprinter hcredible hchecked hkind :=
    { native := native_rule.observed hprinter.native hcredible hchecked hkind
      network := by
        intro hnetwork
        have hobserved : observation.connection.kind = .network := hnetwork
        refine ⟨(hprinter.network (hkind ▸ hobserved)).1, ?_⟩
        show NoPdf (if observation.connection.kind = .virtual then _ else _)
        rw [if_neg (by rw [hobserved]; decide)]
        exact noPdf_of_receiptOnly (hcredible.network hobserved)
      emulated := by
        intro hvirtual
        have hobserved : observation.connection.kind = .virtual := hvirtual
        show _ ∨ NoPdf (if observation.connection.kind = .virtual then _ else _)
        rw [if_pos hobserved]
        exact noPdf_of_profile
          (native_rule.observed hprinter.native hcredible hchecked hkind).valid hobserved }
  discovered {id observation} hcredible hchecked hassigned :=
    { native := native_rule.discovered hcredible hchecked hassigned
      network := by
        intro hnetwork
        have honly := hcredible.network hnetwork
        have hnoPdf := noPdf_of_receiptOnly honly
        obtain ⟨only, hfound, hescPos, -⟩ := honly
        show newPrinterSubmissionMode observation.connection observation.capabilities = _ ∧
          NoPdf (newPrinterCapabilities observation)
        have hkind : observation.connection.kind = .network := hnetwork
        rw [newPrinterCapabilities]
        cases hconnection : observation.connection with
        | network host port =>
            rw [newPrinterSubmissionMode, hfound, Option.any_some, if_pos hescPos]
            rw [hfound] at hnoPdf
            exact ⟨rfl, hnoPdf⟩
        | systemQueue queueName =>
            rw [hconnection] at hkind
            cases hkind
        | usb vendorId productId serialNumber =>
            rw [hconnection] at hkind
            cases hkind
        | «virtual» printerId =>
            rw [hconnection] at hkind
            cases hkind
      emulated := by
        intro hvirtual
        have hkind : observation.connection.kind = .virtual := hvirtual
        refine .inr ?_
        show NoPdf (newPrinterCapabilities observation)
        rw [newPrinterCapabilities]
        cases hconnection : observation.connection with
        | «virtual» printerId =>
            rintro found ⟨⟩
            rfl
        | systemQueue queueName =>
            rw [hconnection] at hkind
            cases hkind
        | usb vendorId productId serialNumber =>
            rw [hconnection] at hkind
            cases hkind
        | network host port =>
            rw [hconnection] at hkind
            cases hkind }
  configured {printer changes} hprinter hmode hvalid :=
    { native := native_rule.configured hprinter.native hmode hvalid
      network := by
        intro hnetwork
        have hkind : printer.kind = .network := hnetwork
        have hsame := hmode.resolve_right (by rw [hkind]; decide)
        show changes.submissionMode.getD _ = _ ∧ _
        rw [hsame]
        exact hprinter.network hkind
      emulated := by
        intro hvirtual
        have hkind : printer.kind = .virtual := hvirtual
        have hsame := hmode.resolve_right (by rw [hkind]; decide)
        show changes.submissionMode.getD _ = _ ∨ _
        rw [hsame]
        exact hprinter.emulated hkind }
  manual hassigned hvalid :=
    { native := native_rule.manual hassigned hvalid
      network := fun _ => ⟨rfl, by rintro found ⟨⟩; rfl⟩
      emulated := nofun }
  virtual hassigned hvalid :=
    { native := native_rule.virtual hassigned hvalid
      network := nofun
      emulated := fun _ => noPdf_of_profile hvalid rfl }
  simulated hprinter hkind :=
    { native := native_rule.simulated hprinter.native hkind
      network := hprinter.network
      emulated := hprinter.emulated }

/-! ## Older rows -/

/-- The connection of a row that was written before there were submission modes tells its mode. -/
lemma submissionMode_of_legacyRow {row : Serde.Content} (hlegacy : LegacyRow row)
    (hobject : ObjectConnection row) (hread : readPrinter (migratedRow row) = some printer) :
    printer.reference.submissionMode = modeOf printer.reference.connection := by
  obtain ⟨legacy, hreference, hlegacy⟩ := hlegacy
  obtain ⟨legacy', members, hreference', hobject⟩ := hobject
  rw [hreference, Option.some.injEq, Tree.object.injEq] at hreference'
  subst hreference'
  obtain ⟨changed, hchanged⟩ := exists_migrateReference hlegacy hobject (legacyWidth row)
  have hrow : field "reference" (migratedRow row) = some (.object changed) := by
    cases hmigrated : migratePrinter row with
    | none =>
        rw [migratePrinter_of_reference hreference, hchanged] at hmigrated
        cases hmigrated
    | some row' =>
        obtain ⟨reference, changed', hreference', hchanged', hrow'⟩ :=
          migratePrinter_eq_some hmigrated
        rw [hreference, Option.some.injEq, Tree.object.injEq] at hreference'
        subst hreference'
        rw [hchanged, Option.some.injEq] at hchanged'
        rw [migratedRow, hmigrated, Option.getD_some, hrow', hchanged']
  obtain ⟨-, hconnection, hmode, -⟩ := readReference_object (readReference_of_readPrinter hrow hread)
  have hchange := change_of_migrateReference hchanged
  rw [Serde.required, hchange.lookup_eq (by decide) (by decide), hobject, Option.bind_some]
    at hconnection
  have htype := connectionType_of_readConnection hobject hconnection
  have hadded : ∀ {mode : Serde.Content},
      legacySubmissionMode (connectionType legacy) = some mode →
        changed.lookup "submissionMode" = some mode →
          printer.reference.submissionMode = modeOf printer.reference.connection := by
    intro mode hlegacyMode hlookup
    rw [htype] at hlegacyMode
    rw [Serde.defaulted, hlookup] at hmode
    exact (Option.some.inj ((readSubmissionMode_legacy hlegacyMode).symm.trans hmode)).symm
  cases hchange with
  | mode hnone hlegacyMode hkept => exact hadded hlegacyMode (by simp)
  | profile hsome hvirtual hnoProfile =>
      rw [hlegacy.noMode] at hsome
      cases hsome
  | both hnone hlegacyMode hvirtual hnoProfile => exact hadded hlegacyMode (by simp)

/-- A row as an older version stored it: before there were submission modes, or in the mode of its
connection.  Its id and its evidence are those of its connection, and only queues print PDFs. -/
structure OlderRow (row : Serde.Content) : Prop where
  mode : LegacyRow row ∧ ObjectConnection row ∨ ∀ printer, readPrinter (migratedRow row) =
    some printer → printer.kind = .network → printer.reference.submissionMode = .raw .escPos
  assigned : ∀ printer, readPrinter (migratedRow row) = some printer →
    byFamily printer.id printer.kind
  fits : ∀ printer, readPrinter (migratedRow row) = some printer →
    printer.fingerprint.Fits printer.kind
  reported : ∀ printer, readPrinter (migratedRow row) = some printer →
    ∀ metadata ∈ printer.providers, metadata.Fits printer.kind
  noPdf : ∀ printer, readPrinter (migratedRow row) = some printer →
    printer.kind ≠ .systemQueue → NoPdf printer.capabilities

/-- Older rows are wired after their migration. -/
lemma OlderRow.wired {row : Serde.Content} (hrow : OlderRow row)
    (hread : readPrinter (migratedRow row) = some printer)
    (hvalid : printer.reference.validate = .ok ()) : Wired printer where
  native :=
    { assigned := hrow.assigned printer hread
      fits := hrow.fits printer hread
      reported := hrow.reported printer hread
      valid := hvalid }
  network := by
    intro hnetwork
    refine ⟨?_, hrow.noPdf printer hread (by rw [hnetwork]; decide)⟩
    rcases hrow.mode with ⟨hlegacy, hobject⟩ | hmode
    · rw [submissionMode_of_legacyRow hlegacy hobject hread]
      rw [CatalogPrinter.kind] at hnetwork
      cases hconnection : printer.reference.connection with
      | network host port => rfl
      | systemQueue queueName =>
          rw [hconnection] at hnetwork
          cases hnetwork
      | usb vendorId productId serialNumber =>
          rw [hconnection] at hnetwork
          cases hnetwork
      | «virtual» printerId =>
          rw [hconnection] at hnetwork
          cases hnetwork
    · exact hmode printer hread hnetwork
  emulated hvirtual := .inr (hrow.noPdf printer hread (by rw [hvirtual]; decide))

/-- A setting as an older version left it, or none at all. -/
def OlderSetting (setting : Option Serde.Content) : Prop :=
  ∀ stored ∈ setting, ∃ rows, field "printers" stored = some (.array rows) ∧
    ∀ row ∈ rows, OlderRow row

/-- What is loaded from an older setting is wired. -/
lemma wired_of_older {features : ProductFeatures} {setting : Option Serde.Content} {fault : Fault}
    {initial : PrinterCatalog} (holder : OlderSetting setting)
    (hload : load features setting fault = .ok initial) :
    ∀ printer ∈ initial.state.printers, Wired printer := by
  obtain ⟨migrated, hread, -, hchecked, -⟩ := load_eq_ok hload
  intro printer hprinter
  have hvalid := (checkRows_eq_ok.mp hchecked).1 printer hprinter
  cases setting with
  | none =>
      have hstate : initial.state = .default := (congrArg Prod.fst (Except.ok.inj hread)).symm
      rw [hstate] at hprinter
      cases hprinter
  | some stored =>
      rw [storedCatalog] at hread
      split at hread
      · rename_i catalog hcatalog
        cases hread
        obtain ⟨rows, hrows, holder⟩ := holder stored rfl
        have hall := forall₂_readPrinter (field_migratedSetting hrows) hcatalog
        rw [List.forall₂_map_left_iff] at hall
        obtain ⟨row, hrow, hprinterRow⟩ := Result.exists_of_forall₂ hall hprinter
        exact (holder row hrow).wired hprinterRow hvalid
      · cases hread

end Rows

/-! ## What is advertised -/

/-- The formats that a descriptor lists. -/
def advertisedFormats (descriptor : Protocol.PrinterDescriptor) : List Protocol.DocumentFormat :=
  (descriptor.capabilities.bind Protocol.PrinterCapabilities.documentFormats).getD []

/-- A queue that was switched to raw mode, whose capabilities have a route for PDFs and a width that
the protocol knows. -/
def RawQueueWithPdf (printer : CatalogPrinter) : Prop :=
  printer.kind = .systemQueue ∧ printer.reference.submissionMode ≠ .driver ∧
    ∃ capabilities ∈ printer.capabilities, protocolWidths capabilities.receiptWidthsMm ≠ [] ∧
      capabilities.pdf.isSome = true

section Formats

variable {lowercase : String → String} {printer : CatalogPrinter}
  {descriptor : Protocol.PrinterDescriptor}

lemma kind_ne_usb_of_descriptor
    (hdescribed : protocolDescriptor lowercase printer = .ok descriptor) : printer.kind ≠ .usb := by
  obtain ⟨kind, connection, hconnection, -⟩ := protocolDescriptor_eq_ok.mp hdescribed
  rw [CatalogPrinter.kind]
  cases hkind : printer.reference.connection with
  | usb vendorId productId serialNumber =>
      rw [hkind] at hconnection
      cases hconnection
  | systemQueue queueName => simp [PrinterConnection.kind]
  | network host port => simp [PrinterConnection.kind]
  | «virtual» printerId => simp [PrinterConnection.kind]

/-- PDFs are listed for printers whose capabilities have a route for them. -/
lemma pdf_mem_advertisedFormats
    (hdescribed : protocolDescriptor lowercase printer = .ok descriptor) :
    .pdf ∈ advertisedFormats descriptor ↔ ∃ capabilities ∈ printer.capabilities,
      protocolWidths capabilities.receiptWidthsMm ≠ [] ∧ capabilities.pdf.isSome = true := by
  obtain ⟨kind, connection, -, rfl⟩ := protocolDescriptor_eq_ok.mp hdescribed
  rw [advertisedFormats, described]
  cases hcapabilities : printer.capabilities with
  | none => simp
  | some capabilities =>
      simp only [Option.bind_some, protocolCapabilities, List.isEmpty_iff]
      split_ifs with hwidths
      · simp [hwidths]
      · cases hpdf : capabilities.pdf <;> simp [protocolDocumentFormats, hpdf, hwidths]

/-- **The formats of a wired printer are accepted** unless it is a raw queue with PDFs. -/
theorem Wired.accepts_iff (hwired : Wired printer)
    (hdescribed : protocolDescriptor lowercase printer = .ok descriptor) :
    (∀ format ∈ .receipt :: advertisedFormats descriptor,
      accepts printer.reference format = true) ↔ ¬ RawQueueWithPdf printer := by
  have husb := kind_ne_usb_of_descriptor hdescribed
  have hprofiled := PrinterRef.profiled hwired.native.valid
  have hreceipt : accepts printer.reference .receipt = true :=
    (accepts_receipt_iff hprofiled husb).mpr fun hnetwork => (hwired.network hnetwork).1
  have hall : (∀ format ∈ .receipt :: advertisedFormats descriptor,
      accepts printer.reference format = true) ↔
        (.pdf ∈ advertisedFormats descriptor → accepts printer.reference .pdf = true) := by
    rw [List.forall_mem_cons]
    constructor
    · exact fun hall => hall.2 .pdf
    · rintro hpdf
      refine ⟨hreceipt, fun format hformat => ?_⟩
      cases format with
      | receipt => exact hreceipt
      | pdf => exact hpdf hformat
  rw [hall, pdf_mem_advertisedFormats hdescribed, accepts_pdf_iff hprofiled]
  constructor
  · rintro hpdf ⟨hqueue, hmode, hcapabilities⟩
    exact hmode (hpdf hcapabilities).1
  · rintro hnot ⟨capabilities, hcapabilities, hwidths, hpdf⟩
    have hsome : ¬ NoPdf printer.capabilities := by
      intro hnone
      rw [hnone capabilities hcapabilities] at hpdf
      cases hpdf
    show _ ∧ (printer.kind = .systemQueue ∨ printer.kind = .virtual)
    cases hkind : printer.kind with
    | usb => exact absurd hkind husb
    | network => exact absurd (hwired.network hkind).2 hsome
    | «virtual» => exact ⟨(hwired.emulated hkind).resolve_right hsome, .inr rfl⟩
    | systemQueue =>
        refine ⟨?_, .inl rfl⟩
        by_contra hmode
        exact hnot ⟨hkind, hmode, capabilities, hcapabilities, hwidths, hpdf⟩

/-- **The formats of every printer are accepted unless it is a raw queue with PDFs**, in every run
from a fresh installation or from the setting of an older version. -/
theorem formats_routable_iff {features : ProductFeatures} {initial catalog : PrinterCatalog}
    {history : List CatalogEvent}
    {ok : History.StepCondition PrinterCatalog CatalogAction CatalogEvent}
    {setting : Option Serde.Content} {fault : Fault} (holder : OlderSetting setting)
    (hload : load features setting fault = .ok initial)
    (hrun : (mutations features lowercase).Runs ok initial history catalog) :
    ∀ printer ∈ catalog.state.printers, ∀ descriptor,
      protocolDescriptor lowercase printer = .ok descriptor →
        ((∀ format ∈ .receipt :: advertisedFormats descriptor,
          accepts printer.reference format = true) ↔ ¬ RawQueueWithPdf printer) := by
  intro printer hprinter descriptor hdescribed
  have hsound := wired_rule.rows byFamily_assignment hload (wired_of_older holder hload) hrun
  exact (hsound.state printer hprinter).accepts_iff hdescribed

/-- A queue is found and switched to a mode. -/
def queueSwitched (mode : SubmissionMode) : List CatalogAction :=
  .scan { quietSurroundings with queues := some [.cups "Office" (some "usb://a") .online none] } ::
    wholeCall (.refresh 0) 5 ++
    wholeCall (.configure "printer_discovered_96891a0625b3c0ba" ⟨none, none, some mode⟩) 5

theorem formats_routable_iff_switched :
    (mutations everyFeature id).Runs History.anyStep freshCatalog
        (computed (queueSwitched .driver)).1 (computed (queueSwitched .driver)).2 ∧
      ∀ printer ∈ (computed (queueSwitched .driver)).2.state.printers, ∀ descriptor,
        protocolDescriptor id printer = .ok descriptor →
          ((∀ format ∈ .receipt :: advertisedFormats descriptor,
            accepts printer.reference format = true) ↔ ¬ RawQueueWithPdf printer) :=
  ⟨runs_computed (queueSwitched .driver),
    formats_routable_iff (by rintro _ ⟨⟩) load_freshCatalog
      (runs_computed (queueSwitched .driver))⟩

/-- **A queue that is switched to raw mode** is still advertised with PDFs, which are refused. -/
theorem raw_queue_lists_pdf :
    ∃ history catalog, (mutations everyFeature id).Runs History.anyStep freshCatalog history
        catalog ∧
      ∃ printer ∈ catalog.state.printers, advertised everyFeature printer = true ∧
        printer.reference.enabled = true ∧
        ∃ descriptor, protocolDescriptor id printer = .ok descriptor ∧
          .pdf ∈ advertisedFormats descriptor ∧ accepts printer.reference .pdf = false := by
  have hrefused : ∃ printer ∈ (computed (queueSwitched (.raw .escPos))).2.state.printers,
      advertised everyFeature printer = true ∧ printer.reference.enabled = true ∧
        (protocolDescriptor id printer).toOption.any
          (fun descriptor => .pdf ∈ advertisedFormats descriptor) = true ∧
        accepts printer.reference .pdf = false := by decide +kernel
  obtain ⟨printer, hprinter, hadvertised, henabled, hlisted, hrefused⟩ := hrefused
  refine ⟨_, _, runs_computed (queueSwitched (.raw .escPos)), printer, hprinter, hadvertised,
    henabled, ?_⟩
  cases hdescribed : protocolDescriptor id printer with
  | error e =>
      rw [hdescribed] at hlisted
      cases hlisted
  | ok descriptor =>
      rw [hdescribed] at hlisted
      exact ⟨descriptor, rfl, of_decide_eq_true hlisted, hrefused⟩

end Formats

end Oppa.Desktop
