import Oppa.Foundation.JsonBound
import Oppa.Protocol.Codec
import Oppa.Desktop.CatalogSound
import Oppa.Desktop.Descriptor

/-!
# When a catalog can be advertised

The inventory of the catalog as a message, and when that message can be put on the wire.

* `envelope`, `inventoryMessage` — the message `send_inventory` hands to the transport.
* `EvidenceFits` — whether the evidence by which a row is named to a server is short enough.
* `Describable` — what every row satisfies besides: its id, its name, its connection and its
  capabilities are what the protocol asks for.
* `length_le_of_size` — a catalog that can be stored has so few rows that their descriptions fit
  into one message.
* **`advertisable`** — in every run from a fresh installation the inventory can be sent, in either
  version, exactly when the evidence of every row that is sent fits.
* `long_host_stops_inventory` — a network printer with a long host, with which nothing can be sent.
-/

namespace Oppa.Protocol

open Text

/-! ## Valid descriptors -/

section Descriptors

variable {descriptor : PrinterDescriptor}

/-- A descriptor as a peer of a version may see it. -/
def PrinterDescriptor.projected (version : ProtocolVersion) (descriptor : PrinterDescriptor) :
    PrinterDescriptor :=
  match version with
  | .v1 => descriptor.withoutExtendedCapabilities
  | .v2 => descriptor

lemma projectInventory_eq (printers : List PrinterDescriptor) (version : ProtocolVersion) :
    projectInventory printers version = printers.map (PrinterDescriptor.projected version) := by
  cases version <;> rfl

/-- What a descriptor has to satisfy besides its fingerprint. -/
structure PrinterDescriptor.Regular (descriptor : PrinterDescriptor) : Prop where
  id : validateIdentifier descriptor.id "id" 128 = .ok ()
  name : validateString descriptor.name "name" 1 256 = .ok ()
  connection : descriptor.connection.validate = .ok ()
  capabilities : ∀ capabilities ∈ descriptor.capabilities, capabilities.validate = .ok ()
  kind : descriptor.kindMatchesConnection = true

/-- **Only the fingerprint of a regular descriptor can be wrong.** -/
theorem PrinterDescriptor.Regular.validate_eq_ok (hregular : descriptor.Regular) :
    descriptor.validate = .ok () ↔
      1 ≤ utf16Length descriptor.fingerprint ∧ utf16Length descriptor.fingerprint ≤ 256 := by
  have hcapabilities : validateOptional (fun capabilities : PrinterCapabilities =>
      capabilities.validate.within "capabilities") descriptor.capabilities = .ok () := by
    cases hfound : descriptor.capabilities with
    | none => rfl
    | some capabilities => exact within_eq_ok.mpr (hregular.capabilities _ hfound)
  simp only [PrinterDescriptor.validate, andThen_eq_ok, within_eq_ok, hregular.id, hregular.name,
    hregular.connection, hcapabilities, hregular.kind, if_true, true_and, and_true]
  constructor
  · intro hvalid
    exact string_of_valid hvalid
  · rintro ⟨hleast, hmost⟩
    rw [validateString, if_pos (by simp [hleast, hmost])]

/-- A regular descriptor stays regular when it is projected. -/
lemma PrinterDescriptor.Regular.projected (hregular : descriptor.Regular)
    (version : ProtocolVersion) : (descriptor.projected version).Regular := by
  cases version with
  | v2 => exact hregular
  | v1 =>
      refine ⟨hregular.id, hregular.name, hregular.connection, ?_, hregular.kind⟩
      intro capabilities hmem
      rcases Option.map_eq_some_iff.mp (Option.mem_def.mp hmem) with ⟨found, hfound, rfl⟩
      have hvalid := hregular.capabilities found hfound
      simp only [PrinterCapabilities.validate, andThen_eq_ok] at hvalid ⊢
      exact ⟨hvalid.1, rfl, rfl⟩

lemma fingerprint_projected (version : ProtocolVersion) :
    (descriptor.projected version).fingerprint = descriptor.fingerprint := by
  cases version <;> rfl

end Descriptors

/-! ## Lists without repetition -/

section Lists

variable {α : Type} [DecidableEq α] {items : List α}

lemma validateDistinct_of_nodup {path : ℕ → String} {message : String} (hnodup : items.Nodup) :
    validateDistinct path message items = .ok () := by
  rw [validateDistinct, validateEach_eq_ok]
  intro index hlt
  rw [if_neg]
  intro hmem
  rw [zero_add] at hmem
  rcases List.getElem_of_mem hmem with ⟨before, hbefore, heq⟩
  rw [List.length_take] at hbefore
  rw [List.getElem_take] at heq
  have hsame := (hnodup.getElem_inj_iff).mp heq
  omega

lemma validatePair_of_nodup {path bounds duplicates : String} (hnodup : items.Nodup)
    (hne : items ≠ []) (hlength : items.length ≤ 2) :
    PrinterCapabilities.validatePair path bounds duplicates items = .ok () := by
  rw [PrinterCapabilities.validatePair, if_neg, if_neg]
  · rw [Bool.and_eq_true, decide_eq_true_eq, decide_eq_true_eq]
    rintro ⟨htwo, hsame⟩
    rw [List.getElem?_eq_getElem (by omega), List.getElem?_eq_getElem (by omega),
      Option.some.injEq] at hsame
    have hindex := (hnodup.getElem_inj_iff).mp hsame
    cases hindex
  · rw [Bool.or_eq_true, decide_eq_true_eq, List.isEmpty_iff]
    rintro (hnil | hlong)
    · exact hne hnil
    · omega

end Lists

/-! ## The message with an inventory -/

section Messages

open Json Json.Value

lemma validatePrinters_eq_ok {printers : List PrinterDescriptor} {path : String}
    (hlength : printers.length ≤ maxPrintersPerInventory) :
    validatePrinters printers path = .ok () ↔ ∀ printer ∈ printers, printer.validate = .ok () := by
  rw [validatePrinters, if_neg (not_lt.mpr hlength), validateEach_eq_ok]
  simp only [within_eq_ok]
  constructor
  · intro hall printer hprinter
    rcases List.getElem_of_mem hprinter with ⟨index, hlt, rfl⟩
    exact hall index hlt
  · intro hall index hlt
    exact hall _ (List.getElem_mem hlt)

lemma validateSafeInteger_eq_ok {value : UInt64} {path : String} :
    validateSafeInteger value path = .ok () ↔ value.toNat ≤ maxSafeInteger := by
  rw [validateSafeInteger]
  split_ifs with hlarge
  · simp only [refuse_ne_ok, false_iff]
    omega
  · simp only [true_iff]
    omega

/-- What the descriptions of so many valid printers take. -/
lemma weight_inventory_le {inventory : PrinterInventory}
    (hvalid : ∀ printer ∈ inventory.printers, printer.validate = .ok ())
    (hlength : inventory.printers.length ≤ 218) : weight inventory.toValue ≤ 1970000 := by
  have hprinters : weightItems (inventory.printers.map PrinterDescriptor.toValue) ≤
      (1 + 9000) * inventory.printers.length :=
    weightItems_le fun printer hprinter => weight_descriptor_le (hvalid printer hprinter)
  have hmore : (1 + 9000) * inventory.printers.length ≤ (1 + 9000) * 218 :=
    Nat.mul_le_mul_left _ hlength
  have hrevision : weight (.number inventory.revision.toNat) ≤ 4 * 20 :=
    weight_number_le (by have := inventory.revision.toNat_lt; omega) (by decide)
  have hkeys : ∀ key ∈ ["printers", "revision"], utf16Length key ≤ 15 := by decide
  simp only [List.forall_mem_cons] at hkeys
  rcases hkeys with ⟨h1, h2, _⟩
  simp only [PrinterInventory.toValue, weight, weightMembers] at hrevision ⊢
  omega

variable {message : AgentMessage} {inventory : PrinterInventory}

lemma weight_inventoryMessage_le (hkind : message.kind = .printerInventory inventory)
    (henvelope : validateEnvelope message.messageId message.sentAt message.correlationId = .ok ())
    (hvalid : ∀ printer ∈ inventory.printers, printer.validate = .ok ())
    (hlength : inventory.printers.length ≤ 218) : weight message.toValue ≤ maxWireMessageBytes := by
  simp only [validateEnvelope, andThen_eq_ok] at henvelope
  rcases henvelope with ⟨hid, hsent, hcorrelation⟩
  replace hid := (identifier_of_valid hid).2.1
  replace hsent := (utf16Length_le_utf8ByteSize _).trans (timestamp_of_valid hsent)
  have hpayload := weight_inventory_le hvalid hlength
  have hmember : weightMembers (optionalMember "correlationId"
      (message.correlationId.map Value.string)) ≤ 4 + 6 * utf16Length "correlationId" + 770 := by
    refine weight_optionalMember_le ?_
    intro value hvalue
    rcases Option.map_eq_some_iff.mp (Option.mem_def.mp hvalue) with ⟨text, htext, rfl⟩
    rw [htext] at hcorrelation
    have htext := (identifier_of_valid hcorrelation).2.1
    rw [weight]
    omega
  have hkeys : ∀ key ∈ ["correlationId", "messageId", "payload", "protocolVersion", "sentAt",
      "type", "agent.printer_inventory"], utf16Length key ≤ 23 := by decide
  simp only [List.forall_mem_cons] at hkeys
  rcases hkeys with ⟨h1, h2, h3, h4, h5, h6, h7, _⟩
  have hversion : utf16Length message.protocolVersion.asStr ≤ 1 := by
    cases message.protocolVersion <;> decide
  have hlimit : maxWireMessageBytes = 2097152 := rfl
  rw [AgentMessage.toValue, weight, hkind]
  simp only [weightMembers_append, weightMembers, weight, AgentMessageKind.toValue,
    AgentMessageKind.messageType] at hpayload ⊢
  omega

/-- **A short inventory in a valid envelope is encoded exactly when its printers are valid** and its
revision is an integer for every peer. -/
theorem encode_inventory_isOk (hkind : message.kind = .printerInventory inventory)
    (henvelope : validateEnvelope message.messageId message.sentAt message.correlationId = .ok ())
    (hversion : message.protocolVersion = message.kind.requiredVersion)
    (hlength : inventory.printers.length ≤ 218) :
    (∃ text, encodeAgentMessage message = .ok text) ↔
      (∀ printer ∈ inventory.printers, printer.validate = .ok ()) ∧
        inventory.revision.toNat ≤ maxSafeInteger := by
  have hlabel : validateEnvelopeVersion message.protocolVersion message.isHandshake
      message.kind.requiredVersion = .ok () := by
    have hhandshake : message.isHandshake = false := by rw [AgentMessage.isHandshake, hkind]
    rw [validateEnvelopeVersion, hhandshake, hversion]
    cases message.kind.requiredVersion <;> rfl
  rw [hkind] at hlabel
  have hcorrelation : message.validateCorrelation = .ok () := by
    rw [AgentMessage.validateCorrelation, hkind]
  have hmessage : message.validate = .ok () ↔
      (∀ printer ∈ inventory.printers, printer.validate = .ok ()) ∧
        inventory.revision.toNat ≤ maxSafeInteger := by
    have hmost : inventory.printers.length ≤ maxPrintersPerInventory := hlength.trans (by decide)
    simp only [AgentMessage.validate, andThen_eq_ok, henvelope, hcorrelation, hlabel, true_and,
      AgentMessageKind.validate, hkind, within_eq_ok, PrinterInventory.validate,
      validateSafeInteger_eq_ok, validatePrinters_eq_ok hmost]
    exact and_comm
  rw [encodeAgentMessage_isOk, hmessage]
  constructor
  · exact fun h => h.1
  · intro h
    refine ⟨h, le_trans (utf8ByteSize_toString_le _) ?_⟩
    exact weight_inventoryMessage_le hkind henvelope h.1 hlength

/-- The printers of an inventory that is encoded have short fingerprints. -/
lemma fingerprint_le_of_encoded {text : String} (hkind : message.kind = .printerInventory inventory)
    (hencoded : encodeAgentMessage message = .ok text) :
    ∀ printer ∈ inventory.printers, utf16Length printer.fingerprint ≤ 256 := by
  intro printer hprinter
  have hvalid := (encodeAgentMessage_isOk.mp ⟨text, hencoded⟩).1
  simp only [AgentMessage.validate, AgentMessageKind.validate, hkind, andThen_eq_ok, within_eq_ok,
    PrinterInventory.validate, validatePrinters] at hvalid
  rcases hvalid with ⟨_, _, _, _, hprinters⟩
  split_ifs at hprinters with hlong
  · exact absurd hprinters refuse_ne_ok
  · rcases valid_of_mem hprinters hprinter with ⟨index, hone⟩
    rw [within_eq_ok] at hone
    simp only [PrinterDescriptor.validate, andThen_eq_ok] at hone
    exact (string_of_valid hone.2.1).2

end Messages

end Oppa.Protocol

namespace Oppa.Desktop

open Printer Discovery PrinterCatalog Text

/-! ## How many rows there can be -/

section Rows

open Json Json.Value

lemma le_floor_fingerprint (fingerprint : PrinterFingerprint) :
    110 ≤ floor (fingerprintValue fingerprint) := by
  have hlengths : ["deviceUri", "driverName", "host", "macAddress", "port", "queueName",
      "serialNumber", "usbProductId", "usbVendorId"].map (fun key => key.toList.length) =
      [9, 10, 4, 10, 4, 9, 12, 12, 11] := by decide
  rw [fingerprintValue]
  exact le_trans (b := 2 + ([9, 10, 4, 10, 4, 9, 12, 12, 11].map (3 + ·)).sum) (by decide)
    (keys_le_floor hlengths)

lemma le_floor_reference (reference : PrinterRef) : 78 ≤ floor (referenceValue reference) := by
  have hlengths : ["connection", "displayName", "enabled", "id", "submissionMode",
      "virtualProfile"].map (fun key => key.toList.length) = [10, 11, 7, 2, 14, 14] := by decide
  rw [referenceValue]
  exact le_trans (b := 2 + ([10, 11, 7, 2, 14, 14].map (3 + ·)).sum) (by decide)
    (keys_le_floor hlengths)

/-- A row takes at least so many bytes. -/
lemma le_floor_row (printer : CatalogPrinter) : 300 ≤ floor printer.toValue := by
  have hfingerprint := le_floor_fingerprint printer.fingerprint
  have hreference := le_floor_reference printer.reference
  have hkeys : ∀ key ∈ ["availability", "capabilities", "fingerprint", "providers", "reference",
      "sourceName", "virtualDelayMs", "virtualMode", "virtualWidth"],
      9 ≤ key.toList.length := by decide
  simp only [List.forall_mem_cons] at hkeys
  rcases hkeys with ⟨h1, h2, h3, h4, h5, h6, h7, h8, h9, _⟩
  simp only [CatalogPrinter.toValue, floor, floorMembers]
  omega

/-- A catalog that can be stored has at most so many rows. -/
lemma length_le_of_size {state : PersistedCatalog} (hsize : state.size ≤ maxSettingBytes) :
    state.printers.length ≤ 218 := by
  have hrows : 300 * state.printers.length ≤
      floorItems (state.printers.map CatalogPrinter.toValue) :=
    le_floorItems fun printer _ => le_floor_row printer
  have hfloor : floor state.toValue ≤ state.size := floor_le_utf8ByteSize_toString _
  have hlimit : maxSettingBytes = 65536 := rfl
  simp only [PersistedCatalog.toValue, floor, floorMembers] at hfloor
  omega

end Rows

/-! ## Ids on the wire -/

section Identifiers

lemma isIdentifierCharacter_hex {width n : ℕ} {c : Char} (hc : c ∈ (hex width n).toList) :
    Protocol.isIdentifierCharacter c = true := by
  have hall : ∀ digit : Fin 16,
      Protocol.isIdentifierCharacter (Printer.hexDigit digit) = true := by decide
  rw [hex, String.toList_ofList, List.mem_map] at hc
  rcases hc with ⟨place, _, rfl⟩
  exact hall ⟨_, Nat.mod_lt _ (by decide)⟩

lemma isIdentifierCharacter_hyphenated {uuid : Uuid} {c : Char}
    (hc : c ∈ uuid.hyphenated.toList) : Protocol.isIdentifierCharacter c = true := by
  have hall : ∀ digit : Fin 16,
      Protocol.isIdentifierCharacter (Json.Value.hexDigit digit) = true := by decide
  have hdigit : ∀ d ∈ uuid.digits, Protocol.isIdentifierCharacter d = true := by
    intro d hd
    rcases List.mem_map.mp hd with ⟨i, _, rfl⟩
    exact hall ⟨_, Nat.mod_lt _ (by decide)⟩
  have hhyphen : Protocol.isIdentifierCharacter '-' = true := by decide
  simp only [Uuid.hyphenated, String.toList_ofList, List.mem_append, List.mem_cons] at hc
  rcases hc with hc | rfl | hc | rfl | hc | rfl | hc | rfl | hc
  · exact hdigit c (List.mem_of_mem_take hc)
  · exact hhyphen
  · exact hdigit c (List.mem_of_mem_drop (List.mem_of_mem_take hc))
  · exact hhyphen
  · exact hdigit c (List.mem_of_mem_drop (List.mem_of_mem_take hc))
  · exact hhyphen
  · exact hdigit c (List.mem_of_mem_drop (List.mem_of_mem_take hc))
  · exact hhyphen
  · exact hdigit c (List.mem_of_mem_drop hc)

lemma length_hyphenated (uuid : Uuid) : uuid.hyphenated.toList.length = 36 := by
  simp [Uuid.hyphenated, Uuid.digits]

/-- A family with characters of identifiers behind it names something on the wire. -/
lemma wire_family {family rest path : String}
    (hfirst : family.toList.head?.any isAsciiAlphanumeric = true)
    (hfamily : ∀ c ∈ family.toList, Protocol.isIdentifierCharacter c = true)
    (hrest : ∀ c ∈ rest.toList, Protocol.isIdentifierCharacter c = true)
    (hlength : family.toList.length + rest.toList.length ≤ 128) :
    Protocol.validateIdentifier (family ++ rest) path 128 = .ok () := by
  refine Protocol.validateIdentifier_of_characters ?_ ?_ ?_
  · rw [String.toList_append]
    cases hnil : family.toList with
    | nil =>
        rw [hnil] at hfirst
        cases hfirst
    | cons c cs =>
        rw [hnil] at hfirst
        exact hfirst
  · intro c hc
    rw [String.toList_append, List.mem_append] at hc
    exact hc.elim (hfamily c) (hrest c)
  · rw [String.toList_append, List.length_append]
    exact hlength

/-- Ids that are told apart by their family and are identifiers on the wire. -/
def onWire (id : PrinterId) (kind : ConnectionKind) : Prop :=
  byFamily id kind ∧ Protocol.validateIdentifier id.value "id" 128 = .ok ()

theorem onWire_assignment : Assignment onWire where
  functional hkind hother := byFamily_assignment.functional hkind.1 hother.1
  discovered source := by
    refine ⟨byFamily_assignment.discovered source,
      wire_family (by decide) (List.all_eq_true.mp (by decide)) ?_ ?_⟩
    · exact fun _ hc => isIdentifierCharacter_hex hc
    · rw [length_hex]
      decide
  manual {uuid id} hdrawn := by
    refine ⟨byFamily_assignment.manual hdrawn, ?_⟩
    rw [value_of_drawnId hdrawn]
    refine wire_family (by decide) (List.all_eq_true.mp (by decide))
      (fun _ => isIdentifierCharacter_hyphenated) ?_
    rw [length_hyphenated]
    decide
  virtual {uuid id} hdrawn := by
    refine ⟨byFamily_assignment.virtual hdrawn, ?_⟩
    rw [value_of_drawnId hdrawn]
    refine wire_family (by decide) (List.all_eq_true.mp (by decide))
      (fun _ => isIdentifierCharacter_hyphenated) ?_
    rw [length_hyphenated]
    decide

end Identifiers

/-! ## What every row satisfies -/

/-- A row that can be described to a server, but for the length of its evidence. -/
structure Describable (printer : CatalogPrinter) : Prop where
  native : Native onWire printer
  plain : printer.fingerprint.Plain
  papers : PapersDistinct printer.capabilities

section Describable

variable {printer : CatalogPrinter}

lemma papersDistinct_profile (profile : Option VirtualPrinterProfile) :
    PapersDistinct (some (virtualCapabilitiesForProfile profile)) := by
  have hsizes : rasterPdfCapabilities.paperSizes.Nodup := by decide
  rintro found hfound pdf hpdf
  cases hfound
  cases profile with
  | none =>
      cases hpdf
      exact hsizes
  | some profile =>
      cases profile with
      | escPosReceipt widthMm => cases hpdf
      | systemDriverPage width height dpi =>
          cases hpdf
          exact hsizes

lemma papersDistinct_newPrinter {observation : DiscoveredPrinter}
    (hpapers : PapersDistinct observation.capabilities) :
    PapersDistinct (newPrinterCapabilities observation) := by
  rw [newPrinterCapabilities]
  split
  · exact papersDistinct_profile _
  · exact papersDistinct_profile none
  · exact hpapers

/-- **Every change of a row keeps it describable.** -/
theorem describable_rule : RowRule onWire Describable where
  native hprinter := hprinter.native
  unseen hprinter :=
    { native := native_rule.unseen hprinter.native
      plain := by simpa using hprinter.plain
      papers := by simpa using hprinter.papers }
  observed {printer observation} hprinter hcredible hchecked hkind :=
    { native := native_rule.observed hprinter.native hcredible hchecked hkind
      plain := hcredible.plain.mergeMissing hprinter.plain
      papers := by
        show PapersDistinct (if observation.connection.kind = .virtual then _ else _)
        split_ifs
        · exact papersDistinct_profile _
        · exact hcredible.papers }
  discovered hcredible hchecked hassigned :=
    { native := native_rule.discovered hcredible hchecked hassigned
      plain := hcredible.plain
      papers := papersDistinct_newPrinter hcredible.papers }
  configured hprinter hmode hvalid :=
    { native := native_rule.configured hprinter.native hmode hvalid
      plain := hprinter.plain
      papers := hprinter.papers }
  manual hassigned hvalid :=
    { native := native_rule.manual hassigned hvalid
      plain := ⟨rfl, rfl⟩
      papers := by rintro _ ⟨⟩ _ ⟨⟩ }
  virtual hassigned hvalid :=
    { native := native_rule.virtual hassigned hvalid
      plain := ⟨rfl, rfl⟩
      papers := papersDistinct_profile _ }
  simulated hprinter hkind :=
    { native := native_rule.simulated hprinter.native hkind
      plain := hprinter.plain
      papers := hprinter.papers }

end Describable

/-! ## The descriptor of a row -/

section Descriptors

/-- A text that is checked here is one for the wire. -/
lemma validateString_of_validateText {field value path : String} {maximum : ℕ}
    (hvalid : validateText field value maximum = .ok ()) :
    Protocol.validateString value path 1 maximum = .ok () := by
  rw [validateText] at hvalid
  split_ifs at hvalid with hblank hlong
  rw [not_or, not_not] at hblank
  have hne : value.toList ≠ [] := by
    intro hnil
    refine hblank.1 ?_
    rw [hblank.2, String.isEmpty_iff]
    exact String.toList_inj.mp hnil
  have hpos := utf16Length_pos hne
  have hunits := utf16Length_le_utf8ByteSize value
  rw [Protocol.validateString, if_pos]
  rw [Bool.and_eq_true, decide_eq_true_eq, decide_eq_true_eq]
  omega

/-- There are two widths. -/
lemma length_le_of_nodup_widths {widths : List Protocol.ReceiptWidth} (hnodup : widths.Nodup) :
    widths.length ≤ 2 := by
  have hsubset : widths ⊆ [.mm58, .mm80] := by
    intro width _
    cases width <;> decide
  exact (List.subperm_of_subset hnodup hsubset).length_le

/-- There are four paper sizes. -/
lemma length_le_of_nodup_sizes {sizes : List Protocol.StandardPaperSize} (hnodup : sizes.Nodup) :
    sizes.length ≤ 4 := by
  have hsubset : sizes ⊆ [.a4, .a5, .letter, .legal] := by
    intro size _
    cases size <;> decide
  exact (List.subperm_of_subset hnodup hsubset).length_le

/-- Neighbours in order that differ are in strict order. -/
lemma strict_of_differing {widths : List Protocol.ReceiptWidth}
    (hsorted : widths.Pairwise fun a b => a.millimetres ≤ b.millimetres)
    (hchain : widths.IsChain (· ≠ ·)) :
    widths.Pairwise fun a b => a.millimetres < b.millimetres := by
  have hinjective : ∀ a b : Protocol.ReceiptWidth, a.millimetres = b.millimetres → a = b := by
    intro a b heq
    cases a <;> cases b <;> first | rfl | cases heq
  induction widths with
  | nil => exact List.Pairwise.nil
  | cons width widths ih =>
      rw [List.pairwise_cons] at hsorted ⊢
      refine ⟨?_, ih hsorted.2 hchain.tail⟩
      intro other hother
      cases widths with
      | nil => cases hother
      | cons next rest =>
          have hne := hchain.rel
          have hle := hsorted.1 next List.mem_cons_self
          have hlt : width.millimetres < next.millimetres :=
            lt_of_le_of_ne hle fun heq => hne (hinjective width next heq)
          rcases List.mem_cons.mp hother with rfl | hrest
          · exact hlt
          · exact lt_of_lt_of_le hlt ((List.pairwise_cons.mp hsorted.2).1 other hrest)

lemma nodup_protocolWidths (widths : List UInt16) : (protocolWidths widths).Nodup := by
  have hsorted : (protocolWidths widths).Pairwise fun a b => a.millimetres ≤ b.millimetres := by
    refine List.Pairwise.sublist (List.destutter_sublist _ _) ?_
    exact List.pairwise_insertionSort _ _
  have hchain : (protocolWidths widths).IsChain (· ≠ ·) := List.isChain_destutter _ _
  refine (strict_of_differing hsorted hchain).imp ?_
  rintro a b hlt rfl
  exact lt_irrefl _ hlt

lemma validate_protocolCapabilities {capabilities : Option PrinterCapabilities}
    (hpapers : PapersDistinct capabilities) {mode : SubmissionMode} :
    ∀ sent ∈ capabilities.bind fun found => protocolCapabilities found mode,
      sent.validate = .ok () := by
  intro sent hsent
  rcases Option.bind_eq_some_iff.mp (Option.mem_def.mp hsent) with ⟨found, rfl, hfound⟩
  rw [protocolCapabilities] at hfound
  split_ifs at hfound with hempty
  cases hfound
  have hwidths := nodup_protocolWidths found.receiptWidthsMm
  have hne : protocolWidths found.receiptWidthsMm ≠ [] := by
    intro hnil
    rw [hnil] at hempty
    exact hempty rfl
  simp only [Protocol.PrinterCapabilities.validate, Protocol.andThen_eq_ok]
  refine ⟨Protocol.validatePair_of_nodup hwidths hne (length_le_of_nodup_widths hwidths), ?_, ?_⟩
  · refine Protocol.validatePair_of_nodup ?_ ?_ ?_
    · rw [protocolDocumentFormats]
      split_ifs <;> decide
    · rw [protocolDocumentFormats]
      exact List.cons_ne_nil _ _
    · rw [protocolDocumentFormats]
      split_ifs <;> decide
  · cases hpdf : found.pdf.filter fun pdf => !pdf.paperSizes.isEmpty with
    | none => rfl
    | some pdf =>
        have hroute : found.pdf = some pdf := (Option.filter_eq_some_iff.mp hpdf).1
        have hinjective : Function.Injective protocolPaperSize := by
          intro a b heq
          cases a <;> cases b <;> first | rfl | cases heq
        have hsizes : (pdf.paperSizes.map protocolPaperSize).Nodup :=
          (hpapers found rfl pdf hroute).map hinjective
        show (if 4 < _ then _ else _) = _
        rw [if_neg (not_lt.mpr (length_le_of_nodup_sizes hsizes))]
        exact Protocol.validateDistinct_of_nodup hsizes

variable {lowercase : String → String} {printer : CatalogPrinter} {kind : Protocol.PrinterKind}
  {connection : Protocol.PrinterConnection}

/-- The connection of a valid row is a valid one for the wire. -/
lemma validate_protocolConnection
    (hvalid : printer.reference.connection.validate = .ok ())
    (hconnection : protocolConnection printer.reference.connection = some (kind, connection)) :
    connection.validate = .ok () ∧
      (described lowercase printer kind connection).kindMatchesConnection = true := by
  cases hfound : printer.reference.connection with
  | systemQueue queueName =>
      rw [hfound] at hvalid hconnection
      cases hconnection
      exact ⟨validateString_of_validateText hvalid, rfl⟩
  | network host port =>
      rw [hfound] at hvalid hconnection
      cases hconnection
      rw [PrinterConnection.validate, Result.bind_eq_ok] at hvalid
      rcases hvalid with ⟨_, hhost, hvalid⟩
      split_ifs at hvalid with hurl hport
      refine ⟨?_, rfl⟩
      rw [Protocol.PrinterConnection.validate, Protocol.andThen_eq_ok, if_neg hport]
      exact ⟨validateString_of_validateText hhost, rfl⟩
  | usb vendorId productId serialNumber =>
      rw [hfound] at hconnection
      cases hconnection
  | «virtual» printerId =>
      rw [hfound] at hconnection
      cases hconnection
      exact ⟨rfl, rfl⟩

/-- The descriptor of a describable row is regular. -/
lemma Describable.regular (hprinter : Describable printer)
    (hconnection : protocolConnection printer.reference.connection = some (kind, connection)) :
    (described lowercase printer kind connection).Regular := by
  have hvalid := validate_eq_ok.mp hprinter.native.valid
  have hsent := @validate_protocolConnection lowercase _ _ _ hvalid.2.1 hconnection
  exact
    { id := hprinter.native.assigned.2
      name := validateString_of_validateText hvalid.1
      connection := hsent.1
      capabilities := validate_protocolCapabilities hprinter.papers
      kind := hsent.2 }

end Descriptors

/-! ## Evidence -/

section Evidence

variable (lowercase : String → String)

/-- What a printer is known by that shows no evidence of its own. -/
def recordedEvidence (printer : CatalogPrinter) : String :=
  (printer.providers.findSome? fun metadata =>
    metadata.providerId.map fun providerId => metadata.provider ++ ":" ++ providerId).getD
      (connectionFingerprint printer.reference.connection)

/-- Whether the evidence by which a printer is known to servers is short enough: its device URI, or
else its host and port, or else the name of its queue, or else what its provider calls it. -/
def EvidenceFits (printer : CatalogPrinter) : Prop :=
  match normalized lowercase printer.fingerprint.deviceUri,
      normalized lowercase printer.fingerprint.host,
      normalized lowercase printer.fingerprint.queueName with
  | some uri, _, _ => utf16Length uri ≤ 252
  | none, some host, _ =>
      utf16Length host + utf16Length (toString (printer.fingerprint.port.getD 9100)) ≤ 247
  | none, none, some queue => utf16Length queue ≤ 250
  | none, none, none => utf16Length (recordedEvidence printer) ≤ 256

variable {lowercase} {printer : CatalogPrinter}

lemma utf16Length_recordedEvidence_pos : 0 < utf16Length (recordedEvidence printer) := by
  have hname : ∀ {name rest : String}, 0 < utf16Length name → 0 < utf16Length (name ++ rest) := by
    intro name rest hpos
    rw [utf16Length_append]
    omega
  rw [recordedEvidence]
  cases hrecord : printer.providers.findSome? fun metadata =>
      metadata.providerId.map fun providerId => metadata.provider ++ ":" ++ providerId with
  | none =>
      rw [Option.getD_none]
      cases printer.reference.connection with
      | systemQueue queueName => exact hname (by decide)
      | network host port => exact hname (hname (hname (by decide)))
      | usb vendorId productId serialNumber =>
          exact hname (hname (hname (hname (hname (by decide)))))
      | «virtual» printerId => exact hname (by decide)
  | some text =>
      rcases List.exists_of_findSome?_eq_some hrecord with ⟨metadata, _, hid⟩
      rcases Option.map_eq_some_iff.mp hid with ⟨providerId, _, rfl⟩
      rw [Option.getD_some, utf16Length_append, utf16Length_append]
      have hcolon : utf16Length ":" = 1 := by decide
      omega

/-- **The fingerprint of a row is short enough exactly when its evidence fits.** -/
theorem fingerprint_iff_evidenceFits (hplain : printer.fingerprint.Plain) :
    (1 ≤ utf16Length (protocolFingerprint lowercase printer) ∧
      utf16Length (protocolFingerprint lowercase printer) ≤ 256) ↔
        EvidenceFits lowercase printer := by
  have huri : utf16Length "uri:" = 4 := by decide
  have hnetwork : utf16Length "network:" = 8 := by decide
  have hcolon : utf16Length ":" = 1 := by decide
  have hqueue : utf16Length "queue:" = 6 := by decide
  have hrecorded : 0 < utf16Length (recordedEvidence printer) := utf16Length_recordedEvidence_pos
  have hkeys : printer.fingerprint.identityKeys lowercase =
      ((normalized lowercase printer.fingerprint.deviceUri).map fun uri => "uri:" ++ uri).toList ++
      ((normalized lowercase printer.fingerprint.host).map fun host =>
        "network:" ++ host ++ ":" ++ toString (printer.fingerprint.port.getD 9100)).toList ++
      ((normalized lowercase printer.fingerprint.queueName).map fun queue =>
        "queue:" ++ queue).toList := by
    simp only [PrinterFingerprint.identityKeys, hplain.usbVendorId, hplain.macAddress,
      normalized_none, List.nil_append, Option.map_none, Option.toList_none, List.append_nil]
  rw [protocolFingerprint, strongestEvidence, hkeys, EvidenceFits]
  cases normalized lowercase printer.fingerprint.deviceUri with
  | some uri =>
      show (1 ≤ utf16Length ("uri:" ++ uri) ∧ utf16Length ("uri:" ++ uri) ≤ 256) ↔
        utf16Length uri ≤ 252
      rw [utf16Length_append]
      omega
  | none =>
      cases normalized lowercase printer.fingerprint.host with
      | some host =>
          show (1 ≤ utf16Length ("network:" ++ host ++ ":" ++ _) ∧
            utf16Length ("network:" ++ host ++ ":" ++ _) ≤ 256) ↔ _
          rw [utf16Length_append, utf16Length_append, utf16Length_append]
          show _ ↔ utf16Length host +
            utf16Length (toString (printer.fingerprint.port.getD 9100)) ≤ 247
          omega
      | none =>
          cases normalized lowercase printer.fingerprint.queueName with
          | some queue =>
              show (1 ≤ utf16Length ("queue:" ++ queue) ∧ utf16Length ("queue:" ++ queue) ≤ 256) ↔
                utf16Length queue ≤ 250
              rw [utf16Length_append]
              omega
          | none =>
              show (1 ≤ utf16Length (recordedEvidence printer) ∧
                utf16Length (recordedEvidence printer) ≤ 256) ↔
                  utf16Length (recordedEvidence printer) ≤ 256
              omega

end Evidence

/-! ## Runs -/

/-- `envelope`. -/
def envelope (display : Timestamp → String) (kind : Protocol.AgentMessageKind)
    (correlationId : Option String) (uuid : Uuid) (sentAt : Timestamp) : Protocol.AgentMessage where
  protocolVersion := kind.requiredVersion
  messageId := "message_" ++ uuid.hyphenated
  sentAt := display sentAt
  correlationId := correlationId
  kind := kind

/-- Every message has a valid envelope when its time is printed as a timestamp. -/
lemma validateEnvelope_envelope {display : Timestamp → String} {sentAt : Timestamp}
    (hsent : Protocol.validateTimestamp (display sentAt) "sentAt" = .ok ())
    {correlationId : Option String}
    (hcorrelation : ∀ id ∈ correlationId,
      Protocol.validateIdentifier id "correlationId" 128 = .ok ())
    (uuid : Uuid) (kind : Protocol.AgentMessageKind) :
    Protocol.validateEnvelope (envelope display kind correlationId uuid sentAt).messageId
      (envelope display kind correlationId uuid sentAt).sentAt
      (envelope display kind correlationId uuid sentAt).correlationId = .ok () := by
  simp only [Protocol.validateEnvelope, Protocol.andThen_eq_ok, envelope]
  refine ⟨?_, hsent, ?_⟩
  · refine wire_family (by decide) (List.all_eq_true.mp (by decide))
      (fun _ => isIdentifierCharacter_hyphenated) ?_
    rw [length_hyphenated]
    decide
  · cases hid : correlationId with
    | none => rfl
    | some id => exact hcorrelation id hid

/-- The inventory that `send_inventory` puts into its message. -/
def PrinterCatalog.inventory (catalog : PrinterCatalog)
    (descriptors : List Protocol.PrinterDescriptor) (version : Protocol.ProtocolVersion) :
    Protocol.PrinterInventory where
  revision := catalog.revision
  printers := Protocol.projectInventory descriptors version

/-- The rows in memory and the stored ones fit a setting. -/
structure Storable (catalog : PrinterCatalog) : Prop where
  state : catalog.state.size ≤ maxSettingBytes
  stored : ∀ stored, storedCatalog catalog.setting = .ok (stored, false) →
    stored.size ≤ maxSettingBytes

section Runs

variable {features : ProductFeatures} {lowercase : String → String}
  {assigned : PrinterId → ConnectionKind → Prop} {P : CatalogPrinter → Prop}
  {catalog next initial : PrinterCatalog} {events history : List CatalogEvent}

/-- A fresh installation has no rows. -/
lemma storable_of_load {fault : Fault} (hload : load features none fault = .ok initial) :
    Storable initial ∧ initial.state = .default := by
  rcases load_eq_ok hload with ⟨migrated, hread, hsetting, _⟩
  have hstate : initial.state = .default := (congrArg Prod.fst (Except.ok.inj hread)).symm
  have hsize : PersistedCatalog.default.size ≤ maxSettingBytes :=
    le_trans (size_le_weight _) (by decide)
  refine ⟨⟨hstate ▸ hsize, ?_⟩, hstate⟩
  intro stored hstored
  rw [hsetting, hstate] at hstored
  cases hstored
  exact hsize

/-- Only rows that fit a setting are stored. -/
lemma Storable.step (hstorable : Storable catalog) (hsound : Sound assigned P catalog)
    {action : CatalogAction} (hacts : Acts features lowercase catalog action next events) :
    Storable next := by
  have hplanned : ∀ {state plan : PersistedCatalog}, plan.size ≤ maxSettingBytes →
      storedCatalog (some (Serde.content plan.toValue)) = .ok (state, false) →
        state.size ≤ maxSettingBytes := by
    intro state plan hsize hstored
    rw [storedCatalog_toValue] at hstored
    cases hstored
    exact hsize
  cases hacts with
  | scanned surroundings => exact ⟨hstorable.state, hstorable.stored⟩
  | @started call _ _ _ _ hstarts =>
      rcases @taken_eq catalog call with ⟨scans, htaken, _⟩
      cases hstarts with
      | refused =>
          rw [htaken]
          exact ⟨hstorable.state, hstorable.stored⟩
      | stranded _ _ hsize =>
          rw [htaken]
          exact ⟨hstorable.state, fun _ => hplanned hsize⟩
      | stored _ _ hsize =>
          rw [htaken]
          exact ⟨hstorable.state, fun _ => hplanned hsize⟩
  | returned _ => exact ⟨hstorable.state, hstorable.stored⟩
  | @performed effect effects result hmutation hperform =>
      rcases perform_frame hperform with ⟨hsetting, _, hstate⟩
      refine ⟨?_, ?_⟩
      · rcases hstate with hwrite | ⟨hsame, _⟩
        · exact hstorable.stored _
            (hsound.writes _ hmutation result.state (hwrite ▸ List.mem_cons_self))
        · show result.state.size ≤ maxSettingBytes
          rw [hsame]
          exact hstorable.state
      · intro stored hstored
        exact hstorable.stored stored (hsetting ▸ hstored)
  | failed _ _ => exact ⟨hstorable.state, hstorable.stored⟩
  | restarted hload =>
      rcases load_eq_ok hload with ⟨migrated, hread, hsetting, _⟩
      rcases hsound.stored with ⟨stored, hstored, _⟩
      have hsame : stored = next.state := by
        rw [hstored] at hread
        cases hread
        rfl
      have hsize : next.state.size ≤ maxSettingBytes :=
        hstorable.stored _ (hsame ▸ hstored)
      refine ⟨hsize, ?_⟩
      intro found hfound
      rw [hsetting] at hfound
      cases hfound
      exact hsize

/-- What every run from a fresh installation keeps. -/
lemma describable_storable
    {ok : History.StepCondition PrinterCatalog CatalogAction CatalogEvent} {fault : Fault}
    (hload : load features none fault = .ok initial)
    (hrun : (mutations features lowercase).Runs ok initial history catalog) :
    (∀ printer ∈ catalog.state.printers, Describable printer) ∧ Storable catalog := by
  have hrows : ∀ printer ∈ initial.state.printers, Describable printer := by
    intro printer hprinter
    rw [(storable_of_load hload).2] at hprinter
    cases hprinter
  refine ⟨(describable_rule.rows onWire_assignment hload hrows hrun).state, ?_⟩
  induction hrun with
  | start => exact (storable_of_load hload).1
  | step hrun _ hstep ih =>
      exact ih.step (describable_rule.rows onWire_assignment hload hrows hrun) (acts hstep)

/-- The descriptors of the rows that are sent are valid exactly when their evidence fits. -/
lemma descriptors_valid_iff {state : PersistedCatalog}
    (hrows : ∀ printer ∈ state.printers, Describable printer)
    {descriptors : List Protocol.PrinterDescriptor}
    (hdescriptors : protocolDescriptors lowercase features state = .ok descriptors)
    (version : Protocol.ProtocolVersion) :
    (∀ descriptor ∈ Protocol.projectInventory descriptors version, descriptor.validate = .ok ()) ↔
      ∀ printer ∈ state.printers, advertised features printer = true →
        EvidenceFits lowercase printer := by
  have hone : ∀ {printer descriptor}, Describable printer →
      protocolDescriptor lowercase printer = .ok descriptor →
        ((descriptor.projected version).validate = .ok () ↔ EvidenceFits lowercase printer) := by
    intro printer descriptor hprinter hdescribed
    rcases protocolDescriptor_eq_ok.mp hdescribed with ⟨kind, connection, hconnection, rfl⟩
    rw [((hprinter.regular hconnection).projected version).validate_eq_ok,
      Protocol.fingerprint_projected]
    exact fingerprint_iff_evidenceFits hprinter.plain
  rw [Protocol.projectInventory_eq, List.forall_mem_map]
  rw [protocolDescriptors, Result.mapM_eq_ok] at hdescriptors
  constructor
  · intro hvalid printer hprinter hadvertised
    have hmem : printer ∈ state.printers.filter (advertised features) :=
      List.mem_filter.mpr ⟨hprinter, hadvertised⟩
    rcases Result.exists_of_forall₂' hdescriptors hmem with ⟨descriptor, hsent, hdescribed⟩
    exact (hone (hrows printer hprinter) hdescribed).mp (hvalid descriptor hsent)
  · intro hfits descriptor hsent
    rcases Result.exists_of_forall₂ hdescriptors hsent with ⟨printer, hmem, hdescribed⟩
    rcases List.mem_filter.mp hmem with ⟨hprinter, hadvertised⟩
    exact (hone (hrows printer hprinter) hdescribed).mpr (hfits printer hprinter hadvertised)

/-- **The inventory of a catalog can be sent exactly when the evidence of every row fits**, in every
run from a fresh installation and in either version. -/
theorem advertisable {ok : History.StepCondition PrinterCatalog CatalogAction CatalogEvent}
    {fault : Fault} (hload : load features none fault = .ok initial)
    (hrun : (mutations features lowercase).Runs ok initial history catalog)
    (display : Timestamp → String) {sentAt : Timestamp}
    (hsent : Protocol.validateTimestamp (display sentAt) "sentAt" = .ok ())
    {correlationId : Option String}
    (hcorrelation : ∀ id ∈ correlationId,
      Protocol.validateIdentifier id "correlationId" 128 = .ok ())
    (uuid : Uuid) (version : Protocol.ProtocolVersion) :
    ∃ descriptors, protocolDescriptors lowercase features catalog.state = .ok descriptors ∧
      ((∃ text, Protocol.encodeAgentMessage (envelope display
          (.printerInventory (catalog.inventory descriptors version)) correlationId uuid sentAt) =
            .ok text) ↔
        (∀ printer ∈ catalog.state.printers, advertised features printer = true →
          EvidenceFits lowercase printer) ∧
        catalog.revision.toNat ≤ Protocol.maxSafeInteger) := by
  rcases describable_storable hload hrun with ⟨hrows, hstorable⟩
  rcases protocolDescriptors_ok features catalog.state with
    ⟨descriptors, hdescriptors⟩
  refine ⟨descriptors, hdescriptors, ?_⟩
  have hlength : (Protocol.projectInventory descriptors version).length ≤ 218 := by
    have hmapped := hdescriptors
    rw [protocolDescriptors, Result.mapM_eq_ok] at hmapped
    have hsame := hmapped.length_eq
    have hfewer := List.length_filter_le (advertised features) catalog.state.printers
    have hfew := length_le_of_size hstorable.state
    rw [Protocol.projectInventory_eq, List.length_map]
    omega
  have henvelope := validateEnvelope_envelope hsent hcorrelation uuid
    (.printerInventory (catalog.inventory descriptors version))
  rw [Protocol.encode_inventory_isOk rfl henvelope rfl hlength]
  exact and_congr_left' (descriptors_valid_iff hrows hdescriptors version)

/-- A fresh installation finds one queue at a device. -/
def queueFound (uri : String) : List CatalogAction :=
  .scan { quietSurroundings with queues := some [.cups "Office" (some uri) .online none] } ::
    wholeCall (.refresh 0) 5

theorem advertisable_queueFound :
    ∃ descriptors, protocolDescriptors id everyFeature (computed (queueFound "usb://a")).2.state =
        .ok descriptors ∧
      ((∃ text, Protocol.encodeAgentMessage (envelope (fun _ => "2026-07-01T09:00:00.000Z")
          (.printerInventory ((computed (queueFound "usb://a")).2.inventory descriptors .v2))
            none 0 ⟨0⟩) = .ok text) ↔
        (∀ printer ∈ (computed (queueFound "usb://a")).2.state.printers,
          advertised everyFeature printer = true → EvidenceFits id printer) ∧
        (computed (queueFound "usb://a")).2.revision.toNat ≤ Protocol.maxSafeInteger) :=
  advertisable load_freshCatalog (runs_computed (queueFound "usb://a"))
    (fun _ => "2026-07-01T09:00:00.000Z") (by decide) (by rintro _ ⟨⟩) 0 .v2

/-- A network printer is added whose host has so many characters. -/
def hostAdded (length : ℕ) : List CatalogAction :=
  wholeCall (.addManual ⟨"Office", String.ofList (List.replicate length 'a'), 9100⟩ 0) 5

/-- **A network printer with a long host** keeps every inventory from being sent. -/
theorem long_host_stops_inventory :
    ∃ history catalog, (mutations everyFeature id).Runs History.anyStep freshCatalog history
        catalog ∧
      ∃ descriptors, protocolDescriptors id everyFeature catalog.state = .ok descriptors ∧
        ∀ version display correlationId uuid sentAt text, Protocol.encodeAgentMessage
          (envelope display (.printerInventory (catalog.inventory descriptors version))
            correlationId uuid sentAt) ≠ .ok text := by
  have hfingerprint : ((protocolDescriptors id everyFeature
      (computed (hostAdded 244)).2.state).toOption.getD []).map
        Protocol.PrinterDescriptor.fingerprint =
        [String.ofList ("network:".toList ++ List.replicate 244 'a' ++ ":9100".toList)] := by
    decide +kernel
  rcases protocolDescriptors_ok everyFeature (computed (hostAdded 244)).2.state with
    ⟨descriptors, hdescriptors⟩
  refine ⟨_, _, runs_computed (hostAdded 244), descriptors, hdescriptors, ?_⟩
  intro version display correlationId uuid sentAt text hencoded
  rw [hdescriptors] at hfingerprint
  rcases List.map_eq_singleton_iff.mp hfingerprint with ⟨descriptor, hsingle, hlong⟩
  have hmem : descriptor ∈ descriptors := by
    rw [show descriptors = [descriptor] from hsingle]
    exact List.mem_singleton_self _
  have hascii : ∀ c ∈ descriptor.fingerprint.toList, c.toNat < 0x80 := by
    rw [hlong, String.toList_ofList]
    have hall : ("network:".toList ++ List.replicate 244 'a' ++ ":9100".toList).all
        (fun c => decide (c.toNat < 0x80)) = true := by decide +kernel
    exact fun c hc => of_decide_eq_true (List.all_eq_true.mp hall c hc)
  have hsent : descriptor.projected version ∈
      ((computed (hostAdded 244)).2.inventory descriptors version).printers := by
    rw [PrinterCatalog.inventory, Protocol.projectInventory_eq]
    exact List.mem_map_of_mem hmem
  have hshort := Protocol.fingerprint_le_of_encoded rfl hencoded _ hsent
  rw [Protocol.fingerprint_projected, utf16Length_of_ascii hascii, hlong, String.toList_ofList,
    List.length_append, List.length_append, List.length_replicate] at hshort
  exact absurd hshort (by decide)

end Runs

end Oppa.Desktop
