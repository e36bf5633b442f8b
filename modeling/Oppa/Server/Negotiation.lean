import Oppa.Desktop.Descriptor
import Oppa.Protocol.Negotiation
import Oppa.Server.Handlers

/-!
# A negotiated session

What agent and server have in common once a version is selected.

* `selectProtocolVersion_eq` — both implementations select the same version.
* `DiffersInExtended` — descriptors that agree on all that the base version knows.
* **`negotiation_safe`** — the server always selects a version that it enables and that was offered,
  and what the agent then shows of its printers needs no higher one.
-/

namespace Oppa.Protocol

/-- The versions in their order. -/
def ProtocolVersion.le : ProtocolVersion → ProtocolVersion → Prop
  | .v2, .v1 => False
  | _, _ => True

/-- Capabilities that agree on all fields of the base version. -/
structure PrinterCapabilities.DiffersInExtended (a b : PrinterCapabilities) : Prop where
  mediaWidths : a.mediaWidths = b.mediaWidths
  systemDriver : a.systemDriver = b.systemDriver
  escPos : a.escPos = b.escPos
  raster : a.raster = b.raster
  cut : a.cut = b.cut
  qr : a.qr = b.qr
  barcode : a.barcode = b.barcode

/-- Descriptors that agree on all fields but the extended capabilities. -/
structure PrinterDescriptor.DiffersInExtended (a b : PrinterDescriptor) : Prop where
  id : a.id = b.id
  fingerprint : a.fingerprint = b.fingerprint
  name : a.name = b.name
  kind : a.kind = b.kind
  connection : a.connection = b.connection
  capabilities : Option.Rel PrinterCapabilities.DiffersInExtended a.capabilities b.capabilities
  enabled : a.enabled = b.enabled
  availability : a.availability = b.availability

lemma PrinterDescriptor.DiffersInExtended.refl (printer : PrinterDescriptor) :
    printer.DiffersInExtended printer where
  id := rfl
  fingerprint := rfl
  name := rfl
  kind := rfl
  connection := rfl
  capabilities := by
    cases printer.capabilities with
    | none => exact .none
    | some capabilities => exact .some ⟨rfl, rfl, rfl, rfl, rfl, rfl, rfl⟩
  enabled := rfl
  availability := rfl

lemma PrinterDescriptor.differsInExtended_without (printer : PrinterDescriptor) :
    printer.DiffersInExtended printer.withoutExtendedCapabilities where
  id := rfl
  fingerprint := rfl
  name := rfl
  kind := rfl
  connection := rfl
  capabilities := by
    rw [PrinterDescriptor.withoutExtendedCapabilities]
    cases printer.capabilities with
    | none => exact .none
    | some capabilities => exact .some ⟨rfl, rfl, rfl, rfl, rfl, rfl, rfl⟩
  enabled := rfl
  availability := rfl

/-- A projection drops nothing but extended capabilities. -/
lemma differsInExtended_projectInventory (printers : List PrinterDescriptor)
    (version : ProtocolVersion) :
    List.Forall₂ PrinterDescriptor.DiffersInExtended printers
      (projectInventory printers version) := by
  rw [projectInventory, List.forall₂_map_right_iff]
  induction printers with
  | nil => exact .nil
  | cons printer printers ih =>
      refine .cons ?_ ih
      cases version with
      | v1 => exact printer.differsInExtended_without
      | v2 => exact .refl printer

/-- What a projection shows needs no version but the one it is for. -/
lemma requiredVersion_projectInventory (printers : List PrinterDescriptor) (revision : UInt64)
    (version : ProtocolVersion) :
    (AgentMessageKind.requiredVersion
      (.printerInventory ⟨revision, projectInventory printers version⟩)).le version := by
  cases version with
  | v2 => cases AgentMessageKind.requiredVersion _ <;> trivial
  | v1 =>
      have hnone : (projectInventory printers .v1).any PrinterDescriptor.usesExtendedProtocol =
          false := by
        rw [projectInventory, List.any_map, List.any_eq_false]
        intro printer _
        show ¬ printer.withoutExtendedCapabilities.usesExtendedProtocol = true
        rw [PrinterDescriptor.usesExtendedProtocol_withoutExtendedCapabilities]
        exact Bool.false_ne_true
      rw [AgentMessageKind.requiredVersion, hnone]
      trivial

end Oppa.Protocol

namespace Oppa.Server

open Protocol

/-- **Both implementations select the same version.** -/
theorem selectProtocolVersion_eq (serverSupported offered : List ProtocolVersion) :
    Server.selectProtocolVersion serverSupported offered =
      Protocol.selectProtocolVersion serverSupported offered := by
  simp only [Server.selectProtocolVersion, Protocol.selectProtocolVersion, List.find?_cons,
    List.find?_nil, ← Bool.decide_and]
  split_ifs with hextended hbase <;> simp [*]

/-- **Negotiation is safe.**  With options that `validateOptions` accepted, the server selects one of
the versions it enables for every offer that an agent plans, and it is one the agent offered.  What the agent shows of its printers then needs no
higher version and drops nothing but extended capabilities, and both implementations read the same
version off every message. -/
theorem negotiation_safe (resolved : ResolvedOptions) {record : Option LegacyServerRecord}
    {nowMs : UInt64} {planner : HandshakePlanner} (hplanned : Planned record nowMs planner) :
    (∃ selected,
      selectProtocolVersion resolved.protocolVersions planner.offered = some selected ∧
      Protocol.selectProtocolVersion resolved.protocolVersions planner.offered = some selected ∧
      selected ∈ resolved.protocolVersions ∧ selected ∈ planner.offered ∧
      ∀ (printers : List PrinterDescriptor) (revision : UInt64),
        (AgentMessageKind.requiredVersion
          (.printerInventory ⟨revision, projectInventory printers selected⟩)).le selected ∧
        List.Forall₂ PrinterDescriptor.DiffersInExtended printers
          (projectInventory printers selected)) ∧
    (∀ kind : AgentMessageKind,
      requiredProtocolVersion kind.messageType kind.toValue = kind.requiredVersion) ∧
    ∀ kind : ServerMessageKind,
      requiredProtocolVersion kind.messageType kind.toValue = kind.requiredVersion := by
  refine ⟨?_, requiredProtocolVersion_agent, requiredProtocolVersion_server⟩
  rcases exists_selectProtocolVersion resolved.base_mem hplanned.base_mem with
    ⟨selected, hselected⟩
  rcases mem_of_selectProtocolVersion hselected with ⟨henabled, hoffered⟩
  refine ⟨selected, ?_, hselected, henabled, hoffered, ?_⟩
  · rw [selectProtocolVersion_eq]
    exact hselected
  · intro printers revision
    exact ⟨requiredVersion_projectInventory printers revision selected,
      differsInExtended_projectInventory printers selected⟩

lemma interval_positive : 0 < 15000 := by decide

lemma interval_below : 15000 < 45000 := by decide

lemma callback_below : 5000 < 45000 := by decide

lemma transport_below : 10000 < 45000 := by decide

/-- Options that enable the base version only. -/
def baseOnly : ResolvedOptions where
  brand := "OPPA"
  callbackTimeoutMs := 5000
  authenticationTimeoutMs := 30000
  challengeTtlMs := 30000
  handshakeTimeoutMs := 10000
  heartbeatIntervalMs := 15000
  heartbeatTimeoutMs := 45000
  maxMessageBytes := maxWireMessageBytes
  transportTimeoutMs := 10000
  protocolVersions := [.base]
  serverId := "openprinter-server"
  serverVersion := "0.1.0"
  interval_pos := interval_positive
  interval_lt := interval_below
  callback_lt := callback_below
  transport_lt := transport_below
  base_mem := List.mem_cons_self

lemma negotiation_safe_refusedOnce :
    (∃ selected,
      selectProtocolVersion baseOnly.protocolVersions
        (HandshakePlanner.new none 0).onClosedBeforeHello.1.offered = some selected ∧
      Protocol.selectProtocolVersion baseOnly.protocolVersions
        (HandshakePlanner.new none 0).onClosedBeforeHello.1.offered = some selected ∧
      selected ∈ baseOnly.protocolVersions ∧
      selected ∈ (HandshakePlanner.new none 0).onClosedBeforeHello.1.offered ∧
      ∀ (printers : List PrinterDescriptor) (revision : UInt64),
        (AgentMessageKind.requiredVersion
          (.printerInventory ⟨revision, projectInventory printers selected⟩)).le selected ∧
        List.Forall₂ PrinterDescriptor.DiffersInExtended printers
          (projectInventory printers selected)) ∧
    (∀ kind : AgentMessageKind,
      requiredProtocolVersion kind.messageType kind.toValue = kind.requiredVersion) ∧
    ∀ kind : ServerMessageKind,
      requiredProtocolVersion kind.messageType kind.toValue = kind.requiredVersion :=
  negotiation_safe baseOnly (.refused .new)

end Oppa.Server
