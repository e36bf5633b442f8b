import Oppa.Protocol.Message

/-!
# Version negotiation

How the versions that an agent offers are planned, and which one is selected of them.

* `selectProtocolVersion` — the highest version both peers have.
* `HandshakePlanner` — the offers of an agent across the attempts to reach one server.
* `Planned` — the planners that a record, a clock and a number of refused offers lead to; each of
  them offers the base version.
* `requiredProtocolVersion` — the version that a message needs, as the other implementation reads it
  off the JSON of its payload.  **`requiredProtocolVersion_agent`** and
  **`requiredProtocolVersion_server`** say that both implementations agree.
-/

namespace Oppa.Protocol

/-- `LEGACY_RETRY_INTERVAL_MS`. -/
def legacyRetryIntervalMs : UInt64 := 24 * 60 * 60 * 1000

/-- `select_protocol_version`. -/
def selectProtocolVersion (serverSupported offered : List ProtocolVersion) :
    Option ProtocolVersion :=
  [ProtocolVersion.extended, ProtocolVersion.base].find? fun version =>
    version ∈ serverSupported && version ∈ offered

/-- What an agent remembers of a server that accepts only the base version. -/
structure LegacyServerRecord where
  legacyUntilMs : UInt64
  deriving DecidableEq, Repr

/-- What is to be stored after a handshake. -/
inductive CacheUpdate
  | unchanged
  | store (record : LegacyServerRecord)
  | clear
  deriving DecidableEq, Repr

/-- `u64::saturating_add`. -/
def saturatingAdd (a b : UInt64) : UInt64 :=
  if a.toNat + b.toNat < 2 ^ 64 then a + b else UInt64.ofNat (2 ^ 64 - 1)

/-- `HandshakePlanner`. -/
structure HandshakePlanner where
  offered : List ProtocolVersion
  hadRecord : Bool
  mayFallBack : Bool
  fellBack : Bool
  deriving DecidableEq, Repr

namespace HandshakePlanner

/-- `HandshakePlanner::new`. -/
def new (record : Option LegacyServerRecord) (nowMs : UInt64) : HandshakePlanner :=
  if record.any fun record => nowMs < record.legacyUntilMs then
    { offered := [.base], hadRecord := true, mayFallBack := false, fellBack := false }
  else
    { offered := [.extended, .base]
      hadRecord := record.isSome
      mayFallBack := true
      fellBack := false }

/-- `HandshakePlanner::on_closed_before_hello`: the planner after it, and whether to try again at
once. -/
def onClosedBeforeHello (planner : HandshakePlanner) : HandshakePlanner × Bool :=
  if !planner.mayFallBack || planner.fellBack then (planner, false)
  else ({ planner with offered := [.base], fellBack := true }, true)

/-- `HandshakePlanner::on_accepted`. -/
def onAccepted (planner : HandshakePlanner) (selected : ProtocolVersion) (nowMs : UInt64) :
    CacheUpdate :=
  if selected = .base ∧ planner.fellBack then
    .store ⟨saturatingAdd nowMs legacyRetryIntervalMs⟩
  else if selected = .extended ∧ planner.hadRecord then .clear
  else .unchanged

end HandshakePlanner

/-- The planners of attempts that began with a record at a time, after any number of offers that
were refused. -/
inductive Planned (record : Option LegacyServerRecord) (nowMs : UInt64) : HandshakePlanner → Prop
  | new : Planned record nowMs (.new record nowMs)
  | refused {planner : HandshakePlanner} (hplanned : Planned record nowMs planner) :
      Planned record nowMs planner.onClosedBeforeHello.1

section Negotiation

variable {record : Option LegacyServerRecord} {nowMs : UInt64} {planner : HandshakePlanner}

/-- The base version is always offered. -/
lemma Planned.base_mem (hplanned : Planned record nowMs planner) : .base ∈ planner.offered := by
  induction hplanned with
  | new =>
      rw [HandshakePlanner.new]
      split_ifs
      · exact List.mem_cons_self
      · exact List.mem_cons_of_mem _ List.mem_cons_self
  | @refused planner _ ih =>
      rw [HandshakePlanner.onClosedBeforeHello]
      split_ifs
      · exact ih
      · exact List.mem_cons_self

/-- A planner offers the extended version until an offer of it was refused. -/
lemma Planned.offered_eq (hplanned : Planned record nowMs planner) :
    planner.offered =
      if planner.mayFallBack && !planner.fellBack then [.extended, .base] else [.base] := by
  induction hplanned with
  | new =>
      rw [HandshakePlanner.new]
      split_ifs <;> simp_all
  | @refused planner _ ih =>
      rw [HandshakePlanner.onClosedBeforeHello]
      by_cases hstays : (!planner.mayFallBack || planner.fellBack) = true
      · rw [if_pos hstays]
        exact ih
      · rw [if_neg hstays]
        simp

/-- **A version that is selected was enabled and was offered.** -/
lemma mem_of_selectProtocolVersion {serverSupported offered : List ProtocolVersion}
    {selected : ProtocolVersion}
    (hselected : selectProtocolVersion serverSupported offered = some selected) :
    selected ∈ serverSupported ∧ selected ∈ offered := by
  have hfound := List.find?_some hselected
  rw [Bool.and_eq_true, decide_eq_true_eq, decide_eq_true_eq] at hfound
  exact hfound

/-- Peers that both have the base version select one. -/
lemma exists_selectProtocolVersion {serverSupported offered : List ProtocolVersion}
    (hserver : .base ∈ serverSupported) (hoffered : .base ∈ offered) :
    ∃ selected, selectProtocolVersion serverSupported offered = some selected := by
  rw [← Option.isSome_iff_exists, selectProtocolVersion, List.find?_isSome]
  refine ⟨.base, List.mem_cons_of_mem _ List.mem_cons_self, ?_⟩
  rw [Bool.and_eq_true, decide_eq_true_eq, decide_eq_true_eq]
  exact ⟨hserver, hoffered⟩

end Negotiation

/-! ## The version a message needs -/

open Json

section Payloads

/-- The serialized payload. -/
def ServerHello.toValue (hello : ServerHello) : Value :=
  .object [("brand", .object [("name", .string hello.brand.name)]),
    ("heartbeatIntervalMs", .number hello.heartbeatIntervalMs.toNat),
    ("maxMessageBytes", .number hello.maxMessageBytes.toNat),
    ("selectedProtocolVersion", .string hello.selectedProtocolVersion.asStr),
    ("serverId", .string hello.serverId), ("serverVersion", .string hello.serverVersion),
    ("sessionId", .string hello.sessionId),
    ("supportedProtocolVersions", versionsValue hello.supportedProtocolVersions)]

/-- The serialized payload. -/
def HeartbeatRequest.toValue (request : HeartbeatRequest) : Value :=
  .object [("timeoutMs", .number request.timeoutMs.toNat)]

/-- The serialized payload. -/
def CancelJob.toValue (cancel : CancelJob) : Value :=
  .object ([("jobId", .string cancel.jobId)] ++
    optionalMember "reason" (cancel.reason.map .string))

/-- The serialized name of a configuration area. -/
def ConfigurationScope.name : ConfigurationScope → String
  | .agent => "agent"
  | .printers => "printers"
  | .all => "all"

/-- The serialized payload. -/
def ConfigurationInvalidated.toValue (invalidated : ConfigurationInvalidated) : Value :=
  .object (optionalMember "revision" (invalidated.revision.map .string) ++
    [("scope", .string invalidated.scope.name)])

/-- The serialized payload. -/
def Disconnect.toValue (disconnect : Disconnect) : Value :=
  .object ([("code", .string disconnect.code), ("reason", .string disconnect.reason),
      ("reconnect", .bool disconnect.reconnect)] ++
    optionalMember "retryAfterMs" (disconnect.retryAfterMs.map fun ms => .number ms.toNat))

/-- The serialized payload. -/
def ServerMessageKind.toValue : ServerMessageKind → Value
  | .hello payload => payload.toValue
  | .heartbeat payload => payload.toValue
  | .printJob payload => payload.toValue
  | .cancelJob payload => payload.toValue
  | .requestPrinterInventory => .object []
  | .configurationInvalidated payload => payload.toValue
  | .disconnect payload => payload.toValue

end Payloads

/-- The property of an object; anything else has none. -/
def property (value : Value) (key : String) : Option Value :=
  match value with
  | .object members => members.lookup key
  | _ => none

/-- The items of an array; anything else has none. -/
def itemsOf : Option Value → List Value
  | some (.array items) => items
  | _ => []

/-- `HANDSHAKE_TYPES`. -/
def handshakeTypes : List String := ["agent.hello", "server.hello"]

/-- `EXTENDED_CAPABILITY_KEYS`. -/
def extendedCapabilityKeys : List String :=
  ["documentFormats", "paperSizes", "customPaperSize", "printOptions"]

/-- `hasExtendedCapabilities`. -/
def hasExtendedCapabilities (printer : Value) : Bool :=
  match property printer "capabilities" with
  | none => false
  | some capabilities =>
      extendedCapabilityKeys.any fun key => (property capabilities key).isSome

/-- `requiredProtocolVersion`. -/
def requiredProtocolVersion (type : String) (payload : Value) : ProtocolVersion :=
  if type ∈ handshakeTypes then .base
  else if type = "server.print_job" then
    match (property payload "document").bind (property · "format") with
    | some (.string "pdf") => .extended
    | _ => .base
  else if type = "agent.printer_inventory" then
    if (itemsOf (property payload "printers")).any hasExtendedCapabilities then .extended else .base
  else if type = "agent.printer_inventory_changed" then
    if (itemsOf (property payload "added") ++ itemsOf (property payload "updated")).any
        hasExtendedCapabilities then .extended
    else .base
  else .base

section Agreement

/-- The properties of an object of which some were left out. -/
lemma lookup_optionalMember_append {key other : String} {value : Option Value}
    {members : List (String × Value)} :
    (optionalMember key value ++ members).lookup other =
      if other = key then value.or (members.lookup other) else members.lookup other := by
  cases value with
  | none =>
      rw [Option.none_or, ite_self]
      rfl
  | some found =>
      simp only [optionalMember, Option.map_some, Option.toList_some, List.singleton_append,
        List.lookup_cons]
      by_cases hkey : other = key
      · simp [hkey]
      · rw [if_neg hkey, beq_eq_false_iff_ne.mpr hkey]

lemma lookup_optionalMember {key other : String} {value : Option Value} :
    (optionalMember key value).lookup other = if other = key then value else none := by
  have happend := @lookup_optionalMember_append key other value []
  rw [List.append_nil] at happend
  rw [happend, List.lookup_nil, Option.or_none]

lemma hasExtendedCapabilities_toValue (printer : PrinterDescriptor) :
    hasExtendedCapabilities printer.toValue = printer.usesExtendedProtocol := by
  have hcapabilities : property printer.toValue "capabilities" =
      printer.capabilities.map PrinterCapabilities.toValue := by
    simp only [property, PrinterDescriptor.toValue, List.cons_append, List.nil_append,
      List.lookup_cons, lookup_optionalMember_append]
    simp
  rw [hasExtendedCapabilities, hcapabilities, PrinterDescriptor.usesExtendedProtocol]
  cases printer.capabilities with
  | none => rfl
  | some capabilities =>
      simp only [Option.map_some, extendedCapabilityKeys, property, PrinterCapabilities.toValue,
        List.append_assoc, List.cons_append, List.nil_append, List.lookup_cons,
        lookup_optionalMember_append, lookup_optionalMember, List.any_cons, List.any_nil,
        Option.any_some, PrinterCapabilities.usesExtendedProtocol]
      simp [Bool.or_assoc]

lemma any_hasExtendedCapabilities (printers : List PrinterDescriptor) :
    (itemsOf (some (.array (printers.map PrinterDescriptor.toValue)))).any
        hasExtendedCapabilities =
      printers.any PrinterDescriptor.usesExtendedProtocol := by
  show (printers.map PrinterDescriptor.toValue).any hasExtendedCapabilities = _
  rw [List.any_map]
  congr 1
  funext printer
  exact hasExtendedCapabilities_toValue printer

/-- **Both implementations agree on what an agent sends.** -/
theorem requiredProtocolVersion_agent (kind : AgentMessageKind) :
    requiredProtocolVersion kind.messageType kind.toValue = kind.requiredVersion := by
  cases kind with
  | printerInventory inventory =>
      have hprinters : property inventory.toValue "printers" =
          some (.array (inventory.printers.map PrinterDescriptor.toValue)) := rfl
      show (if (itemsOf (property inventory.toValue "printers")).any hasExtendedCapabilities then
        ProtocolVersion.extended else .base) = _
      rw [hprinters, any_hasExtendedCapabilities, AgentMessageKind.requiredVersion]
  | printerInventoryChanged changed =>
      have hadded : property changed.toValue "added" =
          some (.array (changed.added.map PrinterDescriptor.toValue)) := rfl
      have hupdated : property changed.toValue "updated" =
          some (.array (changed.updated.map PrinterDescriptor.toValue)) := by
        simp [property, PrinterInventoryChanged.toValue, List.lookup_cons]
      show (if (itemsOf (property changed.toValue "added") ++
        itemsOf (property changed.toValue "updated")).any hasExtendedCapabilities then
        ProtocolVersion.extended else .base) = _
      rw [hadded, hupdated, List.any_append, any_hasExtendedCapabilities,
        any_hasExtendedCapabilities, ← List.any_append, AgentMessageKind.requiredVersion]
  | _ => rfl

/-- **Both implementations agree on what a server sends.** -/
theorem requiredProtocolVersion_server (kind : ServerMessageKind) :
    requiredProtocolVersion kind.messageType kind.toValue = kind.requiredVersion := by
  cases kind with
  | printJob job =>
      have hdocument : property job.toValue "document" = some job.document.toValue := by
        simp [property, PrintJob.toValue, List.lookup_cons]
      show (match (property job.toValue "document").bind (property · "format") with
        | some (.string "pdf") => ProtocolVersion.extended
        | _ => .base) = _
      rw [hdocument, ServerMessageKind.requiredVersion]
      cases job.document <;> rfl
  | _ => rfl

end Agreement

end Oppa.Protocol
