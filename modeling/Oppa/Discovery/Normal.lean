import Oppa.Discovery.Evidence

/-!
# Normalised observations

`normalize_printer` cleans every text of an observation once, and the host of its evidence twice:
dots at the end are removed after the text was trimmed and found not to be empty.

* `CanonicalHost` — a host in the one spelling under which it is compared.
* `Normal` — an observation that normalising does not change, with canonical hosts.
* `Settles` — a host that neither is empty nor ends with white space without the dots at its end.
* **`normal_iff`** — what is accepted is normal exactly when the host of its evidence settles.
* `dots_leave_white_space` — a host that is spelled in another way the second time.
-/

namespace Oppa.Discovery

open Printer Text Sorting

/-! ## Characters in lower case -/

lemma toNat_toLower (c : Char) :
    c.toLower.toNat = if 65 ≤ c.toNat ∧ c.toNat ≤ 90 then c.toNat + 32 else c.toNat := by
  have hrange : (c.val ≥ 'A'.val ∧ c.val ≤ 'Z'.val) ↔ 65 ≤ c.toNat ∧ c.toNat ≤ 90 := by
    rw [ge_iff_le, UInt32.le_iff_toNat_le, UInt32.le_iff_toNat_le]
    rfl
  delta Char.toLower
  split_ifs with hupper hnot hnot
  · have hadd : (c.val + ('a'.val - 'A'.val)).toNat = (c.toNat + 32) % 2 ^ 32 :=
      UInt32.toNat_add _ _
    show (c.val + ('a'.val - 'A'.val)).toNat = _
    omega
  · exact absurd (hrange.mp hupper) hnot
  · exact absurd (hrange.mpr hnot) hupper
  · rfl

lemma isUpper_eq (c : Char) : c.isUpper = decide (65 ≤ c.toNat ∧ c.toNat ≤ 90) := by
  show decide _ = _
  rw [Bool.eq_iff_iff, decide_eq_true_eq, decide_eq_true_eq, ge_iff_le,
    UInt32.le_iff_toNat_le, UInt32.le_iff_toNat_le]
  rfl

lemma isUpper_toLower (c : Char) : c.toLower.isUpper = false := by
  rw [isUpper_eq, decide_eq_false_iff_not, toNat_toLower]
  split_ifs <;> omega

lemma toLower_eq_self {c : Char} (hc : c.isUpper = false) : c.toLower = c := by
  rw [isUpper_eq, decide_eq_false_iff_not] at hc
  rw [← Char.toNat_inj, toNat_toLower, if_neg hc]

lemma isWhitespace_toLower (c : Char) : isWhitespace c.toLower = isWhitespace c := by
  by_cases hupper : c.isUpper = true
  · rw [isUpper_eq, decide_eq_true_eq] at hupper
    have hlower : c.toLower.toNat = c.toNat + 32 := by rw [toNat_toLower, if_pos hupper]
    have hnot : isWhitespace c = false := by
      simp only [isWhitespace, Bool.or_eq_false_iff, Bool.and_eq_false_iff, beq_eq_false_iff_ne,
        decide_eq_false_iff_not]
      omega
    rw [hnot]
    simp only [isWhitespace, hlower, Bool.or_eq_false_iff, Bool.and_eq_false_iff,
      beq_eq_false_iff_ne, decide_eq_false_iff_not]
    omega
  · rw [toLower_eq_self (Bool.not_eq_true _ ▸ hupper)]

lemma toLower_eq_dot_iff (c : Char) : c.toLower = '.' ↔ c = '.' := by
  rw [← Char.toNat_inj, ← Char.toNat_inj, toNat_toLower]
  have hdot : '.'.toNat = 46 := rfl
  split_ifs <;> omega

/-! ## Hosts -/

/-- A host without white space around it and dots at its end, as it is in the evidence before it is
folded to lower case. -/
def bareHost (host : String) : List Char := (trimChars host.toList).rdropWhile (· = '.')

/-- A host in the spelling under which it is compared. -/
structure CanonicalHost (host : String) : Prop where
  trimmed : trim host = host
  nonempty : host ≠ ""
  dots : ∀ c, host.toList.getLast? = some c → c ≠ '.'
  lower : ∀ c ∈ host.toList, c.isUpper = false

/-- A host that neither is empty nor ends with white space without the dots at its end. -/
def Settles (host : String) : Prop :=
  ∃ c, (bareHost host).getLast? = some c ∧ isWhitespace c = false

section Hosts

variable {host : String}

lemma normalizeHost_trim (host : String) :
    normalizeHost (trim host) = String.ofList (toAsciiLowercase (bareHost host)) := by
  rw [normalizeHost, toList_trim, bareHost]

lemma toList_normalizeHost :
    (normalizeHost (trim host)).toList = (bareHost host).map Char.toLower := by
  rw [normalizeHost_trim, String.toList_ofList, toAsciiLowercase]

lemma bareHost_prefix (host : String) : bareHost host <+: trimChars host.toList :=
  List.rdropWhile_prefix _ _

/-- A canonical host is spelled as it is. -/
lemma CanonicalHost.normalizeHost_eq (hcanonical : CanonicalHost host) :
    normalizeHost (trim host) = host := by
  have hbare : bareHost host = host.toList := by
    rw [bareHost, trim_eq_self_iff.mp hcanonical.trimmed, List.rdropWhile_eq_self_iff]
    intro hne hdot
    exact hcanonical.dots _ (List.getLast?_eq_some_getLast hne) (of_decide_eq_true hdot)
  have hlower : host.toList.map Char.toLower = host.toList := by
    rw [List.map_congr_left fun c hc => toLower_eq_self (hcanonical.lower c hc), List.map_id']
  rw [← String.toList_inj, toList_normalizeHost, hbare, hlower]

lemma ne_dot_of_getLast?_normalizeHost {c : Char}
    (hc : (normalizeHost (trim host)).toList.getLast? = some c) : c ≠ '.' := by
  rw [toList_normalizeHost, List.getLast?_map, Option.map_eq_some_iff] at hc
  rcases hc with ⟨last, hlast, rfl⟩
  rw [Ne, toLower_eq_dot_iff]
  have hne : bareHost host ≠ [] := by
    intro hnil
    rw [hnil] at hlast
    cases hlast
  rw [List.getLast?_eq_some_getLast hne, Option.some.injEq] at hlast
  rw [← hlast]
  have hdot := List.rdropWhile_last_not (· = '.') (trimChars host.toList) hne
  rwa [decide_eq_true_eq] at hdot

lemma isUpper_of_mem_normalizeHost {c : Char}
    (hc : c ∈ (normalizeHost (trim host)).toList) : c.isUpper = false := by
  rw [toList_normalizeHost, List.mem_map] at hc
  rcases hc with ⟨raw, _, rfl⟩
  exact isUpper_toLower raw

/-- A host does not begin with white space once it is trimmed. -/
lemma isWhitespace_of_head?_normalizeHost {c : Char}
    (hc : (normalizeHost (trim host)).toList.head? = some c) : isWhitespace c = false := by
  rw [toList_normalizeHost, List.head?_map, Option.map_eq_some_iff] at hc
  rcases hc with ⟨first, hfirst, rfl⟩
  rw [isWhitespace_toLower]
  rcases bareHost_prefix host with ⟨rest, hrest⟩
  cases hbare : bareHost host with
  | nil =>
      rw [hbare] at hfirst
      cases hfirst
  | cons head tail =>
      rw [hbare, List.head?_cons, Option.some.injEq] at hfirst
      rw [hbare, List.cons_append] at hrest
      rw [← hfirst]
      exact isWhitespace_of_trimChars_cons hrest.symm

/-- **The host of the evidence is canonical exactly when it settles.** -/
lemma canonicalHost_normalizeHost_iff :
    CanonicalHost (normalizeHost (trim host)) ↔ Settles host := by
  constructor
  · intro hcanonical
    have hne : bareHost host ≠ [] := by
      intro hnil
      refine hcanonical.nonempty ?_
      rw [normalizeHost_trim, hnil]
      rfl
    refine ⟨_, List.getLast?_eq_some_getLast hne, ?_⟩
    rw [← isWhitespace_toLower]
    refine (trimChars_eq_self_iff.mp (trim_eq_self_iff.mp hcanonical.trimmed)).2 _ ?_
    rw [toList_normalizeHost, List.getLast?_map, List.getLast?_eq_some_getLast hne]
    rfl
  · rintro ⟨last, hlast, hwhite⟩
    refine ⟨?_, ?_, fun c => ne_dot_of_getLast?_normalizeHost,
      fun c => isUpper_of_mem_normalizeHost⟩
    · rw [trim_eq_self_iff, trimChars_eq_self_iff]
      refine ⟨fun c => isWhitespace_of_head?_normalizeHost, ?_⟩
      intro c hc
      rw [toList_normalizeHost, List.getLast?_map, hlast, Option.map_some, Option.some.injEq] at hc
      rw [← hc, isWhitespace_toLower]
      exact hwhite
    · intro hempty
      have hnil : (bareHost host).map Char.toLower = [] := by
        rw [← toList_normalizeHost, hempty]
        rfl
      rw [List.map_eq_nil_iff] at hnil
      rw [hnil] at hlast
      cases hlast

end Hosts

/-! ## Observations -/

/-- **What normalising an observation is meant to establish**: normalising the result again does not
change it, its hosts are canonical, and one host is spelled in one way. -/
structure Normal (printer result : DiscoveredPrinter) : Prop where
  idempotent : normalizePrinter result = .ok result
  connection : ∀ host port, result.connection = .network host port → CanonicalHost host
  fingerprint : ∀ host, result.fingerprint.host = some host → CanonicalHost host
  agree : ∀ host port, printer.connection = .network host port →
    printer.fingerprint.host = some host →
    ∃ spelling, result.connection = .network spelling port ∧
      result.fingerprint.host = some spelling

/-- Evidence without a host, with a blank one, or with one that settles. -/
def HostSettles (fingerprint : PrinterFingerprint) : Prop :=
  ∀ host, fingerprint.host = some host → trim host ≠ "" → Settles host

section Normal

variable {printer result : DiscoveredPrinter} {connection : PrinterConnection}
  {fingerprint : PrinterFingerprint} {value : Option String} {text : String}

lemma trimmed_some (hne : trim text ≠ "") : trimmed (some text) = some (trim text) := by
  simp [trimmed, hne]

lemma trimmed_blank (hblank : trim text = "") : trimmed (some text) = none := by
  simp [trimmed, hblank]

lemma trimmed_trimmed : trimmed (trimmed value) = trimmed value := by
  cases value with
  | none => rfl
  | some text =>
      by_cases hblank : trim text = ""
      · rw [trimmed_blank hblank]
        rfl
      · rw [trimmed_some hblank, trimmed_some (by rwa [trim_trim]), trim_trim]

lemma trim_of_validateText {field : String} {maximum : ℕ}
    (hvalid : validateText field text maximum = .ok ()) : trim text = text ∧ text ≠ "" := by
  rw [validateText] at hvalid
  split_ifs at hvalid with hbad
  rw [not_or, not_not] at hbad
  rcases hbad with ⟨hblank, htrim⟩
  rw [htrim, String.isEmpty_iff] at hblank
  exact ⟨htrim, hblank⟩

/-- The check of a connection sees to what the dots at the end of its host leave. -/
lemma canonicalHost_of_validate {host : String} {port : UInt16}
    (hvalid : (normalizeConnection (.network host port)).validate = .ok ()) :
    CanonicalHost (normalizeHost (trim host)) := by
  rw [normalizeConnection, PrinterConnection.validate, Result.bind_eq_ok] at hvalid
  rcases hvalid with ⟨_, htext, _⟩
  rcases trim_of_validateText htext with ⟨htrim, hne⟩
  exact ⟨htrim, hne, fun c => ne_dot_of_getLast?_normalizeHost,
    fun c => isUpper_of_mem_normalizeHost⟩

lemma normalizeConnection_normalizeConnection
    (hvalid : (normalizeConnection connection).validate = .ok ()) :
    normalizeConnection (normalizeConnection connection) = normalizeConnection connection := by
  cases connection with
  | systemQueue queueName => simp only [normalizeConnection, trim_trim]
  | network host port =>
      have hcanonical := canonicalHost_of_validate hvalid
      simp only [normalizeConnection, hcanonical.normalizeHost_eq]
  | usb vendorId productId serialNumber => simp only [normalizeConnection, trimmed_trimmed]
  | virtual printerId => simp only [normalizeConnection, trim_trim]

/-- The host of normalised evidence. -/
lemma host_normalizeFingerprint {host : String} (hhost : fingerprint.host = some host)
    (hne : trim host ≠ "") :
    (normalizeFingerprint fingerprint).host = some (normalizeHost (trim host)) := by
  rw [normalizeFingerprint]
  simp only [hhost, trimmed_some hne, Option.map_some]

lemma host_normalizeFingerprint_cases {spelling : String}
    (hspelling : (normalizeFingerprint fingerprint).host = some spelling) :
    ∃ host, fingerprint.host = some host ∧ trim host ≠ "" ∧
      spelling = normalizeHost (trim host) := by
  cases hhost : fingerprint.host with
  | none => simp [normalizeFingerprint, hhost] at hspelling
  | some host =>
      by_cases hblank : trim host = ""
      · simp [normalizeFingerprint, hhost, trimmed_blank hblank] at hspelling
      · rw [host_normalizeFingerprint hhost hblank, Option.some.injEq] at hspelling
        exact ⟨host, rfl, hblank, hspelling.symm⟩

lemma normalizeFingerprint_normalizeFingerprint (hsettles : HostSettles fingerprint) :
    normalizeFingerprint (normalizeFingerprint fingerprint) =
      normalizeFingerprint fingerprint := by
  have hhost : (trimmed (normalizeFingerprint fingerprint).host).map normalizeHost =
      (normalizeFingerprint fingerprint).host := by
    cases hspelling : (normalizeFingerprint fingerprint).host with
    | none => rfl
    | some spelling =>
        rcases host_normalizeFingerprint_cases hspelling with ⟨host, hfound, hne, rfl⟩
        have hcanonical := canonicalHost_normalizeHost_iff.mpr (hsettles host hfound hne)
        rw [trimmed_some (by rw [hcanonical.trimmed]; exact hcanonical.nonempty), Option.map_some,
          hcanonical.normalizeHost_eq]
  conv_lhs => rw [normalizeFingerprint, hhost]
  simp only [normalizeFingerprint, trimmed_trimmed]

/-- Records that are sorted and told apart stay as they are. -/
lemma providers_normalized_normalized (printer : DiscoveredPrinter) :
    (normalized (normalized printer)).providers = (normalized printer).providers := by
  simp only [normalized]
  rw [isOrder_providerLe.mergeSort_destutter, List.destutter_idem]

lemma normalized_normalized
    (hvalid : (normalizeConnection printer.connection).validate = .ok ())
    (hsettles : HostSettles printer.fingerprint) :
    normalized (normalized printer) = normalized printer := by
  have hproviders := providers_normalized_normalized printer
  simp only [normalized] at hproviders ⊢
  rw [hproviders, trim_trim, normalizeConnection_normalizeConnection hvalid,
    normalizeFingerprint_normalizeFingerprint hsettles]

/-- **What is accepted is normal exactly when the host of its evidence settles.** -/
theorem normal_iff (haccepted : normalizePrinter printer = .ok result) :
    Normal printer result ↔ HostSettles printer.fingerprint := by
  rcases checked_of_normalizePrinter haccepted with ⟨rfl, hchecked⟩
  have hconnection : (normalizeConnection printer.connection).validate = .ok () :=
    hchecked.connection
  constructor
  · intro hnormal host hhost hne
    have hcanonical := hnormal.fingerprint _ (host_normalizeFingerprint hhost hne)
    exact canonicalHost_normalizeHost_iff.mp hcanonical
  · intro hsettles
    refine ⟨?_, ?_, ?_, ?_⟩
    · rw [normalizePrinter, Result.bind_eq_ok] at haccepted
      rcases haccepted with ⟨_, hvalidate, _⟩
      rw [normalizePrinter, normalized_normalized hconnection hsettles, hvalidate]
      rfl
    · intro spelling port hspelling
      cases hkind : printer.connection with
      | network host found =>
          rw [hkind] at hconnection
          simp only [normalized, hkind, normalizeConnection, PrinterConnection.network.injEq]
            at hspelling
          rw [← hspelling.1]
          exact canonicalHost_of_validate hconnection
      | systemQueue queueName => simp [normalized, hkind, normalizeConnection] at hspelling
      | usb vendorId productId serial => simp [normalized, hkind, normalizeConnection] at hspelling
      | virtual printerId => simp [normalized, hkind, normalizeConnection] at hspelling
    · intro spelling hspelling
      rcases host_normalizeFingerprint_cases hspelling with ⟨host, hhost, hne, rfl⟩
      exact canonicalHost_normalizeHost_iff.mpr (hsettles host hhost hne)
    · intro host port hnetwork hhost
      rw [hnetwork] at hconnection
      have hcanonical := canonicalHost_of_validate hconnection
      have hne : trim host ≠ "" := by
        intro hblank
        refine hcanonical.nonempty ?_
        rw [hblank]
        rfl
      refine ⟨normalizeHost (trim host), ?_, host_normalizeFingerprint hhost hne⟩
      simp only [normalized, hnetwork, normalizeConnection]

end Normal

/-- A printer at an address, and the host that a provider reports for it. -/
def reportedHost (host : String) : DiscoveredPrinter where
  id := none
  name := "Counter"
  kind := .receipt
  connection := .network "counter.local" 9100
  fingerprint := { host := some host }
  availability := .unknown
  capabilities := none
  providers := [⟨"manual", none, []⟩]

lemma normal_iff_reportedHost :
    Normal (reportedHost " Counter.LOCAL. ") (reportedHost "counter.local") ↔
      HostSettles (reportedHost " Counter.LOCAL. ").fingerprint :=
  normal_iff (by decide +kernel)

/-- The dots at the end of a host hide white space, which is left when they are gone. -/
lemma dots_leave_white_space :
    ¬ ∀ printer result, normalizePrinter printer = .ok result → Normal printer result := by
  intro hclaim
  have hnormal := hclaim (reportedHost "counter. .") (reportedHost "counter. ") (by decide +kernel)
  have htrimmed := (hnormal.fingerprint "counter. " rfl).trimmed
  exact absurd htrimmed (by decide +kernel)

end Oppa.Discovery
