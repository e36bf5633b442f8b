import Oppa.Protocol.Message

/-!
# Encoding messages

What is put on the wire of a message.

* `encodeAgentMessage` — a message that is valid, as text that is not too long.
* `encodeAgentMessage_isOk` — when that is so.
* `weight_descriptor_le` — how long the description of a printer can be.
-/

namespace Oppa.Protocol

/-- A message that could not be encoded or decoded. -/
inductive ProtocolError
  | invalidMessage (e : ValidationError)
  | messageTooLarge (actual limit : ℕ)
  deriving DecidableEq, Repr

/-- `enforce_size`. -/
def enforceSize (actual : ℕ) : Except ProtocolError Unit :=
  if maxWireMessageBytes < actual then .error (.messageTooLarge actual maxWireMessageBytes)
  else .ok ()

/-- `encode_agent_message`. -/
def encodeAgentMessage (message : AgentMessage) : Except ProtocolError String := do
  message.validate.mapError .invalidMessage
  enforceSize message.toValue.toString.utf8ByteSize
  pure message.toValue.toString

/-- **A message is encoded when it is valid and fits the wire.** -/
theorem encodeAgentMessage_isOk {message : AgentMessage} :
    (∃ text, encodeAgentMessage message = .ok text) ↔
      message.validate = .ok () ∧ message.toValue.toString.utf8ByteSize ≤ maxWireMessageBytes := by
  rw [encodeAgentMessage]
  cases message.validate with
  | error e => simp [Except.mapError, bind, Except.bind]
  | ok u =>
      simp only [Except.mapError, bind, Except.bind, enforceSize, true_and]
      split_ifs with hsize
      · simp [hsize]
      · simp [not_lt.mp hsize, pure, Except.pure]

/-! ## How long a description is -/

section Descriptors

open Json Json.Value Text

lemma weightItems_le {α : Type} {toValue : α → Value} {most : ℕ} {items : List α}
    (hmost : ∀ item ∈ items, weight (toValue item) ≤ most) :
    weightItems (items.map toValue) ≤ (1 + most) * items.length := by
  induction items with
  | nil => simp [weightItems]
  | cons item items ih =>
      rw [List.forall_mem_cons] at hmost
      have hitems := ih hmost.2
      have hitem := hmost.1
      rw [List.map_cons, weightItems, List.length_cons, Nat.mul_succ]
      omega

lemma weight_optionalMember_le {key : String} {value : Option Value} {most : ℕ}
    (hmost : ∀ found ∈ value, weight found ≤ most) :
    weightMembers (optionalMember key value) ≤ 4 + 6 * utf16Length key + most := by
  cases value with
  | none => simp [optionalMember, weightMembers]
  | some found =>
      have hfound := hmost found rfl
      simp only [optionalMember, Option.map_some, Option.toList_some, weightMembers]
      omega

lemma weight_bool (b : Bool) : weight (.bool b) = 5 := rfl

lemma weight_number_le {n digits : ℕ} (hdigits : n < 10 ^ digits) (hpos : 0 < digits) :
    weight (.number n) ≤ 4 * digits := by
  have hlength : (Nat.toDigits 10 n).length ≤ digits :=
    (Nat.length_toDigits_le_iff (by decide) hpos).mpr hdigits
  have hsum : ∀ cs : List Char, (cs.map Char.utf8Size).sum ≤ 4 * cs.length := by
    intro cs
    induction cs with
    | nil => simp
    | cons c cs ih =>
        have hc := Char.utf8Size_le_four c
        rw [List.map_cons, List.sum_cons, List.length_cons]
        omega
  have htext : weight (.number n) = ((Nat.toDigits 10 n).map Char.utf8Size).sum := by
    rw [weight, utf8ByteSize_eq_sum]
    show ((n.repr.toList).map Char.utf8Size).sum = _
    rw [Nat.toList_repr]
  have hall := hsum (Nat.toDigits 10 n)
  omega

/-- Members whose keys and values are short. -/
lemma weightMembers_le {key most : ℕ} {members : List (String × Value)}
    (hkeys : ∀ found ∈ members.map Prod.fst, utf16Length found ≤ key)
    (hvalues : ∀ value ∈ members.map Prod.snd, weight value ≤ most) :
    weightMembers members ≤ (4 + 6 * key + most) * members.length := by
  induction members with
  | nil => simp [weightMembers]
  | cons member members ih =>
      rw [List.map_cons, List.forall_mem_cons] at hkeys hvalues
      have hrest := ih hkeys.2 hvalues.2
      have hkey := hkeys.1
      have hvalue := hvalues.1
      rw [weightMembers, List.length_cons, Nat.mul_succ]
      omega

lemma weight_printOptions_le (options : PrintOptionsCapability) :
    weight options.toValue ≤ 500 := by
  have hkeys : ∀ key ∈ ["copies", "duplex", "orientation", "pageRanges", "scaling"],
      utf16Length key ≤ 15 := by decide
  have hvalues : ∀ value ∈ [options.copies, options.duplex, options.orientation,
      options.pageRanges, options.scaling].map Value.bool, weight value ≤ 5 := by
    intro value hvalue
    rcases List.mem_map.mp hvalue with ⟨b, _, rfl⟩
    exact le_of_eq (weight_bool b)
  have hmembers : weightMembers [("copies", .bool options.copies), ("duplex", .bool options.duplex),
      ("orientation", .bool options.orientation), ("pageRanges", .bool options.pageRanges),
      ("scaling", .bool options.scaling)] ≤ (4 + 6 * 15 + 5) * 5 := weightMembers_le hkeys hvalues
  rw [PrintOptionsCapability.toValue, weight]
  omega

lemma length_le_of_validatePair {α : Type} [DecidableEq α] {path bounds duplicates : String}
    {items : List α}
    (hvalid : PrinterCapabilities.validatePair path bounds duplicates items = .ok ()) :
    items.length ≤ 2 := by
  rw [PrinterCapabilities.validatePair] at hvalid
  by_contra hlong
  rw [if_pos] at hvalid
  · exact refuse_ne_ok hvalid
  · rw [Bool.or_eq_true, decide_eq_true_eq]
    exact .inr (not_le.mp hlong)

/-- What the lists of valid capabilities are bounded by. -/
lemma lengths_of_capabilities {capabilities : PrinterCapabilities}
    (hvalid : capabilities.validate = .ok ()) :
    capabilities.mediaWidths.length ≤ 2 ∧
      (∀ formats ∈ capabilities.documentFormats, formats.length ≤ 2) ∧
      ∀ sizes ∈ capabilities.paperSizes, sizes.length ≤ 4 := by
  simp only [PrinterCapabilities.validate, andThen_eq_ok] at hvalid
  rcases hvalid with ⟨hwidths, hformats, hsizes⟩
  refine ⟨length_le_of_validatePair hwidths, ?_, ?_⟩
  · intro formats hmem
    rw [Option.mem_def.mp hmem] at hformats
    exact length_le_of_validatePair hformats
  · intro sizes hmem
    rw [Option.mem_def.mp hmem, validateOptional] at hsizes
    by_contra hlong
    rw [if_pos (not_le.mp hlong)] at hsizes
    exact refuse_ne_ok hsizes

lemma weight_names_le {α : Type} {name : α → String} (most : ℕ) {length : ℕ} {items : List α}
    (hname : ∀ item, utf16Length (name item) ≤ most) (hlength : items.length ≤ length) :
    weight (.array (items.map fun item => .string (name item))) ≤
      2 + (3 + 6 * most) * length := by
  have hitem : ∀ item ∈ items, weight (.string (name item)) ≤ 2 + 6 * most := by
    intro item _
    have hitem := hname item
    rw [weight]
    omega
  have hitems := weightItems_le hitem
  have hmore : (1 + (2 + 6 * most)) * items.length ≤ (3 + 6 * most) * length := by
    rw [← add_assoc]
    exact Nat.mul_le_mul_left _ hlength
  rw [weight]
  omega

lemma weight_capabilities_le {capabilities : PrinterCapabilities}
    (hvalid : capabilities.validate = .ok ()) : weight capabilities.toValue ≤ 1900 := by
  rcases lengths_of_capabilities hvalid with ⟨hwidths, hformats, hsizes⟩
  have hkeys : ∀ key ∈ ["barcode", "customPaperSize", "cut", "documentFormats", "escPos",
      "mediaWidths", "paperSizes", "printOptions", "qr", "raster", "systemDriver"],
      utf16Length key ≤ 15 := by decide
  simp only [List.forall_mem_cons] at hkeys
  rcases hkeys with ⟨h1, h2, h3, h4, h5, h6, h7, h8, h9, h10, h11, _⟩
  have hbool : ∀ {key : String} {flag : Option Bool}, utf16Length key ≤ 15 →
      weightMembers (optionalMember key (flag.map .bool)) ≤ 4 + 6 * 15 + 5 := by
    intro key flag hkey
    have hmember : weightMembers (optionalMember key (flag.map .bool)) ≤
        4 + 6 * utf16Length key + 5 := by
      refine weight_optionalMember_le ?_
      intro value hvalue
      rcases Option.map_eq_some_iff.mp hvalue with ⟨b, _, rfl⟩
      exact le_of_eq (weight_bool b)
    omega
  have hpaper : weightMembers (optionalMember "customPaperSize"
      (capabilities.customPaperSize.map .bool)) ≤ 4 + 6 * 15 + 5 := hbool h2
  have hescPos : weightMembers (optionalMember "escPos" (capabilities.escPos.map .bool)) ≤
      4 + 6 * 15 + 5 := hbool h5
  have hdriver : weightMembers (optionalMember "systemDriver"
      (capabilities.systemDriver.map .bool)) ≤ 4 + 6 * 15 + 5 := hbool h11
  have hformat : weightMembers (optionalMember "documentFormats"
      (capabilities.documentFormats.map fun formats =>
        .array (formats.map fun format => .string format.name))) ≤
      4 + 6 * utf16Length "documentFormats" + (2 + (3 + 6 * 7) * 2) := by
    refine weight_optionalMember_le ?_
    intro value hvalue
    rcases Option.map_eq_some_iff.mp hvalue with ⟨formats, hmem, rfl⟩
    refine weight_names_le 7 ?_ (hformats formats hmem)
    intro format
    cases format <;> decide
  have hsize : weightMembers (optionalMember "paperSizes"
      (capabilities.paperSizes.map fun sizes =>
        .array (sizes.map fun size => .string size.name))) ≤
      4 + 6 * utf16Length "paperSizes" + (2 + (3 + 6 * 6) * 4) := by
    refine weight_optionalMember_le ?_
    intro value hvalue
    rcases Option.map_eq_some_iff.mp hvalue with ⟨sizes, hmem, rfl⟩
    refine weight_names_le 6 ?_ (hsizes sizes hmem)
    intro size
    cases size <;> decide
  have hoptions : weightMembers (optionalMember "printOptions"
      (capabilities.printOptions.map PrintOptionsCapability.toValue)) ≤
      4 + 6 * utf16Length "printOptions" + 500 := by
    refine weight_optionalMember_le ?_
    intro value hvalue
    rcases Option.map_eq_some_iff.mp hvalue with ⟨options, _, rfl⟩
    exact weight_printOptions_le options
  have hwidth : weight (.array (capabilities.mediaWidths.map fun width =>
      .number width.millimetres)) ≤ 2 + (1 + 4 * 2) * 2 := by
    have hnumber : ∀ width ∈ capabilities.mediaWidths,
        weight (.number width.millimetres) ≤ 4 * 2 := by
      intro width _
      refine weight_number_le ?_ (by decide)
      cases width <;> decide
    have hnumbers := weightItems_le hnumber
    have hmore : (1 + 4 * 2) * capabilities.mediaWidths.length ≤ (1 + 4 * 2) * 2 :=
      Nat.mul_le_mul_left _ hwidths
    rw [weight]
    omega
  rw [PrinterCapabilities.toValue, weight]
  simp only [weightMembers_append, weightMembers, weight_bool]
  omega

lemma weight_connection_le {connection : PrinterConnection}
    (hvalid : connection.validate = .ok ()) : weight connection.toValue ≤ 2000 := by
  have hkeys : ∀ text ∈ ["host", "port", "systemName", "type", "system", "tcp", "virtual"],
      utf16Length text ≤ 15 := by decide
  simp only [List.forall_mem_cons] at hkeys
  rcases hkeys with ⟨h1, h2, h3, h4, h5, h6, h7, _⟩
  cases connection with
  | system systemName =>
      have hname := (string_of_valid hvalid).2
      simp only [PrinterConnection.toValue, weight, weightMembers]
      omega
  | tcp host port =>
      simp only [PrinterConnection.validate, andThen_eq_ok] at hvalid
      have hhost := (string_of_valid hvalid.1).2
      have hport : weight (.number port.toNat) ≤ 4 * 5 :=
        weight_number_le (by have := port.toNat_lt; omega) (by decide)
      simp only [PrinterConnection.toValue, weight, weightMembers] at hport ⊢
      omega
  | virtual =>
      simp only [PrinterConnection.toValue, weight, weightMembers]
      omega

/-- **The description of a valid printer is short.** -/
theorem weight_descriptor_le {printer : PrinterDescriptor} (hvalid : printer.validate = .ok ()) :
    weight printer.toValue ≤ 9000 := by
  simp only [PrinterDescriptor.validate, andThen_eq_ok, within_eq_ok] at hvalid
  rcases hvalid with ⟨hid, hfingerprint, hname, hconnection, hcapabilities, _⟩
  replace hid := (identifier_of_valid hid).2.1
  replace hfingerprint := (string_of_valid hfingerprint).2
  replace hname := (string_of_valid hname).2
  replace hconnection := weight_connection_le hconnection
  have hkeys : ∀ key ∈ ["availability", "capabilities", "connection", "enabled", "fingerprint",
      "id", "kind", "name"], utf16Length key ≤ 15 := by decide
  simp only [List.forall_mem_cons] at hkeys
  rcases hkeys with ⟨h1, h2, h3, h4, h5, h6, h7, h8, _⟩
  have havailability : utf16Length printer.availability.name ≤ 7 := by
    cases printer.availability <;> decide
  have hkind : utf16Length printer.kind.name ≤ 7 := by
    cases printer.kind <;> decide
  have hmember : weightMembers (optionalMember "capabilities"
      (printer.capabilities.map PrinterCapabilities.toValue)) ≤
      4 + 6 * utf16Length "capabilities" + 1900 := by
    refine weight_optionalMember_le ?_
    intro value hvalue
    rcases Option.map_eq_some_iff.mp hvalue with ⟨capabilities, hmem, rfl⟩
    rw [hmem, validateOptional, within_eq_ok] at hcapabilities
    exact weight_capabilities_le hcapabilities
  rw [PrinterDescriptor.toValue, weight]
  simp only [weightMembers_append, weightMembers, weight]
  omega

end Descriptors

end Oppa.Protocol
