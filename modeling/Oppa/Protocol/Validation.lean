import Oppa.Foundation.Text

/-!
# Field validation

The checks the protocol applies to a field after strict decoding, with the path and the text of
every error.

* `ValidationError` — a failure with the dot-separated path of the field it is about.
* `validateIdentifier`, `validateString`, `validateTimestamp`, … — the checks of single fields.
* `identifier_of_valid`, `string_of_valid`, `timestamp_of_valid` — what an accepted field looks like;
  the bounds on messages are derived from these.
-/

namespace Oppa.Protocol

open Text

/-- A path-scoped semantic validation failure. -/
structure ValidationError where
  path : String
  message : String
  deriving DecidableEq, Repr

/-- `ValidationError::at`: prefixes the path of a nested failure. -/
def ValidationError.at (e : ValidationError) (parent : String) : ValidationError :=
  { e with path := if e.path.isEmpty then parent else parent ++ "." ++ e.path }

/-- How a failure is displayed. -/
def ValidationError.display (e : ValidationError) : String := e.path ++ ": " ++ e.message

/-- The result of a check. -/
abbrev Validity := Except ValidationError Unit

/-- `Err(ValidationError::new(path, message))`. -/
def refuse (path message : String) : Validity := .error { path := path, message := message }

/-- `.map_err(|error| error.at(parent))`. -/
def Validity.within (parent : String) : Validity → Validity := Except.mapError (·.at parent)

/-- Checks the items of a list in order, each under its index. -/
def validateEach {α : Type} (check : ℕ → α → Validity) : ℕ → List α → Validity
  | _, [] => .ok ()
  | index, item :: items => do
    check index item
    validateEach check (index + 1) items

/-- Characters an identifier may have after its first. -/
def isIdentifierCharacter (c : Char) : Bool :=
  isAsciiAlphanumeric c || c = '.' || c = '_' || c = ':' || c = '-'

/-- `validate_identifier` of the protocol crate. -/
def validateIdentifier (value path : String) (max : ℕ) : Validity :=
  match value.toList with
  | [] => refuse path "must not be empty"
  | first :: rest =>
    if max < utf16Length value then
      refuse path ("must contain at most " ++ toString max ++ " UTF-16 code units")
    else if isAsciiAlphanumeric first && rest.all isIdentifierCharacter then .ok ()
    else refuse path "must use the documented identifier character set"

/-- `validate_string`. -/
def validateString (value path : String) (min max : ℕ) : Validity :=
  if min ≤ utf16Length value && utf16Length value ≤ max then .ok ()
  else
    refuse path ("must contain between " ++ toString min ++ " and " ++ toString max ++
      " UTF-16 code units")

/-- `is_brand_unsafe_character`. -/
def isBrandUnsafeCharacter (c : Char) : Bool :=
  c.toNat ≤ 0x1f || (0x7f ≤ c.toNat && c.toNat ≤ 0x9f) || c.toNat = 0x61c || c.toNat = 0x200e ||
    c.toNat = 0x200f || (0x202a ≤ c.toNat && c.toNat ≤ 0x202e) ||
    (0x2066 ≤ c.toNat && c.toNat ≤ 0x2069)

/-- `is_brand_edge_whitespace`. -/
def isBrandEdgeWhitespace (c : Char) : Bool :=
  c.toNat = 0x20 || c.toNat = 0xa0 || c.toNat = 0x1680 || (0x2000 ≤ c.toNat && c.toNat ≤ 0x200a) ||
    c.toNat = 0x2028 || c.toNat = 0x2029 || c.toNat = 0x202f || c.toNat = 0x205f ||
    c.toNat = 0x3000 || c.toNat = 0xfeff

/-- `validate_brand_name`. -/
def validateBrandName (value path : String) : Validity := do
  validateString value path 1 256
  if value.toList.head?.any isBrandEdgeWhitespace || value.toList.getLast?.any isBrandEdgeWhitespace ||
      value.toList.any isBrandUnsafeCharacter then
    refuse path
      "must not contain leading or trailing whitespace, control characters, or direction-formatting controls"

/-- The bytes of `str::as_bytes`. -/
def utf8Bytes (value : String) : List ℕ :=
  value.toList.flatMap fun c => (String.utf8EncodeChar c).map UInt8.toNat

/-- `u8::is_ascii_digit`. -/
def isDigitByte (byte : ℕ) : Bool := 48 ≤ byte && byte ≤ 57

/-- `number` in `valid_timestamp_ranges`. -/
def twoDigits (bytes : List ℕ) (start : ℕ) : Option ℕ := do
  let high ← bytes[start]?
  let low ← bytes[start + 1]?
  if isDigitByte high && isDigitByte low then some ((high - 48) * 10 + (low - 48)) else none

/-- `valid_timestamp_ranges`. -/
def validTimestampRanges (bytes : List ℕ) : Bool :=
  (twoDigits bytes 5).any (fun n => 1 ≤ n && n ≤ 12) &&
    (twoDigits bytes 8).any (fun n => 1 ≤ n && n ≤ 31) &&
    (twoDigits bytes 11).any (fun n => n ≤ 23) &&
    (twoDigits bytes 14).any (fun n => n ≤ 59) &&
    (twoDigits bytes 17).any (fun n => n ≤ 59)

/-- The condition of `validate_timestamp`, on bytes. -/
def isTimestampBytes (bytes : List ℕ) : Bool :=
  (bytes.length = 20 || (22 ≤ bytes.length && bytes.length ≤ 30)) &&
    bytes[4]? = some 45 && bytes[7]? = some 45 && bytes[10]? = some 84 && bytes[13]? = some 58 &&
    bytes[16]? = some 58 && bytes.getLast? = some 90 &&
    bytes.zipIdx.all (fun (byte, index) =>
      index = 4 || index = 7 || index = 10 || index = 13 || index = 16 ||
        index = bytes.length - 1 || (byte = 46 && index = 19) || isDigitByte byte) &&
    (bytes.length ≤ 20 || bytes[19]? = some 46) && validTimestampRanges bytes

/-- `validate_timestamp`. -/
def validateTimestamp (value path : String) : Validity :=
  if isTimestampBytes (utf8Bytes value) then .ok ()
  else refuse path "must be a UTC RFC 3339 timestamp ending in Z"

/-- Opaque string metadata, in key order. -/
abbrev Metadata := List (String × String)

/-- Maximum number of opaque string metadata entries carried by a job. -/
def maxMetadataEntries : ℕ := 32

/-- `validate_metadata`. -/
def validateMetadata (metadata : Metadata) (path : String) : Validity :=
  if maxMetadataEntries < metadata.length then
    refuse path ("must contain at most " ++ toString maxMetadataEntries ++ " entries")
  else
    validateEach (fun _ entry => do
      validateIdentifier entry.1 (path ++ "." ++ entry.1) 64
      validateString entry.2 (path ++ "." ++ entry.1) 0 1024) 0 metadata

/-- The condition of `validate_base64`, on bytes. -/
def isPaddedBase64 (bytes : List ℕ) : Bool :=
  let padding := (bytes.reverse.takeWhile (· = 61)).length
  let data := bytes.take (bytes.length - padding)
  4 ≤ bytes.length && bytes.length % 4 = 0 && bytes.all (· < 128) && padding ≤ 2 &&
    data.all fun byte => isDigitByte byte || (65 ≤ byte && byte ≤ 90) ||
      (97 ≤ byte && byte ≤ 122) || byte = 43 || byte = 47

/-- `validate_base64`. -/
def validateBase64 (value path : String) : Validity :=
  if isPaddedBase64 (utf8Bytes value) then .ok () else refuse path "must be padded base64"

/-- `validate_sha256`. -/
def validateSha256 (value path : String) : Validity :=
  if (utf8Bytes value).length = 64 &&
      (utf8Bytes value).all (fun byte => isDigitByte byte || (97 ≤ byte && byte ≤ 102)) then .ok ()
  else refuse path "must be 64 lowercase hexadecimal characters"

/-- The largest integer JavaScript represents exactly. -/
def maxSafeInteger : ℕ := 9007199254740991

/-- `validate_safe_integer`. -/
def validateSafeInteger (value : UInt64) (path : String) : Validity :=
  if maxSafeInteger < value.toNat then
    refuse path "must not exceed the JavaScript safe integer range"
  else .ok ()

/-! ## Sequences of checks -/

/-- Two checks in a row pass when both do. -/
@[simp] lemma andThen_eq_ok {first second : Validity} :
    (do first; second) = Except.ok () ↔ first = .ok () ∧ second = .ok () := by
  cases first <;> simp [bind, Except.bind]

@[simp] lemma within_eq_ok {parent : String} {check : Validity} :
    check.within parent = .ok () ↔ check = .ok () := by
  cases check <;> simp [Validity.within, Except.mapError]

@[simp] lemma refuse_ne_ok {path message : String} : refuse path message ≠ .ok () := by
  simp [refuse]

/-- Every item of a list that passes has passed under its index. -/
lemma validateEach_eq_ok {α : Type} {check : ℕ → α → Validity} {start : ℕ} {items : List α} :
    validateEach check start items = .ok () ↔
      ∀ index (hlt : index < items.length), check (start + index) items[index] = .ok () := by
  induction items generalizing start with
  | nil => simp [validateEach]
  | cons item items ih =>
      rw [validateEach, andThen_eq_ok, ih]
      constructor
      · rintro ⟨hhead, htail⟩ index hlt
        cases index with
        | zero => exact hhead
        | succ index =>
            have hrest := htail index (by simpa using hlt)
            rwa [add_assoc, add_comm 1] at hrest
      · intro hall
        refine ⟨hall 0 (by simp), fun index hlt => ?_⟩
        have hrest := hall (index + 1) (by simpa using hlt)
        rwa [add_assoc, add_comm 1]

lemma valid_of_mem {α : Type} {check : ℕ → α → Validity} {start : ℕ} {items : List α} {item : α}
    (hvalid : validateEach check start items = .ok ()) (hmem : item ∈ items) :
    ∃ index, check index item = .ok () := by
  rcases List.getElem_of_mem hmem with ⟨index, hlt, rfl⟩
  exact ⟨start + index, validateEach_eq_ok.mp hvalid index hlt⟩

/-! The path of a field decides nothing. -/

lemma validateIdentifier_path {value path : String} {max : ℕ} (path' : String)
    (h : validateIdentifier value path max = .ok ()) :
    validateIdentifier value path' max = .ok () := by
  unfold validateIdentifier at h ⊢
  split at h
  · simp at h
  · split_ifs at h ⊢ <;> simp_all

lemma validateString_path {value path : String} {min max : ℕ} (path' : String)
    (h : validateString value path min max = .ok ()) :
    validateString value path' min max = .ok () := by
  unfold validateString at h ⊢
  split_ifs at h ⊢ <;> simp_all

lemma validateTimestamp_path {value path : String} (path' : String)
    (h : validateTimestamp value path = .ok ()) : validateTimestamp value path' = .ok () := by
  unfold validateTimestamp at h ⊢
  split_ifs at h ⊢ <;> simp_all

/-! ## What an accepted field looks like -/

lemma isAsciiAlphanumeric_lt {c : Char} (h : isAsciiAlphanumeric c = true) :
    0x20 < c.toNat ∧ c.toNat < 0x7f := by
  simp only [isAsciiAlphanumeric, Bool.or_eq_true, Bool.and_eq_true, decide_eq_true_eq] at h
  omega

lemma isIdentifierCharacter_lt {c : Char} (h : isIdentifierCharacter c = true) :
    0x20 < c.toNat ∧ c.toNat < 0x7f := by
  simp only [isIdentifierCharacter, Bool.or_eq_true, decide_eq_true_eq] at h
  rcases h with (((h | rfl) | rfl) | rfl) | rfl
  · exact isAsciiAlphanumeric_lt h
  · decide
  · decide
  · decide
  · decide

/-- An accepted identifier is a non-empty, bounded string of printable ASCII without blanks. -/
lemma identifier_of_valid {value path : String} {max : ℕ}
    (h : validateIdentifier value path max = .ok ()) :
    value.toList ≠ [] ∧ utf16Length value ≤ max ∧
      ∀ c ∈ value.toList, 0x20 < c.toNat ∧ c.toNat < 0x7f := by
  unfold validateIdentifier at h
  split at h
  · cases h
  · rename_i first rest hvalue
    split at h
    · cases h
    · rename_i hlong
      split at h
      · rename_i hchars
        rw [Bool.and_eq_true, List.all_eq_true] at hchars
        refine ⟨by simp [hvalue], not_lt.mp hlong, fun c hc => ?_⟩
        rw [hvalue, List.mem_cons] at hc
        rcases hc with rfl | hc
        · exact isAsciiAlphanumeric_lt hchars.1
        · exact isIdentifierCharacter_lt (hchars.2 c hc)
      · cases h

/-- A text of identifier characters is an identifier, unless it is too long. -/
lemma validateIdentifier_of_characters {value path : String} {max : ℕ}
    (hfirst : value.toList.head?.any isAsciiAlphanumeric = true)
    (hcharacters : ∀ c ∈ value.toList, isIdentifierCharacter c = true)
    (hlength : value.toList.length ≤ max) : validateIdentifier value path max = .ok () := by
  have hascii : utf16Length value = value.toList.length := by
    refine utf16Length_of_ascii fun c hc => ?_
    have hlt := isIdentifierCharacter_lt (hcharacters c hc)
    omega
  rw [validateIdentifier]
  split
  · rename_i hnil
    rw [hnil] at hfirst
    cases hfirst
  · rename_i first rest hvalue
    rw [hvalue] at hfirst hcharacters
    rw [List.forall_mem_cons] at hcharacters
    have hrest : rest.all isIdentifierCharacter = true := List.all_eq_true.mpr hcharacters.2
    have halphanumeric : isAsciiAlphanumeric first = true := by simpa using hfirst
    rw [if_neg (by omega), if_pos (by rw [halphanumeric, hrest]; rfl)]

lemma string_of_valid {value path : String} {min max : ℕ}
    (h : validateString value path min max = .ok ()) :
    min ≤ utf16Length value ∧ utf16Length value ≤ max := by
  unfold validateString at h
  split at h
  · rename_i hlen
    simpa using hlen
  · cases h

lemma length_utf8Bytes (value : String) : (utf8Bytes value).length = value.utf8ByteSize := by
  rw [utf8ByteSize_eq_sum, utf8Bytes, List.length_flatMap]
  congr 1
  refine List.map_congr_left fun c _ => ?_
  simp

lemma timestamp_of_valid {value path : String} (h : validateTimestamp value path = .ok ()) :
    value.utf8ByteSize ≤ 30 := by
  unfold validateTimestamp at h
  split at h
  · rename_i hbytes
    rw [← length_utf8Bytes]
    simp only [isTimestampBytes, Bool.and_eq_true, Bool.or_eq_true, decide_eq_true_eq] at hbytes
    omega
  · cases h

end Oppa.Protocol
