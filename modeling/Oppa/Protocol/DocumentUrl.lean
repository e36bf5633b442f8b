import Oppa.Foundation.TextRegex
import Oppa.Protocol.PageRanges

/-!
# The URLs of documents

Where the agent may retrieve a document from, as the TypeScript package checks it by a pattern and
the Rust crate in several passes.

* `DocumentUrl` — the URLs that both mean to accept, by their parts.
* `Schema.isValidDocumentUrl` — the check of the TypeScript package.
* `isValidDocumentUrl_iff` — it accepts these URLs, up to a number of code units.
* `validateDocumentUrl_iff` — the Rust crate accepts them up to a number of bytes, but no query
  right after a host without port.

**`documentUrls_agree_iff`** says for which strings the two agree and nothing unsafe is accepted.
-/

namespace Oppa.Protocol

open Text Utf16 Result

/-! ## The check of the TypeScript package -/

namespace Schema

/-- `[A-Za-z0-9.-]`. -/
def isHostUnit (u : UInt16) : Bool := isAlphanumeric u || u.toNat = 0x2e || u.toNat = 0x2d

/-- `[^ #\u0000-\u001F\u007F]`. -/
def isTailUnit (u : UInt16) : Bool :=
  !(u.toNat = 0x20 || u.toNat = 0x23 || within 0 0x1f u || u.toNat = 0x7f)

/-- `(?::[0-9]{1,5})?`. -/
def portPattern : Regex UInt16 := .optional (.seq (character ':') (digit.between 1 5))

/-- `https://[A-Za-z0-9.-]+(?::[0-9]{1,5})?`. -/
def securePattern : Regex UInt16 :=
  .seq (.literal (encode "https://".toList))
    (.seq (.seq (.letter isHostUnit) (.star (.letter isHostUnit))) portPattern)

/-- `http://(?:localhost|127\.0\.0\.1)(?::[0-9]{1,5})?`. -/
def loopbackPattern : Regex UInt16 :=
  .seq (.literal (encode "http://".toList))
    (.seq (.alt (.literal (encode "localhost".toList)) (.literal (encode "127.0.0.1".toList)))
      portPattern)

/-- `(?:[/?][^ #\u0000-\u001F\u007F]*)?`. -/
def tailPattern : Regex UInt16 :=
  .optional (.seq (.letter fun u => u == unit '/' || u == unit '?') (.star (.letter isTailUnit)))

/-- The pattern of `isValidDocumentUrl`. -/
def documentUrlPattern : Regex UInt16 := .seq (.alt securePattern loopbackPattern) tailPattern

/-- `MAX_PDF_URL_BYTES`. -/
def maxPdfUrlBytes : ℕ := 2048

/-- `isValidDocumentUrl`. -/
def isValidDocumentUrl (value : List UInt16) : Bool :=
  if maxPdfUrlBytes < value.length then false else documentUrlPattern.test value

end Schema

/-! ## The URLs -/

/-- `[A-Za-z0-9.-]`, for characters. -/
def isHostCharacter (c : Char) : Bool := isAsciiAlphanumeric c || c = '-' || c = '.'

/-- Anything but the blank, the number sign and the control characters of ASCII. -/
def isTailCharacter (c : Char) : Bool := !(c.toNat ≤ 32 || c.toNat = 127 || c.toNat = 35)

/-- A host that stands for this machine. -/
def IsLoopback (host : List Char) : Prop := host = "localhost".toList ∨ host = "127.0.0.1".toList

instance (host : List Char) : Decidable (IsLoopback host) :=
  inferInstanceAs (Decidable (_ ∨ _))

/-- A path or a query, or nothing. -/
def IsTail (tail : List Char) : Prop :=
  tail = [] ∨ ∃ c rest, tail = c :: rest ∧ (c = '/' ∨ c = '?') ∧
    ∀ d ∈ rest, isTailCharacter d = true

/-- **A URL that a document may be retrieved from**: over TLS from any plain host, or from this
machine.  There is no port if there are no digits. -/
structure DocumentUrl where
  secure : Bool
  host : List Char
  port : List Char
  tail : List Char
  hostValid : if secure then host ≠ [] ∧ ∀ c ∈ host, isHostCharacter c = true else IsLoopback host
  portShort : port.length ≤ 5
  portDigits : ∀ c ∈ port, c.isDigit = true
  tailValid : IsTail tail

namespace DocumentUrl

/-- The scheme with what follows it. -/
def scheme (secure : Bool) : List Char :=
  if secure then "https://".toList else "http://".toList

/-- The port with its colon. -/
def portText (port : List Char) : List Char := if port = [] then [] else ':' :: port

/-- The URL as it is written. -/
def text (url : DocumentUrl) : List Char :=
  scheme url.secure ++ (url.host ++ (portText url.port ++ url.tail))

/-- A query right after the host of an unprotected URL. -/
def QueryAtHost (url : DocumentUrl) : Prop :=
  url.secure = false ∧ url.port = [] ∧ url.tail.head? = some '?'

lemma isHostCharacter_of_isLoopback {host : List Char} (h : IsLoopback host) :
    host ≠ [] ∧ ∀ c ∈ host, isHostCharacter c = true := by
  rw [← List.all_eq_true]
  rcases h with rfl | rfl <;> decide

/-- Whatever the scheme, the host is made of the same characters. -/
lemma host_valid (url : DocumentUrl) :
    url.host ≠ [] ∧ ∀ c ∈ url.host, isHostCharacter c = true := by
  have hvalid := url.hostValid
  split_ifs at hvalid with hsecure
  · exact hvalid
  · exact isHostCharacter_of_isLoopback hvalid

end DocumentUrl

/-! ## What the pattern describes -/

lemma hostClass : Utf16.Class Schema.isHostUnit isHostCharacter false where
  ascii c hc := by
    have hunit := toNat_unit (c := c) (by omega)
    simp only [Schema.isHostUnit, isHostCharacter, Schema.isAlphanumeric, isAsciiAlphanumeric,
      Schema.within, hunit, ← Char.toNat_inj]
    rw [Bool.eq_iff_iff]
    simp
    omega
  unit u hu := by
    rw [← Bool.not_eq_true]
    simp [Schema.isHostUnit, Schema.isAlphanumeric, Schema.within]
    omega
  char c hc := by
    rw [← Bool.not_eq_true]
    simp [isHostCharacter, isAsciiAlphanumeric, ← Char.toNat_inj]
    omega

lemma tailClass : Utf16.Class Schema.isTailUnit isTailCharacter true where
  ascii c hc := by
    have hunit := toNat_unit (c := c) (by omega)
    simp only [Schema.isTailUnit, isTailCharacter, Schema.within, hunit]
    rw [Bool.eq_iff_iff]
    simp
    omega
  unit u hu := by
    simp [Schema.isTailUnit, Schema.within]
    omega
  char c hc := by
    simp [isTailCharacter]
    omega

/-- What `portPattern` describes. -/
lemma describes_port : Describes Schema.portPattern
    (fun cs => ∃ port : List Char, cs = DocumentUrl.portText port ∧ port.length ≤ 5 ∧
      ∀ c ∈ port, c.isDigit = true) := by
  have hcolon : Describes (Schema.character ':') (· = [':']) := Describes.letter (by decide)
  refine ((hcolon.seq (Describes.between digitClass (by omega))).optional).congr fun cs => ?_
  constructor
  · rintro (⟨_, port, rfl, rfl, hlower, hupper, hdigits⟩ | rfl)
    · refine ⟨port, ?_, hupper, hdigits⟩
      rw [DocumentUrl.portText, if_neg (List.ne_nil_of_length_pos hlower)]
      rfl
    · exact ⟨[], rfl, by decide, by simp⟩
  · rintro ⟨port, rfl, hupper, hdigits⟩
    rw [DocumentUrl.portText]
    split_ifs with hnone
    · exact .inr rfl
    · exact .inl ⟨[':'], port, rfl, rfl, List.length_pos_of_ne_nil hnone, hupper, hdigits⟩

lemma mem_tailPattern (cs : List Char) : encode cs ∈ Schema.tailPattern.language ↔ IsTail cs := by
  rw [Schema.tailPattern, Regex.mem_optional, encode_eq_nil, Regex.mem_letter_seq, IsTail, or_comm]
  refine or_congr_right ?_
  simp only [Regex.mem_star_letter]
  constructor
  · rintro ⟨u, v, hencode, hu, hv⟩
    rw [Bool.or_eq_true, beq_iff_eq, beq_iff_eq] at hu
    rcases hu with rfl | rfl
    all_goals
      obtain ⟨rest, rfl, rfl⟩ := cons_of_encode (by decide) hencode
      rw [tailClass.all_encode, List.all_eq_true] at hv
    · exact ⟨'/', rest, rfl, .inl rfl, hv⟩
    · exact ⟨'?', rest, rfl, .inr rfl, hv⟩
  · rintro ⟨c, rest, rfl, hc, hrest⟩
    rw [← List.all_eq_true, ← tailClass.all_encode] at hrest
    rcases hc with rfl | rfl
    · exact ⟨unit '/', encode rest, rfl, by decide, hrest⟩
    · exact ⟨unit '?', encode rest, rfl, by decide, hrest⟩

lemma describes_secure : Describes Schema.securePattern (fun cs => ∃ host port : List Char,
    cs = DocumentUrl.scheme true ++ (host ++ DocumentUrl.portText port) ∧
      (host ≠ [] ∧ ∀ c ∈ host, isHostCharacter c = true) ∧ port.length ≤ 5 ∧
      ∀ c ∈ port, c.isDigit = true) := by
  refine ((Describes.literal (by decide)).seq
    ((Describes.plus hostClass).seq describes_port)).congr fun cs => ?_
  constructor
  · rintro ⟨_, _, rfl, rfl, host, _, rfl, hhost, port, rfl, hport⟩
    exact ⟨host, port, rfl, hhost, hport⟩
  · rintro ⟨host, port, rfl, hhost, hport⟩
    exact ⟨_, _, rfl, rfl, host, _, rfl, hhost, port, rfl, hport⟩

lemma describes_loopback : Describes Schema.loopbackPattern (fun cs => ∃ host port : List Char,
    cs = DocumentUrl.scheme false ++ (host ++ DocumentUrl.portText port) ∧ IsLoopback host ∧
      port.length ≤ 5 ∧ ∀ c ∈ port, c.isDigit = true) := by
  refine ((Describes.literal (by decide)).seq
    (((Describes.literal (by decide)).alt (Describes.literal (by decide))).seq
      describes_port)).congr fun cs => ?_
  constructor
  · rintro ⟨_, _, rfl, rfl, host, _, rfl, hhost, port, rfl, hport⟩
    exact ⟨host, port, rfl, hhost, hport⟩
  · rintro ⟨host, port, rfl, hhost, hport⟩
    exact ⟨_, _, rfl, rfl, host, _, rfl, hhost, port, rfl, hport⟩

/-- **The pattern describes the URLs.** -/
theorem mem_documentUrlPattern (cs : List Char) :
    encode cs ∈ Schema.documentUrlPattern.language ↔ ∃ url : DocumentUrl, url.text = cs := by
  rw [Schema.documentUrlPattern, (describes_secure.alt describes_loopback).mem_seq]
  simp only [mem_tailPattern]
  constructor
  · rintro ⟨_, tail, rfl, ⟨host, port, rfl, hhost, hshort, hdigits⟩ |
      ⟨host, port, rfl, hhost, hshort, hdigits⟩, htail⟩
    · refine ⟨⟨true, host, port, tail, hhost, hshort, hdigits, htail⟩, ?_⟩
      simp only [DocumentUrl.text, List.append_assoc]
    · refine ⟨⟨false, host, port, tail, hhost, hshort, hdigits, htail⟩, ?_⟩
      simp only [DocumentUrl.text, List.append_assoc]
  · rintro ⟨url, rfl⟩
    refine ⟨DocumentUrl.scheme url.secure ++ (url.host ++ DocumentUrl.portText url.port), url.tail,
      ?_, ?_, url.tailValid⟩
    · simp only [DocumentUrl.text, List.append_assoc]
    · have hhost := url.hostValid
      split_ifs at hhost with hsecure
      · rw [hsecure]
        exact .inl ⟨url.host, url.port, rfl, hhost, url.portShort, url.portDigits⟩
      · rw [Bool.not_eq_true] at hsecure
        rw [hsecure]
        exact .inr ⟨url.host, url.port, rfl, hhost, url.portShort, url.portDigits⟩

/-- The TypeScript package accepts the URLs up to a number of code units. -/
theorem isValidDocumentUrl_iff (value : String) :
    Schema.isValidDocumentUrl (encode value.toList) = true ↔
      (∃ url : DocumentUrl, url.text = value.toList) ∧ utf16Length value ≤ maxPdfUrlBytes := by
  rw [Schema.isValidDocumentUrl, length_encode]
  split_ifs with hlong
  · exact iff_of_false not_false fun h => absurd h.2 (Nat.not_le_of_lt hlong)
  · rw [Regex.test_iff, mem_documentUrlPattern]
    exact (and_iff_left (Nat.le_of_not_lt hlong)).symm

/-! ## What the Rust crate accepts -/

namespace DocumentUrl

lemma scheme_inj {secure secure' : Bool} {rest rest' : List Char}
    (h : scheme secure ++ rest = scheme secure' ++ rest') : secure = secure' ∧ rest = rest' := by
  cases secure <;> cases secure' <;> simp [scheme] at h ⊢ <;> exact h

/-- The characters of a host are no separators. -/
lemma ne_of_isHostCharacter {c : Char} (hc : isHostCharacter c = true) :
    c ≠ '/' ∧ c ≠ '?' ∧ c ≠ ':' ∧ c ≠ '@' := by
  refine ⟨?_, ?_, ?_, ?_⟩ <;>
    · rintro rfl
      cases hc

lemma ne_of_isDigit {c : Char} (hc : c.isDigit = true) :
    c ≠ '/' ∧ c ≠ '?' ∧ c ≠ ':' ∧ c ≠ '@' := by
  refine ⟨?_, ?_, ?_, ?_⟩ <;>
    · rintro rfl
      cases hc

/-- A path or a query, whatever its characters. -/
def BeginsTail (tail : List Char) : Prop :=
  tail = [] ∨ ∃ c rest, tail = c :: rest ∧ (c = '/' ∨ c = '?')

/-- The host and the port that `validate_document_url` reads are in order. -/
def AuthorityValid (rest : List Char) : Prop :=
  let authority := rest.takeWhile fun c => c ≠ '/' && c ≠ '?'
  let (host, port) :=
    match splitOnce ':' authority with
    | some (host, port) => (host, some port)
    | none => (authority, none)
  (!host.isEmpty && host.all fun c => isAsciiAlphanumeric c || c = '-' || c = '.') = true ∧
    (port.all fun port =>
      !port.isEmpty && (String.ofList port).utf8ByteSize ≤ 5 && port.all Char.isDigit) = true

lemma host_check {host : List Char} :
    (!host.isEmpty && host.all fun c => isAsciiAlphanumeric c || c = '-' || c = '.') = true ↔
      host ≠ [] ∧ ∀ c ∈ host, isHostCharacter c = true := by
  rw [Bool.and_eq_true, List.all_eq_true, Bool.not_eq_true', List.isEmpty_eq_false_iff]
  rfl

lemma port_check {port : List Char} :
    (!port.isEmpty && (String.ofList port).utf8ByteSize ≤ 5 && port.all Char.isDigit) = true ↔
      port ≠ [] ∧ port.length ≤ 5 ∧ ∀ c ∈ port, c.isDigit = true := by
  rw [Bool.and_eq_true, Bool.and_eq_true, List.all_eq_true, Bool.not_eq_true',
    List.isEmpty_eq_false_iff, decide_eq_true_eq, and_assoc]
  refine and_congr_right' (and_congr_left fun hdigits => ?_)
  rw [utf8ByteSize_of_ascii fun c hc => lt_of_isDigit (hdigits c hc)]

/-- The characters before a path or a query are those up to the first of its letters. -/
lemma takeWhile_authority {front tail : List Char}
    (hfront : ∀ c ∈ front, c ≠ '/' ∧ c ≠ '?') (htail : BeginsTail tail) :
    (front ++ tail).takeWhile (fun c => c ≠ '/' && c ≠ '?') = front := by
  have hall : ∀ c ∈ front, (decide (c ≠ '/') && decide (c ≠ '?')) = true := by
    intro c hc
    rw [decide_eq_true (hfront c hc).1, decide_eq_true (hfront c hc).2]
    rfl
  rw [List.takeWhile_append_of_pos hall]
  rcases htail with rfl | ⟨c, rest, rfl, rfl | rfl⟩ <;> simp

lemma mem_portText {port : List Char} {c : Char} (hc : c ∈ portText port) : c = ':' ∨ c ∈ port := by
  rw [portText] at hc
  split_ifs at hc with hnone
  · exact absurd hc List.not_mem_nil
  · exact List.mem_cons.mp hc

/-- **The authority is a host and a port**, before whatever begins a path or a query. -/
lemma authorityValid_iff {rest : List Char} : AuthorityValid rest ↔
    ∃ host port tail, rest = host ++ (portText port ++ tail) ∧
      (host ≠ [] ∧ ∀ c ∈ host, isHostCharacter c = true) ∧ port.length ≤ 5 ∧
        (∀ c ∈ port, c.isDigit = true) ∧ BeginsTail tail := by
  constructor
  · intro hvalid
    obtain ⟨authority, tail, htake, hsplit, htail⟩ : ∃ authority tail,
        rest.takeWhile (fun c => c ≠ '/' && c ≠ '?') = authority ∧ rest = authority ++ tail ∧
          BeginsTail tail := by
      refine ⟨_, rest.dropWhile fun c => c ≠ '/' && c ≠ '?', rfl,
        List.takeWhile_append_dropWhile.symm, ?_⟩
      cases hdrop : rest.dropWhile fun c : Char => c ≠ '/' && c ≠ '?' with
      | nil => exact .inl rfl
      | cons c tail =>
          have hhead := List.head?_dropWhile_not (fun c : Char => c ≠ '/' && c ≠ '?') rest
          rw [hdrop] at hhead
          refine .inr ⟨c, tail, rfl, ?_⟩
          by_contra hneither
          rw [not_or] at hneither
          simp [hneither] at hhead
    rw [AuthorityValid, htake] at hvalid
    by_cases hcolon : ':' ∈ authority
    · obtain ⟨host, port, rfl, hhost⟩ := List.eq_append_cons_of_mem hcolon
      rw [splitOnce_append hhost] at hvalid
      obtain ⟨hhostValid, hportValid⟩ := hvalid
      obtain ⟨hne, hshort, hdigits⟩ := port_check.mp hportValid
      refine ⟨host, port, tail, ?_, host_check.mp hhostValid, hshort, hdigits, htail⟩
      rw [hsplit, portText, if_neg hne, List.append_assoc, List.cons_append]
    · rw [splitOnce_eq_none hcolon] at hvalid
      refine ⟨authority, [], tail, ?_, host_check.mp hvalid.1, by decide, by simp, htail⟩
      rw [portText, if_pos rfl, List.nil_append]
      exact hsplit
  · rintro ⟨host, port, tail, rfl, hhost, hshort, hdigits, htail⟩
    have hauthority : (host ++ (portText port ++ tail)).takeWhile
        (fun c => c ≠ '/' && c ≠ '?') = host ++ portText port := by
      rw [← List.append_assoc]
      refine takeWhile_authority (fun c hc => ?_) htail
      rcases List.mem_append.mp hc with hc | hc
      · have hne := ne_of_isHostCharacter (hhost.2 c hc)
        exact ⟨hne.1, hne.2.1⟩
      · rcases mem_portText hc with rfl | hc
        · decide
        · have hne := ne_of_isDigit (hdigits c hc)
          exact ⟨hne.1, hne.2.1⟩
    have hcolon : ':' ∉ host := fun hmem => (ne_of_isHostCharacter (hhost.2 _ hmem)).2.2.1 rfl
    rw [AuthorityValid, hauthority, portText]
    split_ifs with hnone
    · rw [List.append_nil, splitOnce_eq_none hcolon]
      exact ⟨host_check.mpr hhost, rfl⟩
    · rw [splitOnce_append hcolon]
      exact ⟨host_check.mpr hhost, port_check.mpr ⟨hnone, hshort, hdigits⟩⟩

/-- The host that the test for loopback hosts reads ends at a slash or a colon only. -/
lemma isLoopback_iff {host tail : List Char} (port : List Char)
    (hhost : ∀ c ∈ host, isHostCharacter c = true) (htail : BeginsTail tail) :
    IsLoopback (((host ++ (portText port ++ tail)).takeWhile (· ≠ '/')).takeWhile (· ≠ ':')) ↔
      IsLoopback host ∧ ¬ (port = [] ∧ tail.head? = some '?') := by
  have hslash : ∀ c ∈ host, decide (c ≠ '/') = true := fun c hc =>
    decide_eq_true (ne_of_isHostCharacter (hhost c hc)).1
  have hcolon : ∀ c ∈ host, decide (c ≠ ':') = true := fun c hc =>
    decide_eq_true (ne_of_isHostCharacter (hhost c hc)).2.2.1
  rw [List.takeWhile_append_of_pos hslash, List.takeWhile_append_of_pos hcolon, portText]
  split_ifs with hnone
  · rw [List.nil_append]
    rcases htail with rfl | ⟨c, rest, rfl, rfl | rfl⟩
    · simp
    · simp
    · -- the query is read as a part of the host
      refine iff_of_false ?_ fun h => h.2 ⟨hnone, rfl⟩
      intro hloop
      have hquery : '?' ∈ host ++ ((('?' :: rest).takeWhile (· ≠ '/')).takeWhile (· ≠ ':')) := by
        simp
      exact (ne_of_isHostCharacter ((isHostCharacter_of_isLoopback hloop).2 _ hquery)).2.1 rfl
  · have hend : (((':' :: port ++ tail).takeWhile (· ≠ '/')).takeWhile (· ≠ ':')) = [] := by
      simp
    rw [hend, List.append_nil]
    exact (and_iff_left fun h => hnone h.1).symm

end DocumentUrl

/-! The bytes that are refused are those of single characters. -/

lemma any_utf8Bytes {value : String} :
    (utf8Bytes value).any (fun byte => byte ≤ 32 || byte = 127 || byte = 35) = false ↔
      ∀ c ∈ value.toList, isTailCharacter c = true := by
  rw [utf8Bytes, List.any_flatMap, List.any_eq_false]
  refine forall₂_congr fun c _ => ?_
  rcases Nat.lt_or_ge c.toNat 0x80 with hascii | hbeyond
  · rw [utf8EncodeChar_of_ascii hascii, isTailCharacter]
    simp
  · refine iff_of_true ?_ (tailClass.char c hbeyond)
    rw [Bool.not_eq_true, List.any_eq_false]
    intro byte hbyte
    obtain ⟨b, hb, rfl⟩ := List.mem_map.mp hbyte
    have hlarge := (utf8EncodeChar_of_beyond hbeyond).2 b hb
    simp
    omega

lemma dropPrefix?_append (front back : List Char) :
    (front ++ back).dropPrefix? front = some back :=
  List.dropPrefix?_append_of_beq back (beq_self_eq_true front)

lemma eq_append_of_dropPrefix? {cs front back : List Char} (h : cs.dropPrefix? front = some back) :
    cs = front ++ back := by
  obtain ⟨front', rfl, hfront⟩ := List.dropPrefix?_eq_some_iff.mp h
  rw [beq_iff_eq.mp hfront]

/-- The scheme is stripped, and without TLS the host has to be this machine. -/
def stripScheme (path : String) (cs : List Char) : Except ValidationError (List Char) :=
  match cs.dropPrefix? "https://".toList with
  | some rest => .ok rest
  | none =>
    match cs.dropPrefix? "http://".toList with
    | some rest =>
      let host := (rest.takeWhile (· ≠ '/')).takeWhile (· ≠ ':')
      if host ≠ "localhost".toList ∧ host ≠ "127.0.0.1".toList then
        .error { path := path, message := "plain HTTP is allowed only for loopback hosts" }
      else .ok rest
    | none => .error { path := path, message := "must be an absolute HTTPS URL" }

/-- What is checked once the scheme is known. -/
def checkAfterScheme (value path : String) (rest : List Char) : Validity :=
  let authority := rest.takeWhile fun c => c ≠ '/' && c ≠ '?'
  let (host, port) :=
    match splitOnce ':' authority with
    | some (host, port) => (host, some port)
    | none => (authority, none)
  let hostValid := !host.isEmpty && host.all fun c => isAsciiAlphanumeric c || c = '-' || c = '.'
  let portValid := port.all fun port =>
    !port.isEmpty && (String.ofList port).utf8ByteSize ≤ 5 && port.all Char.isDigit
  if !hostValid || !portValid then
    refuse path "must contain a plain host name or IPv4 address without credentials"
  else if (utf8Bytes value).any (fun byte => byte ≤ 32 || byte = 127 || byte = 35) then
    refuse path "must not contain whitespace, control characters, or a fragment"
  else validateString value path 1 maxPdfUrlBytes

lemma validateDocumentUrl_eq (value path : String) : validateDocumentUrl value path =
    if maxPdfUrlBytes < value.utf8ByteSize then
      refuse path ("must contain at most " ++ toString maxPdfUrlBytes ++ " bytes")
    else stripScheme path value.toList >>= checkAfterScheme value path := by
  rw [validateDocumentUrl, stripScheme]
  refine if_congr Iff.rfl rfl ?_
  cases value.toList.dropPrefix? "https://".toList with
  | some rest => rfl
  | none =>
      cases value.toList.dropPrefix? "http://".toList with
      | none => rfl
      | some rest =>
          simp only
          split <;> rfl

lemma stripScheme_eq_ok {cs rest : List Char} {path : String} :
    stripScheme path cs = .ok rest ↔ ∃ secure, cs = DocumentUrl.scheme secure ++ rest ∧
      (secure = false → IsLoopback ((rest.takeWhile (· ≠ '/')).takeWhile (· ≠ ':'))) := by
  constructor
  · intro h
    rw [stripScheme] at h
    split at h
    · next hsecure =>
        cases h
        exact ⟨true, eq_append_of_dropPrefix? hsecure, fun hfalse => by cases hfalse⟩
    · split at h
      · next hplain =>
          simp only at h
          split_ifs at h with hremote
          cases h
          refine ⟨false, eq_append_of_dropPrefix? hplain, fun _ => ?_⟩
          rw [IsLoopback]
          by_contra hneither
          exact hremote (not_or.mp hneither)
      · cases h
  · rintro ⟨secure, rfl, hloop⟩
    rw [stripScheme]
    cases secure with
    | true => rw [DocumentUrl.scheme, if_pos rfl, dropPrefix?_append]
    | false =>
        have hplain : (DocumentUrl.scheme false ++ rest).dropPrefix? "https://".toList = none := by
          cases hdrop : (DocumentUrl.scheme false ++ rest).dropPrefix? "https://".toList with
          | none => rfl
          | some back =>
              have hscheme : DocumentUrl.scheme false ++ rest = DocumentUrl.scheme true ++ back :=
                eq_append_of_dropPrefix? hdrop
              cases (DocumentUrl.scheme_inj hscheme).1
        rw [hplain, DocumentUrl.scheme, if_neg Bool.false_ne_true, dropPrefix?_append]
        simp only
        rw [if_neg fun h => (hloop rfl).elim h.1 h.2]

lemma checkAfterScheme_eq_ok {value path : String} {rest : List Char} (hne : value.toList ≠ [])
    (hshort : value.utf8ByteSize ≤ maxPdfUrlBytes) :
    checkAfterScheme value path rest = .ok () ↔
      DocumentUrl.AuthorityValid rest ∧ ∀ c ∈ value.toList, isTailCharacter c = true := by
  have hlength : validateString value path 1 maxPdfUrlBytes = .ok () := by
    have hunits := utf16Length_le_utf8ByteSize value
    have hpos := utf16Length_pos hne
    rw [validateString, if_pos]
    rw [Bool.and_eq_true, decide_eq_true_eq, decide_eq_true_eq]
    omega
  rw [checkAfterScheme, hlength, ← any_utf8Bytes, DocumentUrl.AuthorityValid]
  simp only
  split_ifs with hauthority hbytes
  · refine iff_of_false refuse_ne_ok fun h => ?_
    rw [h.1.1, h.1.2] at hauthority
    cases hauthority
  · exact iff_of_false refuse_ne_ok fun h => by rw [hbytes] at h; cases h.2
  · rw [Bool.not_eq_true, Bool.or_eq_false_iff, Bool.not_eq_false', Bool.not_eq_false']
      at hauthority
    rw [Bool.not_eq_true] at hbytes
    exact iff_of_true rfl ⟨hauthority, hbytes⟩

/-- The steps of `validate_document_url`. -/
lemma validateDocumentUrl_eq_ok {value path : String} :
    validateDocumentUrl value path = .ok () ↔ value.utf8ByteSize ≤ maxPdfUrlBytes ∧
      ∃ secure rest, value.toList = DocumentUrl.scheme secure ++ rest ∧
        (secure = false →
          IsLoopback ((rest.takeWhile (· ≠ '/')).takeWhile (· ≠ ':'))) ∧
        DocumentUrl.AuthorityValid rest ∧ ∀ c ∈ value.toList, isTailCharacter c = true := by
  rw [validateDocumentUrl_eq]
  split_ifs with hlong
  · exact iff_of_false refuse_ne_ok fun h => absurd h.1 (Nat.not_le_of_lt hlong)
  · rw [and_iff_right (Nat.le_of_not_lt hlong), bind_eq_ok, exists_comm]
    refine exists_congr fun rest => ?_
    rw [stripScheme_eq_ok, ← exists_and_right]
    refine exists_congr fun secure => ?_
    rw [and_assoc]
    refine and_congr_right fun hvalue => and_congr_right' ?_
    have hne : value.toList ≠ [] := by
      rw [hvalue, DocumentUrl.scheme]
      cases secure <;> simp
    exact checkAfterScheme_eq_ok hne (Nat.le_of_not_lt hlong)

namespace DocumentUrl

lemma beginsTail (url : DocumentUrl) : BeginsTail url.tail := by
  rcases url.tailValid with hnone | ⟨c, rest, htail, hc, -⟩
  · exact .inl hnone
  · exact .inr ⟨c, rest, htail, hc⟩

/-- What is written outside the path and the query are visible characters of ASCII. -/
lemma visible_of_mem (url : DocumentUrl) {c : Char} (hc : c ∈ url.text) :
    c ∈ url.tail ∨ 0x21 ≤ c.toNat ∧ c.toNat ≤ 0x7e ∧ c ≠ '#' := by
  rw [text, List.mem_append, List.mem_append, List.mem_append] at hc
  rcases hc with hc | hc | hc | hc
  · have hall : ∀ secure, ((scheme secure).all fun d =>
        0x21 ≤ d.toNat ∧ d.toNat ≤ 0x7e ∧ d ≠ '#') = true := by
      intro secure
      cases secure <;> decide
    exact .inr (of_decide_eq_true (List.all_eq_true.mp (hall url.secure) c hc))
  · have hhost := url.host_valid.2 c hc
    simp only [isHostCharacter, isAsciiAlphanumeric, Bool.or_eq_true, Bool.and_eq_true,
      decide_eq_true_eq, ← Char.toNat_inj, Char.reduceToNat] at hhost
    simp only [ne_eq, ← Char.toNat_inj, Char.reduceToNat]
    exact .inr (by omega)
  · rcases mem_portText hc with rfl | hc
    · exact .inr (by decide)
    · have hdigit := url.portDigits c hc
      have hval : c.toNat = c.val.toNat := rfl
      have hzero : '0'.val.toNat = 48 := rfl
      have hnine : '9'.val.toNat = 57 := rfl
      simp only [Char.isDigit, Bool.and_eq_true, decide_eq_true_eq, ge_iff_le,
        UInt32.le_iff_toNat_le] at hdigit
      simp only [ne_eq, ← Char.toNat_inj, Char.reduceToNat]
      exact .inr (by omega)
  · exact .inl hc

lemma isTailCharacter_of_mem_tail (url : DocumentUrl) {c : Char} (hc : c ∈ url.tail) :
    isTailCharacter c = true := by
  rcases url.tailValid with hnone | ⟨d, rest, htail, hd, hrest⟩
  · rw [hnone] at hc
    exact absurd hc List.not_mem_nil
  · rw [htail, List.mem_cons] at hc
    rcases hc with rfl | hc
    · rcases hd with rfl | rfl <;> decide
    · exact hrest c hc

lemma isTailCharacter_of_mem (url : DocumentUrl) {c : Char} (hc : c ∈ url.text) :
    isTailCharacter c = true := by
  rcases url.visible_of_mem hc with htail | ⟨hlow, hhigh, hfragment⟩
  · exact url.isTailCharacter_of_mem_tail htail
  · simp only [ne_eq, ← Char.toNat_inj, Char.reduceToNat] at hfragment
    simp [isTailCharacter]
    omega

/-- Whether the Rust crate accepts a URL. -/
lemma validateDocumentUrl_text (url : DocumentUrl) {value path : String}
    (hvalue : url.text = value.toList) : validateDocumentUrl value path = .ok () ↔
      value.utf8ByteSize ≤ maxPdfUrlBytes ∧ ¬ url.QueryAtHost := by
  rw [validateDocumentUrl_eq_ok, ← hvalue]
  refine and_congr_right' ?_
  have hloopback := isLoopback_iff url.port url.host_valid.2 url.beginsTail
  constructor
  · rintro ⟨secure, rest, htext, hloop, -, -⟩ ⟨hplain, hport, hquery⟩
    obtain ⟨rfl, rfl⟩ := scheme_inj htext
    exact (hloopback.mp (hloop hplain)).2 ⟨hport, hquery⟩
  · intro hquery
    refine ⟨url.secure, _, rfl, ?_, ?_, fun c hc => url.isTailCharacter_of_mem hc⟩
    · intro hplain
      have hhost := url.hostValid
      rw [hplain, if_neg Bool.false_ne_true] at hhost
      exact hloopback.mpr ⟨hhost, fun h => hquery ⟨hplain, h.1, h.2⟩⟩
    · exact authorityValid_iff.mpr ⟨url.host, url.port, url.tail, rfl, url.host_valid,
        url.portShort, url.portDigits, url.beginsTail⟩

end DocumentUrl

/-- What the Rust crate accepts is a URL. -/
lemma exists_documentUrl_of_valid {value path : String}
    (hvalid : validateDocumentUrl value path = .ok ()) :
    ∃ url : DocumentUrl, url.text = value.toList := by
  obtain ⟨-, secure, rest, hvalue, hloop, hauthority, hall⟩ := validateDocumentUrl_eq_ok.mp hvalid
  obtain ⟨host, port, tail, rfl, hhost, hshort, hdigits, htail⟩ :=
    DocumentUrl.authorityValid_iff.mp hauthority
  have htailValid : IsTail tail := by
    rcases htail with rfl | ⟨c, rest, rfl, hc⟩
    · exact .inl rfl
    · refine .inr ⟨c, rest, rfl, hc, fun d hd => hall d ?_⟩
      rw [hvalue]
      simp only [List.mem_append, List.mem_cons]
      exact .inr (.inr (.inr (.inr hd)))
  refine ⟨⟨secure, host, port, tail, ?_, hshort, hdigits, htailValid⟩, hvalue.symm⟩
  split_ifs with hsecure
  · exact hhost
  · rw [Bool.not_eq_true] at hsecure
    exact ((DocumentUrl.isLoopback_iff _ hhost.2 htail).mp (hloop hsecure)).1

/-- The Rust crate accepts the URLs up to a number of bytes, but no query right after a host. -/
theorem validateDocumentUrl_iff (value path : String) : validateDocumentUrl value path = .ok () ↔
    (∃ url : DocumentUrl, url.text = value.toList ∧ ¬ url.QueryAtHost) ∧
      value.utf8ByteSize ≤ maxPdfUrlBytes := by
  constructor
  · intro hvalid
    obtain ⟨url, hurl⟩ := exists_documentUrl_of_valid hvalid
    obtain ⟨hbytes, hquery⟩ := (url.validateDocumentUrl_text hurl).mp hvalid
    exact ⟨⟨url, hurl, hquery⟩, hbytes⟩
  · rintro ⟨⟨url, hurl, hquery⟩, hbytes⟩
    exact (url.validateDocumentUrl_text hurl).mpr ⟨hbytes, hquery⟩

/-! ## Agreement -/

/-- The authority of a URL, given what follows its scheme. -/
def authorityOf (rest : List Char) : List Char :=
  rest.takeWhile fun c => c ≠ '/' && c ≠ '?' && c ≠ '#'

/-- What an accepted URL promises: plain HTTP stays on this machine, and there are no credentials,
no fragment, no white space and no control characters. -/
structure SafeUrl (cs : List Char) : Prop where
  loopback : ∀ rest, cs = DocumentUrl.scheme false ++ rest →
    IsLoopback ((authorityOf rest).takeWhile (· ≠ ':'))
  credentials : ∀ secure rest, cs = DocumentUrl.scheme secure ++ rest → '@' ∉ authorityOf rest
  fragment : '#' ∉ cs
  visible : ∀ c ∈ cs, isWhitespace c = false ∧ isControl c = false

/-- Both packages decide alike on a string, and what either accepts is safe. -/
structure UrlAgreement (value path : String) : Prop where
  same : Schema.isValidDocumentUrl (encode value.toList) = true ↔
    validateDocumentUrl value path = .ok ()
  safe : Schema.isValidDocumentUrl (encode value.toList) = true ∨
    validateDocumentUrl value path = .ok () → SafeUrl value.toList

/-- A URL that is short in code units, with a query right after an unprotected host, with too many
bytes, or with white space or a control character beyond ASCII in its path or query. -/
def Divergent (value : String) : Prop :=
  ∃ url : DocumentUrl, url.text = value.toList ∧ utf16Length value ≤ maxPdfUrlBytes ∧
    (url.QueryAtHost ∨ maxPdfUrlBytes < value.utf8ByteSize ∨
      ∃ c ∈ url.tail, isWhitespace c = true ∨ isControl c = true)

lemma DocumentUrl.authorityOf_rest (url : DocumentUrl) :
    authorityOf (url.host ++ (portText url.port ++ url.tail)) =
      url.host ++ portText url.port := by
  have hfront : ∀ c ∈ url.host ++ portText url.port,
      (c ≠ '/' && c ≠ '?' && c ≠ '#') = true := by
    intro c hc
    rcases List.mem_append.mp hc with hc | hc
    · have hhost := url.host_valid.2 c hc
      have hne := ne_of_isHostCharacter hhost
      have hhash : c ≠ '#' := by
        rintro rfl
        cases hhost
      simp [hne.1, hne.2.1, hhash]
    · rcases mem_portText hc with rfl | hc
      · decide
      · have hdigit := url.portDigits c hc
        have hne := ne_of_isDigit hdigit
        have hhash : c ≠ '#' := by
          rintro rfl
          cases hdigit
        simp [hne.1, hne.2.1, hhash]
  rw [authorityOf, ← List.append_assoc, List.takeWhile_append_of_pos hfront]
  rcases url.beginsTail with htail | ⟨c, rest, htail, rfl | rfl⟩ <;> simp [htail]

/-- A URL is safe if its path and query are visible. -/
lemma DocumentUrl.safeUrl_iff (url : DocumentUrl) : SafeUrl url.text ↔
    ∀ c ∈ url.tail, isWhitespace c = false ∧ isControl c = false := by
  constructor
  · intro hsafe c hc
    refine hsafe.visible c ?_
    rw [text]
    simp only [List.mem_append]
    exact .inr (.inr (.inr hc))
  · intro hvisible
    constructor
    · intro rest htext
      obtain ⟨hplain, rfl⟩ := scheme_inj htext
      have hhost := url.hostValid
      rw [hplain, if_neg Bool.false_ne_true] at hhost
      have hcolon : ∀ c ∈ url.host, decide (c ≠ ':') = true := fun c hc =>
        decide_eq_true (ne_of_isHostCharacter (url.host_valid.2 c hc)).2.2.1
      rw [url.authorityOf_rest, List.takeWhile_append_of_pos hcolon, portText]
      split_ifs with hnone
      · simpa using hhost
      · simpa using hhost
    · intro secure rest htext hmem
      obtain ⟨rfl, rfl⟩ := scheme_inj htext
      rw [url.authorityOf_rest, List.mem_append] at hmem
      rcases hmem with hmem | hmem
      · exact (ne_of_isHostCharacter (url.host_valid.2 _ hmem)).2.2.2 rfl
      · rcases mem_portText hmem with hcolon | hmem
        · cases hcolon
        · exact (ne_of_isDigit (url.portDigits _ hmem)).2.2.2 rfl
    · intro hmem
      have hfalse := url.isTailCharacter_of_mem hmem
      cases hfalse
    · intro c hc
      rcases url.visible_of_mem hc with htail | ⟨hlow, hhigh, -⟩
      · exact hvisible c htail
      · rw [← Bool.not_eq_true, ← Bool.not_eq_true]
        simp [isWhitespace, isControl]
        omega

/-- **The packages agree on URLs exactly where none of the three differences shows**: the query that
is read as a part of the host, the limit that is in code units or in bytes, and the white space and
control characters beyond ASCII that neither refuses. -/
theorem documentUrls_agree_iff (value path : String) :
    UrlAgreement value path ↔ ¬ Divergent value := by
  have hunits := utf16Length_le_utf8ByteSize value
  constructor
  · rintro ⟨hsame, hsafe⟩ ⟨url, hurl, hshort, hdivergent⟩
    have haccepted := (isValidDocumentUrl_iff value).mpr ⟨⟨url, hurl⟩, hshort⟩
    obtain ⟨hbytes, hquery⟩ := (url.validateDocumentUrl_text hurl).mp (hsame.mp haccepted)
    rcases hdivergent with hat | hlong | ⟨c, hc, hinvisible⟩
    · exact hquery hat
    · exact absurd hbytes (Nat.not_le_of_lt hlong)
    · have hsafeUrl := hsafe (.inl haccepted)
      rw [← hurl, url.safeUrl_iff] at hsafeUrl
      obtain ⟨hblank, hcontrol⟩ := hsafeUrl c hc
      rw [hblank, hcontrol] at hinvisible
      exact hinvisible.elim Bool.false_ne_true Bool.false_ne_true
  · intro hnone
    have hurlOf : Schema.isValidDocumentUrl (encode value.toList) = true ∨
        validateDocumentUrl value path = .ok () →
          (∃ url : DocumentUrl, url.text = value.toList) ∧ utf16Length value ≤ maxPdfUrlBytes := by
      rintro (h | h)
      · exact (isValidDocumentUrl_iff value).mp h
      · exact ⟨exists_documentUrl_of_valid h, hunits.trans ((validateDocumentUrl_iff _ _).mp h).2⟩
    refine ⟨⟨fun h => ?_, fun h => (isValidDocumentUrl_iff value).mpr (hurlOf (.inr h))⟩, ?_⟩
    · obtain ⟨⟨url, hurl⟩, hshort⟩ := hurlOf (.inl h)
      refine (url.validateDocumentUrl_text hurl).mpr ⟨?_, fun hquery => ?_⟩
      · by_contra hlong
        exact hnone ⟨url, hurl, hshort, .inr (.inl (Nat.lt_of_not_le hlong))⟩
      · exact hnone ⟨url, hurl, hshort, .inl hquery⟩
    · intro h
      obtain ⟨⟨url, hurl⟩, hshort⟩ := hurlOf h
      rw [← hurl, url.safeUrl_iff]
      intro c hc
      rw [← Bool.not_eq_true, ← Bool.not_eq_true]
      exact ⟨fun hblank => hnone ⟨url, hurl, hshort, .inr (.inr ⟨c, hc, .inl hblank⟩)⟩,
        fun hcontrol => hnone ⟨url, hurl, hshort, .inr (.inr ⟨c, hc, .inr hcontrol⟩)⟩⟩

/-- A query right after the host. -/
theorem query_at_host_disagrees : ¬ UrlAgreement "http://localhost?file=1" "url" := by
  rintro ⟨hsame, -⟩
  have hrefused : validateDocumentUrl "http://localhost?file=1" "url" ≠ .ok () := by decide +kernel
  exact hrefused (hsame.mp (by decide +kernel))

end Oppa.Protocol
