import Oppa.Auth.Keys
import Oppa.Protocol.Document

/-!
# Requests for documents

How the agent asks for the document of a job: it takes the path and the query off the URL of the
job, binds them with the job, the time and the digest into one text, and signs that.

* `HttpDocumentFetcher` — a request, and its signature.
* `canonicalRequest_injective` — the text determines what is asked for.
* **`authorized_iff`** — when a request can be signed: the parser of URLs must accept the URL, and
  the text must fit a limit that is one of challenges.
* `long_url_not_signed` — a URL that the protocol allows and that does not fit once it is
  percent-encoded.

The parser of URLs is left open.
-/

namespace Oppa.Auth

open Protocol Text

/-! ## The fetcher -/

/-- The path and the query of a URL, percent-encoded. -/
structure ParsedUrl where
  path : String
  query : Option String
  deriving DecidableEq, Repr

/-- The path and query as they are sent. -/
def ParsedUrl.pathAndQuery (parsed : ParsedUrl) : String :=
  match parsed.query with
  | some query => parsed.path ++ "?" ++ query
  | none => parsed.path

/-- Why no request is made. -/
inductive DocumentFetchError
  | invalidSource (reason : String)
  | authorization (e : AuthError)
  deriving DecidableEq, Repr

/-- `HttpDocumentFetcher`, over a parser of URLs. -/
structure HttpDocumentFetcher (Seed Signature : Type) where
  keys : KeyManager Seed Signature
  credentialRef : String
  agentId : String
  parse : String → Option ParsedUrl

namespace HttpDocumentFetcher

variable {Seed Signature : Type} (fetcher : HttpDocumentFetcher Seed Signature)

/-- `fetch_pdf` up to the text it signs. -/
def request (jobId : String) (timestampMs : UInt64) (source : PdfSource) :
    Except DocumentFetchError DocumentRequest := do
  source.validate.mapError fun e => .invalidSource e.display
  match source with
  | .url url sha256 _ =>
      match fetcher.parse url with
      | none => .error (.invalidSource "the URL is not absolute")
      | some parsed =>
          .ok
            { pathAndQuery := parsed.pathAndQuery
              agentId := fetcher.agentId
              jobId := jobId
              timestampMs := timestampMs.toNat
              sha256 := sha256 }

/-- `fetch_pdf` up to its signature. -/
def authorize (jobId : String) (timestampMs : UInt64) (source : PdfSource) :
    Except DocumentFetchError Signature := do
  let request ← fetcher.request jobId timestampMs source
  (fetcher.keys.sign fetcher.credentialRef request.bytes).mapError .authorization

end HttpDocumentFetcher

/-! ## The text determines the request -/

/-- The fields of a request have no line feed in them. -/
structure DocumentRequest.OneLine (request : DocumentRequest) : Prop where
  pathAndQuery : '\n' ∉ request.pathAndQuery.toList
  agentId : '\n' ∉ request.agentId.toList
  jobId : '\n' ∉ request.jobId.toList
  sha256 : '\n' ∉ request.sha256.toList

/-- A line can be read back from the text it begins. -/
lemma line_cancel {line other rest others : List Char} (hline : '\n' ∉ line)
    (hother : '\n' ∉ other) (heq : line ++ '\n' :: rest = other ++ '\n' :: others) :
    line = other ∧ rest = others := by
  induction line generalizing other with
  | nil =>
      cases other with
      | nil => exact ⟨rfl, (List.cons.inj heq).2⟩
      | cons c other =>
          rw [List.nil_append, List.cons_append, List.cons.injEq] at heq
          exact absurd (heq.1 ▸ List.mem_cons_self) hother
  | cons c line ih =>
      cases other with
      | nil =>
          rw [List.nil_append, List.cons_append, List.cons.injEq] at heq
          exact absurd (heq.1 ▸ List.mem_cons_self) hline
      | cons d other =>
          rw [List.cons_append, List.cons_append, List.cons.injEq] at heq
          rw [List.mem_cons, not_or] at hline hother
          rcases ih hline.2 hother.2 heq.2 with ⟨hsame, hrest⟩
          exact ⟨by rw [heq.1, hsame], hrest⟩

/-- The digits of a number are no line feeds. -/
lemma lineFeed_not_mem_digits (n : ℕ) : '\n' ∉ (toString n).toList := by
  intro hmem
  have hdigits : '\n' ∈ Nat.toDigits 10 n := by
    rw [← Nat.toList_repr]
    exact hmem
  exact absurd (Nat.isDigit_of_mem_toDigits (by decide) (by decide) hdigits) (by decide)

/-- A number can be read back from its digits. -/
lemma digits_injective {n m : ℕ} (heq : (toString n).toList = (toString m).toList) : n = m := by
  have hread := congrArg (fun digits => Nat.ofDigitChars 10 digits 0) heq
  simpa [Nat.toString_eq_ofList_toDigits] using hread

lemma toList_canonicalRequest (request : DocumentRequest) :
    (canonicalRequest request).toList = (signatureContext ++ "\nGET\n").toList ++
      (request.pathAndQuery.toList ++ '\n' :: (request.agentId.toList ++ '\n' ::
        (request.jobId.toList ++ '\n' :: ((toString request.timestampMs).toList ++ '\n' ::
          request.sha256.toList)))) := by
  have hfeed : "\n".toList = ['\n'] := rfl
  simp only [canonicalRequest, String.toList_append, hfeed, List.append_assoc, List.cons_append,
    List.nil_append]

/-- **The text of a request determines it**, when no field has a line feed. -/
theorem canonicalRequest_injective {request other : DocumentRequest} (hrequest : request.OneLine)
    (hother : other.OneLine) (heq : canonicalRequest request = canonicalRequest other) :
    request = other := by
  have hlist := congrArg String.toList heq
  rw [toList_canonicalRequest, toList_canonicalRequest] at hlist
  replace hlist := List.append_cancel_left hlist
  rcases line_cancel hrequest.pathAndQuery hother.pathAndQuery hlist with ⟨hpath, hlist⟩
  rcases line_cancel hrequest.agentId hother.agentId hlist with ⟨hagent, hlist⟩
  rcases line_cancel hrequest.jobId hother.jobId hlist with ⟨hjob, hlist⟩
  rcases line_cancel (lineFeed_not_mem_digits _) (lineFeed_not_mem_digits _) hlist with
    ⟨htime, hdigest⟩
  rcases request with ⟨pathAndQuery, agentId, jobId, timestampMs, sha256⟩
  rcases other with ⟨pathAndQuery', agentId', jobId', timestampMs', sha256'⟩
  rw [DocumentRequest.mk.injEq]
  exact ⟨String.toList_inj.mp hpath, String.toList_inj.mp hagent, String.toList_inj.mp hjob,
    digits_injective htime, String.toList_inj.mp hdigest⟩

/-! ## When a request can be signed -/

/-- How long the text is. -/
lemma length_bytes (request : DocumentRequest) :
    request.bytes.length = 32 + request.pathAndQuery.utf8ByteSize + request.agentId.utf8ByteSize +
      request.jobId.utf8ByteSize + (toString request.timestampMs).utf8ByteSize +
      request.sha256.utf8ByteSize := by
  have hcontext : (signatureContext ++ "\nGET\n").utf8ByteSize = 28 := by decide
  have hfeed : "\n".utf8ByteSize = 1 := by decide
  rw [DocumentRequest.bytes, Bytes.length_encode, ← utf8ByteSize_eq_sum, canonicalRequest]
  simp only [String.utf8ByteSize_append, hfeed] at hcontext ⊢
  omega

lemma lineFeed_not_mem_identifier {value path : String} {max : ℕ}
    (hvalid : Protocol.validateIdentifier value path max = .ok ()) : '\n' ∉ value.toList := by
  intro hmem
  have hprintable := (identifier_of_valid hvalid).2.2 _ hmem
  exact absurd hprintable.1 (by decide)

/-- An accepted digest is 64 bytes long, on one line. -/
lemma digest_of_valid {value path : String} (hvalid : validateSha256 value path = .ok ()) :
    value.utf8ByteSize = 64 ∧ '\n' ∉ value.toList := by
  rw [validateSha256] at hvalid
  split at hvalid
  · rename_i hbytes
    rw [Bool.and_eq_true, decide_eq_true_eq, List.all_eq_true] at hbytes
    refine ⟨by rw [← length_utf8Bytes]; exact hbytes.1, ?_⟩
    intro hmem
    have hbyte : 10 ∈ utf8Bytes value := List.mem_flatMap.mpr ⟨'\n', hmem, by decide⟩
    exact absurd (hbytes.2 10 hbyte) (by decide)
  · cases hvalid

section Authorized

variable {Seed Signature : Type} {seed : Seed}

/-- With a key at hand, length is all that matters. -/
lemma sign_iff {keys : KeyManager Seed Signature} {credentialRef : String} {payload : List UInt8}
    (hreference : validateCredentialRef credentialRef = .ok ())
    (hseed : keys.seed credentialRef = .ok seed) (hpayload : 0 < payload.length) :
    (∃ signature, keys.sign credentialRef payload = .ok signature) ↔
      payload.length ≤ maxChallengeBytes := by
  constructor
  · rintro ⟨signature, hsign⟩
    exact (sign_ok hsign).2.1
  · intro hlength
    have hnonempty : ¬ payload.isEmpty = true := by
      intro hempty
      rw [List.isEmpty_iff.mp hempty] at hpayload
      exact absurd hpayload (by decide)
    refine ⟨keys.ed25519 seed payload, Result.bind_eq_ok.mpr ⟨(), hreference, ?_⟩⟩
    rw [if_neg (not_or.mpr ⟨hnonempty, not_lt.mpr hlength⟩), hseed]
    rfl

lemma sign_of_long {keys : KeyManager Seed Signature} {credentialRef : String}
    {payload : List UInt8} (hreference : validateCredentialRef credentialRef = .ok ())
    (hlong : maxChallengeBytes < payload.length) : keys.sign credentialRef payload =
      .error (.invalidInput
        ("challenge payload must contain 1 to " ++ toString maxChallengeBytes ++ " bytes")) := by
  rw [KeyManager.sign, hreference]
  exact if_pos (.inr hlong)

variable {fetcher : HttpDocumentFetcher Seed Signature} {jobId url sha256 : String}
  {byteLength timestampMs : UInt64}

/-- What is asked for. -/
lemma request_iff {request : DocumentRequest}
    (hsource : (PdfSource.url url sha256 byteLength).validate = .ok ()) :
    fetcher.request jobId timestampMs (.url url sha256 byteLength) = .ok request ↔
      ∃ parsed, fetcher.parse url = some parsed ∧
        request =
          { pathAndQuery := parsed.pathAndQuery
            agentId := fetcher.agentId
            jobId := jobId
            timestampMs := timestampMs.toNat
            sha256 := sha256 } := by
  rw [HttpDocumentFetcher.request, hsource]
  show (match fetcher.parse url with
    | none => _
    | some parsed => _) = _ ↔ _
  cases hparsed : fetcher.parse url with
  | none =>
      constructor
      · intro hrequest
        cases hrequest
      · rintro ⟨_, hnone, _⟩
        cases hnone
  | some parsed =>
      constructor
      · intro hrequest
        cases hrequest
        exact ⟨parsed, rfl, rfl⟩
      · rintro ⟨_, hsome, hrequest⟩
        cases hsome
        rw [hrequest]

lemma authorize_of_long {source : PdfSource} {request : DocumentRequest}
    (hreference : validateCredentialRef fetcher.credentialRef = .ok ())
    (hrequest : fetcher.request jobId timestampMs source = .ok request)
    (hlong : maxChallengeBytes < request.bytes.length) :
    fetcher.authorize jobId timestampMs source = .error (.authorization (.invalidInput
      ("challenge payload must contain 1 to " ++ toString maxChallengeBytes ++ " bytes"))) := by
  rw [HttpDocumentFetcher.authorize, hrequest]
  show Except.mapError _ (fetcher.keys.sign _ _) = _
  rw [sign_of_long hreference hlong]
  rfl

/-- **When a document request is signed.**  Then its text is the one the server builds, and no other
request has that text. -/
theorem authorized_iff (hreference : validateCredentialRef fetcher.credentialRef = .ok ())
    (hseed : fetcher.keys.seed fetcher.credentialRef = .ok seed)
    (hparse : ∀ url parsed, fetcher.parse url = some parsed → '\n' ∉ parsed.pathAndQuery.toList)
    (hagent : Protocol.validateIdentifier fetcher.agentId "agentId" 128 = .ok ())
    (hjob : Protocol.validateIdentifier jobId "jobId" 128 = .ok ())
    (hsource : (PdfSource.url url sha256 byteLength).validate = .ok ()) :
    (∃ request signature,
      fetcher.request jobId timestampMs (.url url sha256 byteLength) = .ok request ∧
        fetcher.authorize jobId timestampMs (.url url sha256 byteLength) = .ok signature ∧
        documentRequestSignaturePayload request = canonicalRequest request ∧
        ∀ other : DocumentRequest, other.OneLine →
          canonicalRequest other = canonicalRequest request → other = request) ↔
      ∃ parsed, fetcher.parse url = some parsed ∧
        parsed.pathAndQuery.utf8ByteSize + fetcher.agentId.utf8ByteSize + jobId.utf8ByteSize +
          (toString timestampMs.toNat).utf8ByteSize ≤ 4000 := by
  have hdigest : sha256.utf8ByteSize = 64 ∧ '\n' ∉ sha256.toList := by
    rw [PdfSource.validate, andThen_eq_ok, andThen_eq_ok] at hsource
    exact digest_of_valid hsource.2.1
  constructor
  · rintro ⟨request, signature, hrequest, hsign, -, -⟩
    rw [HttpDocumentFetcher.authorize, hrequest] at hsign
    have hlength := (sign_ok (Result.mapError_eq_ok.mp hsign)).2.1
    rcases (request_iff hsource).mp hrequest with ⟨parsed, hparsed, rfl⟩
    rw [length_bytes, maxChallengeBytes] at hlength
    dsimp only at hlength
    exact ⟨parsed, hparsed, by omega⟩
  · rintro ⟨parsed, hparsed, hsize⟩
    let request : DocumentRequest :=
      { pathAndQuery := parsed.pathAndQuery
        agentId := fetcher.agentId
        jobId := jobId
        timestampMs := timestampMs.toNat
        sha256 := sha256 }
    have hrequest : fetcher.request jobId timestampMs (.url url sha256 byteLength) = .ok request :=
      (request_iff hsource).mpr ⟨parsed, hparsed, rfl⟩
    have hline : request.OneLine :=
      { pathAndQuery := hparse url parsed hparsed
        agentId := lineFeed_not_mem_identifier hagent
        jobId := lineFeed_not_mem_identifier hjob
        sha256 := hdigest.2 }
    have hlength : request.bytes.length =
        32 + parsed.pathAndQuery.utf8ByteSize + fetcher.agentId.utf8ByteSize +
          jobId.utf8ByteSize + (toString timestampMs.toNat).utf8ByteSize + 64 := by
      rw [length_bytes, ← hdigest.1]
    have hsigned : ∃ signature,
        fetcher.keys.sign fetcher.credentialRef request.bytes = .ok signature := by
      refine (sign_iff hreference hseed (by omega)).mpr ?_
      rw [hlength, maxChallengeBytes]
      omega
    rcases hsigned with ⟨signature, hsign⟩
    refine ⟨request, signature, hrequest, ?_, documentRequestSignaturePayload_eq request, ?_⟩
    · rw [HttpDocumentFetcher.authorize, hrequest]
      exact Result.mapError_eq_ok.mpr hsign
    · intro other hother heq
      exact canonicalRequest_injective hother hline heq

end Authorized

/-! ## Two URLs -/

/-- A fetcher whose signatures show what is signed. -/
def showing (parse : String → Option ParsedUrl) : HttpDocumentFetcher Unit (List UInt8) where
  keys := { seed := fun _ => .ok (), ed25519 := fun _ payload => payload }
  credentialRef := "oppa-ed25519-1"
  agentId := "agent_1"
  parse := parse

lemma parse_showing (parse : String → Option ParsedUrl) : (showing parse).parse = parse := rfl

/-- The digest of an empty document. -/
def emptyDigest : String := "e3b0c44298fc1c149afbf4c8996fb92427ae41e4649b934ca495991b7852b855"

/-- A parser that knows the URL `https://h/d?a=1`. -/
def parseShort : String → Option ParsedUrl
  | "https://h/d?a=1" => some { path := "/d", query := some "a=1" }
  | _ => none

/-- A short URL is signed. -/
theorem authorized_short :
    (∃ request signature,
      (showing parseShort).request "job_1" 1000 (.url "https://h/d?a=1" emptyDigest 1) =
          .ok request ∧
        (showing parseShort).authorize "job_1" 1000 (.url "https://h/d?a=1" emptyDigest 1) =
          .ok signature ∧
        documentRequestSignaturePayload request = canonicalRequest request ∧
        ∀ other : DocumentRequest, other.OneLine →
          canonicalRequest other = canonicalRequest request → other = request) ↔
      ∃ parsed, parseShort "https://h/d?a=1" = some parsed ∧
        parsed.pathAndQuery.utf8ByteSize + "agent_1".utf8ByteSize + "job_1".utf8ByteSize +
          (toString (1000 : UInt64).toNat).utf8ByteSize ≤ 4000 := by
  refine @authorized_iff Unit (List UInt8) () (showing parseShort) _ _ _ _ _ (by decide +kernel)
    rfl ?_ (by decide +kernel) (by decide +kernel) (by decide +kernel)
  intro url parsed hparsed
  rw [parse_showing, parseShort.eq_def] at hparsed
  split at hparsed
  · cases hparsed
    decide +kernel
  · cases hparsed

/-- A URL of `https://h/` and letters é. -/
def accentedUrl (n : ℕ) : String :=
  String.ofList (['h', 't', 't', 'p', 's', ':', '/', '/', 'h', '/'] ++ List.replicate n 'é')

/-- Its path, percent-encoded. -/
def accentedPath (n : ℕ) : String :=
  String.ofList ('/' :: (List.replicate n ['%', 'C', '3', '%', 'A', '9']).flatten)

lemma toList_accentedUrl (n : ℕ) :
    (accentedUrl n).toList = "https://".toList ++ 'h' :: '/' :: List.replicate n 'é' := by
  show (String.ofList (_ ++ _)).toList = _
  rw [String.toList_ofList]
  rfl

lemma utf8ByteSize_accentedUrl (n : ℕ) : (accentedUrl n).utf8ByteSize = 10 + 2 * n := by
  have hletter : 'é'.utf8Size = 2 := by decide
  show (String.ofList (_ ++ _)).utf8ByteSize = _
  rw [utf8ByteSize_ofList, List.map_append, List.sum_append, List.map_replicate,
    List.sum_replicate_nat, hletter, Nat.mul_comm]
  rfl

lemma utf16Length_accentedUrl (n : ℕ) : utf16Length (accentedUrl n) = 10 + n := by
  have hletter : utf16Size 'é' = 1 := by decide
  rw [utf16Length, toList_accentedUrl, List.map_append, List.sum_append, List.map_cons,
    List.map_cons, List.map_replicate, List.sum_cons, List.sum_cons, List.sum_replicate_nat,
    hletter, Nat.mul_one, ← Nat.add_assoc, ← Nat.add_assoc]
  rfl

/-- The protocol allows up to 1000 such letters. -/
lemma accentedUrl_valid {n : ℕ} (hn : n ≤ 1000) :
    (PdfSource.url (accentedUrl n) emptyDigest 1).validate = .ok () := by
  have hbytes : (utf8Bytes (accentedUrl n)).any
      (fun byte => byte ≤ 32 || byte = 127 || byte = 35) = false := by
    rw [utf8Bytes, accentedUrl, String.toList_ofList, List.flatMap_append, List.any_append,
      Bool.or_eq_false_iff]
    refine ⟨by decide, ?_⟩
    rw [List.any_flatMap, List.any_replicate]
    split_ifs
    · rfl
    · decide
  have hstring : validateString (accentedUrl n) "url" 1 maxPdfUrlBytes = .ok () := by
    rw [validateString, utf16Length_accentedUrl, maxPdfUrlBytes, if_pos]
    simp only [Bool.and_eq_true, decide_eq_true_eq]
    omega
  have haddress : validateDocumentUrl (accentedUrl n) "url" = .ok () := by
    have hprefix : (accentedUrl n).toList.dropPrefix? "https://".toList =
        some ('h' :: '/' :: List.replicate n 'é') := by
      rw [toList_accentedUrl]
      rfl
    have hauthority : ('h' :: '/' :: List.replicate n 'é').takeWhile
        (fun c => c ≠ '/' && c ≠ '?') = ['h'] := by
      simp
    have hhost : splitOnce ':' ['h'] = none := rfl
    rw [validateDocumentUrl, if_neg (by rw [utf8ByteSize_accentedUrl, maxPdfUrlBytes]; omega),
      hprefix]
    simp only [bind, Except.bind, hauthority, hhost, hbytes]
    rw [if_neg (by decide), if_neg (by decide), hstring]
  rw [PdfSource.validate, haddress]
  decide +kernel

lemma utf8ByteSize_accentedPath (n : ℕ) : (accentedPath n).utf8ByteSize = 1 + 6 * n := by
  rw [accentedPath, utf8ByteSize_ofList, List.map_cons, List.sum_cons, List.map_flatten,
    List.sum_flatten, List.map_map, List.map_replicate, List.sum_replicate_nat, Nat.mul_comm]
  rfl

/-- A parser that percent-encodes the letters of such URLs. -/
def parseAccented (url : String) : Option ParsedUrl :=
  (url.toList.dropPrefix? ['h', 't', 't', 'p', 's', ':', '/', '/', 'h', '/']).map fun rest =>
    { path := accentedPath rest.length, query := none }

lemma parseAccented_accentedUrl (n : ℕ) : parseAccented (accentedUrl n) =
    some { path := accentedPath n, query := none } := by
  have hrest : (accentedUrl n).toList.dropPrefix?
      ['h', 't', 't', 'p', 's', ':', '/', '/', 'h', '/'] = some (List.replicate n 'é') := by
    rw [accentedUrl, String.toList_ofList]
    cases n <;> rfl
  rw [parseAccented, hrest, Option.map_some, List.length_replicate]

/-- URLs of this kind that are valid and are not signed. -/
lemma accentedUrl_not_signed {n : ℕ} (hn : n ≤ 1000) (hlong : 4064 ≤ 6 * n) :
    (PdfSource.url (accentedUrl n) emptyDigest 1).validate = .ok () ∧
      Protocol.validateIdentifier (showing parseAccented).agentId "agentId" 128 = .ok () ∧
      Protocol.validateIdentifier "job_1" "jobId" 128 = .ok () ∧
      (showing parseAccented).parse (accentedUrl n) =
        some { path := accentedPath n, query := none } ∧
      (showing parseAccented).authorize "job_1" 1000 (.url (accentedUrl n) emptyDigest 1) =
        .error (.authorization (.invalidInput
          ("challenge payload must contain 1 to " ++ toString maxChallengeBytes ++ " bytes"))) := by
  have hvalid : (PdfSource.url (accentedUrl n) emptyDigest 1).validate = .ok () :=
    accentedUrl_valid hn
  have hparsed : (showing parseAccented).parse (accentedUrl n) =
      some { path := accentedPath n, query := none } := by
    rw [parse_showing]
    exact parseAccented_accentedUrl n
  have hrequest := (@request_iff _ _ (showing parseAccented) "job_1" _ _ _ 1000 _ hvalid).mpr
    ⟨_, hparsed, rfl⟩
  refine ⟨hvalid, by decide +kernel, by decide +kernel, hparsed, ?_⟩
  refine authorize_of_long (by decide +kernel) hrequest ?_
  have hpath := utf8ByteSize_accentedPath n
  rw [length_bytes, maxChallengeBytes]
  dsimp only [ParsedUrl.pathAndQuery]
  omega

/-- **A valid source that is not signed**: 700 letters take 1410 bytes of a URL, and 4201 bytes of
the text. -/
theorem long_url_not_signed :
    (PdfSource.url (accentedUrl 700) emptyDigest 1).validate = .ok () ∧
      Protocol.validateIdentifier (showing parseAccented).agentId "agentId" 128 = .ok () ∧
      Protocol.validateIdentifier "job_1" "jobId" 128 = .ok () ∧
      (showing parseAccented).parse (accentedUrl 700) =
        some { path := accentedPath 700, query := none } ∧
      (showing parseAccented).authorize "job_1" 1000 (.url (accentedUrl 700) emptyDigest 1) =
        .error (.authorization (.invalidInput
          ("challenge payload must contain 1 to " ++ toString maxChallengeBytes ++ " bytes"))) :=
  accentedUrl_not_signed (by decide) (by decide)

end Oppa.Auth
