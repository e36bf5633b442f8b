import Oppa.Foundation.History
import Oppa.Foundation.Json

/-!
# Requests of the SDK

`request` of the client: attempts with a timer each, waits between them, and the signal with which
the caller can abort.

* `RequestOptions`, `Client` — what is asked for, and what the client is configured with.
* `Attempt`, `Thrown` — how an attempt ends, and what is thrown.
* `RequestState`, `RequestAction` — the points at which a request waits, and what can happen there:
  the outcomes of `fetch` and of the body, the timer, the abort, and the end of a wait.
* `requests` — a request as a system.  What can be told of a run are the calls of `fetch`, the ends
  of the attempts, the waits, the abort, and how the request settles.

The platform answers in any order, and after an abort or a timeout it answers as it likes.
-/

namespace Oppa.Sdk

open History

/-! ## What is asked for -/

/-- `RequestMethod`. -/
inductive RequestMethod
  | delete
  | get
  | patch
  | post
  | put
  deriving DecidableEq, Repr

def RequestMethod.name : RequestMethod → String
  | delete => "DELETE"
  | get => "GET"
  | patch => "PATCH"
  | post => "POST"
  | put => "PUT"

/-- `InternalRequestOptions` with its endpoint, resolved against the base URL. -/
structure RequestOptions where
  url : String
  method : RequestMethod
  body : Option Json.Value
  authenticated : Bool
  /-- Whether the caller has passed a signal. -/
  signal : Bool
  retryable : Bool
  deriving DecidableEq, Repr

/-- `health`. -/
def health (url : String) (signal : Bool) : RequestOptions :=
  { url, method := .get, body := none, authenticated := false, signal, retryable := true }

/-- `discovery`. -/
def discovery (url : String) (signal : Bool) : RequestOptions :=
  { url, method := .get, body := none, authenticated := false, signal, retryable := true }

/-- `pair`, with a pairing request that was parsed. -/
def pair (url : String) (input : Json.Value) (signal : Bool) : RequestOptions :=
  { url, method := .post, body := some input, authenticated := false, signal, retryable := false }

/-- `jobs.create`, with an input that was validated. -/
def createJob (url : String) (input : Json.Value) (signal : Bool) : RequestOptions :=
  { url, method := .post, body := some input, authenticated := true, signal, retryable := true }

/-- `jobs.list`. -/
def listJobs (url : String) (signal : Bool) : RequestOptions :=
  { url, method := .get, body := none, authenticated := true, signal, retryable := true }

/-- `ResolvedRetryOptions`. -/
structure RetryOptions where
  maxRetries : ℕ
  baseDelayMs : ℕ
  maxDelayMs : ℕ
  deriving DecidableEq, Repr

/-- An API key: a text, or a function that answers later. -/
inductive ApiKey
  | text (secret : String)
  | provider
  deriving DecidableEq, Repr

/-- What `fetch` is called with. -/
structure FetchCall where
  url : String
  method : RequestMethod
  headers : List (String × String)
  body : Option String
  deriving DecidableEq, Repr

/-- What `request` reads of a response. -/
structure Response where
  status : ℕ
  /-- `parseRetryAfter` of its header, when a retry is decided. -/
  retryAfter : Option ℕ
  requestId : Option String
  deriving DecidableEq, Repr

/-- `response.ok`. -/
def Response.ok (response : Response) : Bool := 200 ≤ response.status && response.status ≤ 299

/-! ## What is thrown -/

/-- `OpenPrinterApiError`. -/
structure ApiError where
  status : ℕ
  message : String
  code : Option String
  requestId : Option String
  details : Option Json.Value
  deriving DecidableEq, Repr

/-- What can be thrown, or be the reason of an abort. -/
inductive Thrown
  | configuration (message : String)
  | api (error : ApiError)
  | response (message : String)
  | timeout
  | other (text : String)
  deriving DecidableEq, Repr

/-- What is thrown for an abort whose reason is no error. -/
def Thrown.abortError : Thrown := .other "The request was aborted."

/-- The member of a record. -/
def member (key : String) : Json.Value → Option Json.Value
  | .object members => (members.find? fun entry => entry.1 = key).map Prod.snd
  | _ => none

/-- `isRecord`. -/
def isRecord : Json.Value → Bool
  | .object _ => true
  | _ => false

/-- `stringOrUndefined`. -/
def stringOrUndefined : Option Json.Value → Option String
  | some (.string s) => if s = "" then none else some s
  | _ => none

/-- `createApiError`, with `parseApiError`. -/
def createApiError (response : Response) (body : Option Json.Value) : ApiError :=
  let error := (body.bind (member "error")).filter isRecord
  let field (key : String) := stringOrUndefined (error.bind (member key))
  { status := response.status
    message := (field "message").getD
      ("OpenPrinter request failed with HTTP " ++ toString response.status ++ ".")
    code := field "code"
    requestId := ((field "requestId").or
      (error.bind fun _ => stringOrUndefined (body.bind (member "requestId")))).or
        response.requestId
    details := error }

/-- `RETRYABLE_STATUSES`. -/
def retryableStatuses : List ℕ := [408, 425, 429, 500, 502, 503, 504]

/-! ## The client -/

/-- What a client is configured with, and the libraries it calls. -/
structure Client (T : Type) where
  apiKey : Option ApiKey
  retry : RetryOptions
  /-- The headers that the caller has configured. -/
  headers : List (String × String)
  /-- `JSON.parse`. -/
  parseJson : String → Option Json.Value
  /-- The parser of the endpoint; a failure is the text of an `OpenPrinterResponseError`. -/
  parser : Option Json.Value → Except String T

/-- White space at which `String.prototype.trim` cuts. -/
def isSpace (c : Char) : Bool :=
  (0x09 ≤ c.toNat && c.toNat ≤ 0x0d) || c.toNat = 0x20 || c.toNat = 0xa0 || c.toNat = 0x1680 ||
    (0x2000 ≤ c.toNat && c.toNat ≤ 0x200a) || c.toNat = 0x2028 || c.toNat = 0x2029 ||
    c.toNat = 0x202f || c.toNat = 0x205f || c.toNat = 0x3000 || c.toNat = 0xfeff

/-- `String.prototype.trim`. -/
def trim (text : String) : String :=
  String.ofList (((text.toList.dropWhile isSpace).reverse.dropWhile isSpace).reverse)

/-- `Headers.set`. -/
def setHeader (name value : String) (headers : List (String × String)) : List (String × String) :=
  headers.filter (fun header => header.1 ≠ name) ++ [(name, value)]

section Request

variable {T : Type} (client : Client T) (options : RequestOptions)

/-- The headers of a request, without the authorization. -/
def baseHeaders : List (String × String) :=
  let headers := setHeader "accept" "application/json" client.headers
  if options.body.isSome then setHeader "content-type" "application/json" headers else headers

/-- What every attempt calls `fetch` with. -/
def fetchCall (headers : List (String × String)) : FetchCall where
  url := options.url
  method := options.method
  headers := headers
  body := options.body.map Json.Value.toString

/-- How often a request may be tried again. -/
def maxRetries : ℕ :=
  if options.retryable ∧ (options.method = .get ∨ options.method = .post) then
    client.retry.maxRetries
  else 0

/-- `readJson`. -/
def readJson (text : String) : Option Json.Value :=
  if trim text = "" then none else client.parseJson text

/-- `retryDelay`. -/
def retryDelay (retryIndex : ℕ) (response : Option Response) : ℕ :=
  match response.bind Response.retryAfter with
  | some retryAfter => min retryAfter client.retry.maxDelayMs
  | none => min (client.retry.baseDelayMs * 2 ^ retryIndex) client.retry.maxDelayMs

/-! ## A request under way -/

/-- How an attempt ends. -/
inductive Attempt (T : Type)
  /-- A successful response is parsed. -/
  | parsed (value : T)
  /-- A successful response does not match its contract. -/
  | malformed (message : String)
  /-- A response with an error status. -/
  | refused (error : ApiError)
  | timedOut
  /-- `fetch` or the reading of the body fails. -/
  | failed (error : Thrown)
  deriving DecidableEq, Repr

/-- What a request settles with when the attempt is its last. -/
def Attempt.result : Attempt T → Except Thrown T
  | parsed value => .ok value
  | malformed message => .error (.response message)
  | refused error => .error (.api error)
  | timedOut => .error .timeout
  | failed error => .error error

/-- Whether another attempt may follow: after a retryable status, a timeout or a network error. -/
def Attempt.isRetryable : Attempt T → Bool
  | parsed _ | malformed _ => false
  | refused error => retryableStatuses.contains error.status
  | timedOut => true
  | failed (.api _) | failed (.response _) => false
  | failed _ => true

/-- What a request awaits. -/
inductive Stage
  /-- Its API key, if it needs one. -/
  | starting
  | fetching
  | reading (response : Response)
  /-- `waitForRetry`, in the `try` block or in the `catch` clause. -/
  | waiting (delayMs : ℕ) (caught : Bool)
  | settled
  deriving DecidableEq, Repr

/-- A call of `request`. -/
structure RequestState where
  stage : Stage
  headers : List (String × String)
  retryIndex : ℕ
  /-- Whether the timer of the attempt has fired. -/
  timedOut : Bool
  /-- What an aborted signal makes `waitForRetry` reject with. -/
  aborted : Option Thrown
  deriving DecidableEq, Repr

/-- What can be told of a run. -/
inductive RequestEvent (T : Type)
  | fetched (call : FetchCall)
  | ended (attempt : Attempt T)
  /-- A wait before another attempt begins. -/
  | waited (delayMs : ℕ)
  | aborted (reason : Thrown)
  | settled (result : Except Thrown T)

/-- What happens next. -/
inductive RequestAction
  /-- A request that needs no API key starts. -/
  | start
  | keyRead (answer : Except Thrown String)
  | fetchResolved (response : Response)
  | fetchRejected (error : Thrown)
  | bodyRead (text : String)
  | bodyFailed (error : Thrown)
  | timerFired
  /-- The caller aborts; the reason may be no error. -/
  | abort (reason : Option Thrown)
  | waitElapsed
  deriving DecidableEq, Repr

/-- The result of a step. -/
abbrev Turn (T : Type) := RequestState × List (RequestEvent T)

namespace RequestState

variable (state : RequestState)

/-- The state of a call that begins. -/
def initial : RequestState where
  stage := .starting
  headers := baseHeaders client options
  retryIndex := 0
  timedOut := false
  aborted := none

/-- `request` settles. -/
def settle (result : Except Thrown T) : Turn T :=
  ({ state with stage := .settled }, [.settled result])

/-- An attempt starts: a new timer, and `fetch`. -/
def attempt : Turn T :=
  ({ state with stage := .fetching, timedOut := false },
    [.fetched (fetchCall options state.headers)])

/-- `waitForRetry` in the `catch` clause: a rejection settles the request. -/
def waitCaught (delayMs : ℕ) : Turn T :=
  match state.aborted with
  | some reason =>
      if delayMs = 0 then
        ({ state with stage := .waiting delayMs true }, [.waited delayMs])
      else state.settle (.error reason)
  | none => ({ state with stage := .waiting delayMs true }, [.waited delayMs])

/-- The `catch` clause. -/
def caught (error : Thrown) : Turn T :=
  match error with
  | .api _ | .response _ => state.settle (.error error)
  | _ =>
      if state.timedOut then
        if state.retryIndex < maxRetries client options then
          state.waitCaught (retryDelay client state.retryIndex none)
        else state.settle (.error .timeout)
      else if error = .timeout then
        if state.retryIndex < maxRetries client options then
          state.waitCaught (retryDelay client state.retryIndex none)
        else state.settle (.error error)
      else if state.aborted.isSome then state.settle (.error error)
      else if state.retryIndex < maxRetries client options then
        state.waitCaught (retryDelay client state.retryIndex none)
      else state.settle (.error error)

/-- `waitForRetry` in the `try` block: a rejection is caught. -/
def waitTried (delayMs : ℕ) : Turn T :=
  match state.aborted with
  | some reason =>
      if delayMs = 0 then
        ({ state with stage := .waiting delayMs false }, [.waited delayMs])
      else state.caught client options reason
  | none => ({ state with stage := .waiting delayMs false }, [.waited delayMs])

/-- How an attempt ends in which `fetch` or the body fails. -/
def failedAttempt (error : Thrown) : Attempt T :=
  match error with
  | .api _ | .response _ => .failed error
  | _ => if state.timedOut then .timedOut else .failed error

/-- An attempt ends, and something follows. -/
def andThen (attempt : Attempt T) (turn : Turn T) : Turn T := (turn.1, .ended attempt :: turn.2)

/-- `fetch` or the body fails. -/
def fail (error : Thrown) : Turn T :=
  andThen (state.failedAttempt error) (state.caught client options error)

/-- The body of a response is read. -/
def read (response : Response) (text : String) : Turn T :=
  let body := readJson client text
  if response.ok then
    match client.parser body with
    | .ok value => andThen (.parsed value) (state.settle (.ok value))
    | .error message => andThen (.malformed message) (state.settle (.error (.response message)))
  else
    let error := createApiError response body
    andThen (.refused error)
      (if state.retryIndex < maxRetries client options ∧
          retryableStatuses.contains response.status then
        state.waitTried client options (retryDelay client state.retryIndex (some response))
      else state.settle (.error (.api error)))

/-- `readApiKey` answers. -/
def authenticate (answer : Except Thrown String) : Turn T :=
  match answer with
  | .error error => state.settle (.error error)
  | .ok secret =>
      if trim secret = "" then
        state.settle (.error (.configuration "The OpenPrinter API key must not be empty."))
      else
        attempt options { state with
          headers := setHeader "authorization" ("Bearer " ++ trim secret) state.headers }

/-- The answers that `readApiKey` can give. -/
def keyAnswers (answer : Except Thrown String) : Bool :=
  match client.apiKey with
  | none => answer = .error (.configuration ("An OpenPrinter API key is required for jobs. Set " ++
      "OPENPRINTER_API_KEY or pass apiKey to the client."))
  | some (.text secret) => answer = .ok secret
  | some .provider => true

/-- The signal of the caller is aborted. -/
def abort (reason : Thrown) : Turn T :=
  let aborted := { state with aborted := some reason }
  let turn : Turn T :=
    match state.stage with
    -- a wait of no time does not listen
    | .waiting 0 _ => (aborted, [])
    | .waiting _ true => aborted.settle (.error reason)
    | .waiting _ false => aborted.caught client options reason
    | _ => (aborted, [])
  (turn.1, .aborted reason :: turn.2)

/-- Whether the timer of an attempt runs. -/
def timed : Bool :=
  match state.stage with
  | .fetching | .reading _ | .waiting _ _ => true
  | .starting | .settled => false

/-- A step of a request. -/
def step : RequestAction → Option (Turn T)
  | .start =>
      if state.stage = .starting ∧ options.authenticated = false then some (state.attempt options)
      else none
  | .keyRead answer =>
      if state.stage = .starting ∧ options.authenticated ∧ keyAnswers client answer then
        some (state.authenticate options answer)
      else none
  | .fetchResolved response =>
      if state.stage = .fetching then
        if state.timedOut then some (state.fail client options .timeout)
        else some ({ state with stage := .reading response }, [])
      else none
  | .fetchRejected error =>
      if state.stage = .fetching then some (state.fail client options error) else none
  | .bodyRead text =>
      match state.stage with
      | .reading response => some (state.read client options response text)
      | _ => none
  | .bodyFailed error =>
      match state.stage with
      | .reading _ => some (state.fail client options error)
      | _ => none
  | .timerFired =>
      if state.timed then some ({ state with timedOut := true }, []) else none
  | .abort reason =>
      if options.signal ∧ state.aborted = none ∧ state.stage ≠ .settled then
        some (state.abort client options (reason.getD .abortError))
      else none
  | .waitElapsed =>
      match state.stage with
      | .waiting _ _ => some (attempt options { state with retryIndex := state.retryIndex + 1 })
      | _ => none

end RequestState

/-- A request as a system. -/
def requests : System RequestState RequestAction (RequestEvent T) where
  step state action := state.step client options action

end Request

end Oppa.Sdk
