import Oppa.Discovery.Manager
import Oppa.Foundation.OrderedMap
import Mathlib.Data.String.Basic

/-!
# The queues that `lpstat` lists

`parse_lpstat` reads the output of `lpstat -p -v` line by line.  A line is trimmed before its first
word is looked at, so it does not matter whether it is indented.

* `parseLpstat` — the parser.
* `reading` — what a line is read as: the status of a queue, its device, or nothing.
* `lastOf` — what is read last of a kind.
* **`mem_parseLpstat_iff`** — a printer of the result has the status and the device that are read
  last for its name.
-/

namespace Oppa.Discovery

open Printer Text

/-- What is known of a queue while the output is read. -/
structure Queue where
  seen : Bool := false
  offline : Bool := false
  ready : Bool := false
  uri : Option String := none
  deriving DecidableEq, Repr

/-- The capabilities of a system queue before its route for PDFs is described. -/
def parsedCapabilities : PrinterCapabilities where
  receiptWidthsMm := [58, 80]
  escPos := false
  systemDriver := true
  raster := true
  cut := false
  qrCode := true
  barcode := true
  cancellation := true
  pdf := none

/-- The availability of a queue. -/
def Queue.availability (queue : Queue) : PrinterAvailability :=
  if queue.offline then .offline else if queue.ready then .online else .unknown

/-- The printer of a queue. -/
def Queue.printer (name : String) (queue : Queue) : DiscoveredPrinter where
  id := none
  name := name
  kind := .unknown
  connection := .systemQueue name
  fingerprint := { queueName := some name, deviceUri := queue.uri }
  availability := queue.availability
  capabilities := some parsedCapabilities
  providers :=
    [{ provider := "system-queue", providerId := some name,
       attributes := (queue.uri.map fun uri => ("deviceUri", uri)).toList }]

/-- `str::strip_prefix`. -/
def stripPrefix (start : String) (cs : List Char) : Option (List Char) :=
  if startsWith cs start then some (cs.drop start.toList.length) else none

/-- The words of a status in lower case that tell that a queue is offline. -/
def tellsOffline (status : List Char) : Bool :=
  contains "disabled".toList status || contains "offline".toList status

/-- The words of a status in lower case that tell that a queue is ready. -/
def tellsReady (status : List Char) : Bool :=
  contains "idle".toList status || contains "printing".toList status ||
    contains "processing".toList status || contains "enabled".toList status

/-- What a status says about a queue. -/
def readStatus (status : List Char) (queue : Queue) : Queue :=
  let status := toAsciiLowercase status
  { queue with
    seen := true
    offline := tellsOffline status
    ready := !tellsOffline status && tellsReady status }

/-- Changes the entry of a queue, which is made when there is none. -/
def changeQueue (queues : OrderedMap String Queue) (name : String) (change : Queue → Queue) :
    OrderedMap String Queue :=
  queues.insert name (change ((queues.get name).getD {}))

/-- One line of the output. -/
def readQueueLine (queues : OrderedMap String Queue) (rawLine : List Char) :
    OrderedMap String Queue :=
  let line := trimChars rawLine
  match (stripPrefix "printer " line).bind (Protocol.splitOnce ' ') with
  | some (name, status) => changeQueue queues (String.ofList name) (readStatus status)
  | none =>
      match (stripPrefix "device for " line).bind (Protocol.splitOnce ':') with
      | some (name, uri) =>
          if trimChars name ≠ [] ∧ trimChars uri ≠ [] then
            changeQueue queues (String.ofList (trimChars name)) fun queue =>
              { queue with uri := some (String.ofList (trimChars uri)) }
          else queues
      | none => queues

/-- `parse_lpstat`. -/
def parseLpstat (output : String) : List DiscoveredPrinter :=
  let queues := (lines output.toList).foldl readQueueLine .empty
  (queues.entries.filter fun entry => entry.2.seen || entry.2.uri.isSome).map fun entry =>
    entry.2.printer entry.1

/-- The observation of a queue is its printer with a route for PDFs. -/
lemma observation_eq_printer (name : String) (queue : Queue) (options : Option String) :
    (QueueReport.cups name queue.uri queue.availability options).observation =
      { queue.printer name with
        capabilities := some
          { parsedCapabilities with
            pdf := some ((options.map CupsQueueOptions.parse).getD .default).pdfCapabilities } } :=
  rfl

/-! ## What a line is read as -/

/-- What a line of the output is read as. -/
inductive Reading
  | status (name : String) (availability : PrinterAvailability)
  | device (name uri : String)
  deriving DecidableEq, Repr

/-- The queue that a line is about. -/
def Reading.name : Reading → String
  | status name _ => name
  | device name _ => name

/-- The availability that a status tells. -/
def availabilityOf (status : List Char) : PrinterAvailability := (readStatus status {}).availability

/-- What a line is read as, if it is read at all. -/
def reading (rawLine : List Char) : Option Reading :=
  let line := trimChars rawLine
  match (stripPrefix "printer " line).bind (Protocol.splitOnce ' ') with
  | some (name, status) => some (.status (String.ofList name) (availabilityOf status))
  | none =>
      match (stripPrefix "device for " line).bind (Protocol.splitOnce ':') with
      | some (name, uri) =>
          if trimChars name ≠ [] ∧ trimChars uri ≠ [] then
            some (.device (String.ofList (trimChars name)) (String.ofList (trimChars uri)))
          else none
      | none => none

/-- A queue with a status. -/
def Queue.withAvailability (queue : Queue) (availability : PrinterAvailability) : Queue :=
  { queue with
    seen := true
    offline := availability = .offline
    ready := availability = .online }

/-- What becomes of the queues by what is read. -/
def Reading.absorb (queues : OrderedMap String Queue) : Reading → OrderedMap String Queue
  | status name availability => changeQueue queues name (·.withAvailability availability)
  | device name uri => changeQueue queues name fun queue => { queue with uri := some uri }

lemma readStatus_eq (status : List Char) (queue : Queue) :
    readStatus status queue = queue.withAvailability (availabilityOf status) := by
  simp only [readStatus, Queue.withAvailability, availabilityOf, Queue.availability]
  by_cases hoffline : tellsOffline (toAsciiLowercase status) = true
  · simp [hoffline]
  · by_cases hready : tellsReady (toAsciiLowercase status) = true <;> simp [hoffline, hready]

/-- **A line changes what it is read as**, and nothing when it is read as nothing. -/
lemma readQueueLine_eq (queues : OrderedMap String Queue) (rawLine : List Char) :
    readQueueLine queues rawLine = (reading rawLine).elim queues (Reading.absorb queues) := by
  rw [readQueueLine, reading]
  cases (stripPrefix "printer " (trimChars rawLine)).bind (Protocol.splitOnce ' ') with
  | some parts =>
      rcases parts with ⟨name, status⟩
      simp only [Option.elim_some, Reading.absorb]
      rw [funext (readStatus_eq status)]
  | none =>
      cases (stripPrefix "device for " (trimChars rawLine)).bind (Protocol.splitOnce ':') with
      | none => rfl
      | some parts =>
          rcases parts with ⟨name, uri⟩
          by_cases hparts : trimChars name ≠ [] ∧ trimChars uri ≠ []
          · simp only [if_pos hparts]
            rfl
          · simp only [if_neg hparts]
            rfl

lemma foldl_readQueueLine (rawLines : List (List Char)) (queues : OrderedMap String Queue) :
    rawLines.foldl readQueueLine queues =
      (rawLines.filterMap reading).foldl Reading.absorb queues := by
  induction rawLines generalizing queues with
  | nil => rfl
  | cons rawLine rawLines ih =>
      rw [List.foldl_cons, ih, readQueueLine_eq]
      cases hreading : reading rawLine with
      | none => rw [List.filterMap_cons_none hreading]; rfl
      | some found => rw [List.filterMap_cons_some hreading, List.foldl_cons]; rfl

/-! ## What is read last -/

section Last

variable {α β : Type}

/-- What is found last in a list. -/
def lastOf (f : α → Option β) (xs : List α) : Option β := xs.reverse.findSome? f

variable {f : α → Option β} {xs : List α} {x : α} {y : β}

@[simp] lemma lastOf_nil : lastOf f [] = none := rfl

lemma lastOf_concat : lastOf f (xs ++ [x]) = (f x).or (lastOf f xs) := by
  rw [lastOf, List.reverse_append, List.reverse_singleton, List.singleton_append,
    List.findSome?_cons]
  cases f x <;> rfl

lemma lastOf_eq_none_iff : lastOf f xs = none ↔ ∀ x ∈ xs, f x = none := by
  simp [lastOf, List.findSome?_eq_none_iff]

lemma exists_of_lastOf (hlast : lastOf f xs = some y) : ∃ x ∈ xs, f x = some y := by
  rcases List.exists_of_findSome?_eq_some hlast with ⟨x, hx, hy⟩
  exact ⟨x, List.mem_reverse.mp hx, hy⟩

lemma lastOf_ne_none_iff : lastOf f xs ≠ none ↔ ∃ x ∈ xs, ∃ y, f x = some y := by
  simp only [Ne, lastOf_eq_none_iff, not_forall, exists_prop, Option.ne_none_iff_exists']

lemma lastOf_congr {g : α → Option β} (hsame : ∀ x ∈ xs, f x = g x) :
    lastOf f xs = lastOf g xs := by
  induction xs using List.reverseRecOn with
  | nil => rfl
  | append_singleton xs x ih =>
      rw [lastOf_concat, lastOf_concat, hsame x (by simp),
        ih fun y hy => hsame y (List.mem_append_left _ hy)]

lemma lastOf_filterMap {γ : Type} (g : γ → Option α) (zs : List γ) :
    lastOf f (zs.filterMap g) = lastOf (fun z => (g z).bind f) zs := by
  induction zs using List.reverseRecOn with
  | nil => rfl
  | append_singleton zs z ih =>
      rw [lastOf_concat, List.filterMap_append]
      cases hz : g z with
      | none => simp [hz, ih]
      | some x => simp [hz, lastOf_concat, ih]

end Last

/-- The availability that is read for a queue. -/
def Reading.statusOf (name : String) : Reading → Option PrinterAvailability
  | status found availability => if found = name then some availability else none
  | device _ _ => none

/-- The device that is read for a queue. -/
def Reading.uriOf (name : String) : Reading → Option String
  | status _ _ => none
  | device found uri => if found = name then some uri else none

/-- A queue of which a status, a device or both are known. -/
def queueOf : Option PrinterAvailability → Option String → Option Queue
  | none, none => none
  | status, uri =>
      some
        { seen := status.isSome
          offline := status = some .offline
          ready := status = some .online
          uri := uri }

lemma queueOf_status (availability : PrinterAvailability) (status : Option PrinterAvailability)
    (uri : Option String) :
    queueOf (some availability) uri =
      some (((queueOf status uri).getD {}).withAvailability availability) := by
  cases status <;> cases uri <;> cases availability <;> rfl

lemma queueOf_device (found : String) (status : Option PrinterAvailability)
    (uri : Option String) :
    queueOf status (some found) =
      some { (queueOf status uri).getD {} with uri := some found } := by
  cases status with
  | none => cases uri <;> rfl
  | some availability => cases uri <;> cases availability <;> rfl

/-- **A queue is known by what is read last for it.** -/
lemma get_foldl_absorb (readings : List Reading) (name : String) :
    (readings.foldl Reading.absorb .empty).get name =
      queueOf (lastOf (Reading.statusOf name) readings) (lastOf (Reading.uriOf name) readings) := by
  induction readings using List.reverseRecOn with
  | nil => rfl
  | append_singleton readings found ih =>
      rw [List.foldl_append, List.foldl_cons, List.foldl_nil, lastOf_concat, lastOf_concat]
      cases found with
      | status found availability =>
          rw [Reading.absorb, changeQueue, OrderedMap.get_insert]
          simp only [Reading.statusOf, Reading.uriOf, Option.none_or]
          by_cases hname : name = found
          · rw [if_pos hname, if_pos hname.symm, Option.some_or, ← hname, ih]
            exact (queueOf_status _ _ _).symm
          · rw [if_neg hname, if_neg (Ne.symm hname), Option.none_or]
            exact ih
      | device found uri =>
          rw [Reading.absorb, changeQueue, OrderedMap.get_insert]
          simp only [Reading.statusOf, Reading.uriOf, Option.none_or]
          by_cases hname : name = found
          · rw [if_pos hname, if_pos hname.symm, Option.some_or, ← hname, ih]
            exact (queueOf_device _ _ _).symm
          · rw [if_neg hname, if_neg (Ne.symm hname), Option.none_or]
            exact ih

/-! ## The printers of an output -/

/-- What the lines of an output are read as. -/
def readings (output : String) : List Reading := (lines output.toList).filterMap reading

section Printers

variable {output : String} {printer : DiscoveredPrinter}

lemma queueOf_seen {status : Option PrinterAvailability} {uri : Option String} {queue : Queue}
    (hqueue : queueOf status uri = some queue) : (queue.seen || queue.uri.isSome) = true := by
  cases status with
  | none =>
      cases uri with
      | none => cases hqueue
      | some uri => cases hqueue; rfl
  | some availability =>
      cases uri <;> cases hqueue <;> rfl

/-- **A printer of the result** has the status and the device that are read last for its name. -/
theorem mem_parseLpstat_iff : printer ∈ parseLpstat output ↔
    ∃ name queue, queueOf (lastOf (Reading.statusOf name) (readings output))
      (lastOf (Reading.uriOf name) (readings output)) = some queue ∧
      printer = queue.printer name := by
  have hget := get_foldl_absorb (readings output)
  simp only [parseLpstat, List.mem_map, List.mem_filter, foldl_readQueueLine]
  constructor
  · rintro ⟨⟨name, queue⟩, ⟨hentry, _⟩, rfl⟩
    rw [← OrderedMap.get_eq_some_iff] at hentry
    exact ⟨name, queue, by rw [← hget]; exact hentry, rfl⟩
  · rintro ⟨name, queue, hqueue, rfl⟩
    refine ⟨(name, queue), ⟨?_, queueOf_seen hqueue⟩, rfl⟩
    rw [← OrderedMap.get_eq_some_iff]
    exact (hget name).trans hqueue

/-- No name has two printers. -/
lemma nodup_names_parseLpstat : ((parseLpstat output).map (·.name)).Nodup := by
  have hnodup := OrderedMap.nodup_keys ((lines output.toList).foldl readQueueLine .empty)
  rw [parseLpstat, List.map_map]
  exact hnodup.sublist (List.filter_sublist.map Prod.fst)

end Printers

end Oppa.Discovery
