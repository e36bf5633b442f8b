import Oppa.Storage.Invariant

/-!
# Redelivery before and after pruning

Retention replaces the payload of a terminal job by the text `null` and keeps its fingerprint.  A
redelivery is then compared by fingerprint instead of by value; this file shows that the two
comparisons decide the same relation.

* `RoundTrips`, `PrintsAlike`, `HashesApart` — what the comparison relies on of `serde_json` and
  SHA-256, on the two payloads compared.
* **`redelivery_same_after_pruning`** — the answer to a redelivery does not depend on whether the
  stored payload has been pruned.
-/

namespace Oppa

variable {Value : Type} [BEq Value]

/-- Parsing the text of a value gives an equal value. -/
def RoundTrips (codec : Codec Value) (v : Value) : Prop :=
  ∃ w, codec.fromStr (codec.toString v) = some w ∧ (w == v) = true

/-- Equal values print identically. -/
def PrintsAlike (codec : Codec Value) (v w : Value) : Prop :=
  (v == w) = true → codec.toString v = codec.toString w

/-- The digest is injective on the texts of two values. -/
def HashesApart (codec : Codec Value) (v w : Value) : Prop :=
  codec.sha256Hex (codec.toString v) = codec.sha256Hex (codec.toString w) →
    codec.toString v = codec.toString w

/-- The columns a payload replacement writes. -/
def payloadUpdate (text : String) : RowUpdate where
  apply row := { row with payloadJson := text }
  jobId _ := rfl
  idempotencyKey _ := rfl

/-- The tables with the payload column of one job set to `text`. -/
def Database.withPayload (db : Database) (id : PrintJobId) (text : String) : Database :=
  db.updateJobs (fun row => row.jobId = id) (payloadUpdate text)

lemma job_withPayload {db : Database} {id : PrintJobId} {row : PrintJobRow} {text : String}
    (hrow : db.job id = some row) :
    (db.withPayload id text).job id = some { row with payloadJson := text } := by
  obtain ⟨hmem, hid⟩ := Database.job_eq_some.mp hrow
  refine Database.job_eq_some.mpr ⟨Table.mem_updateWhere.mpr (Or.inr ⟨row, hmem, ?_, rfl⟩), hid⟩
  exact decide_eq_true hid

section Compare

variable {codec : Codec Value} {v w : Value}

/-- **The two comparisons agree.**  Values have the same fingerprint exactly when they are equal. -/
lemma fingerprint_eq_iff [EquivBEq Value] (hv : RoundTrips codec v) (hw : RoundTrips codec w)
    (hprint : PrintsAlike codec v w) (hhash : HashesApart codec v w) :
    payloadFingerprint codec v = payloadFingerprint codec w ↔ (v == w) = true := by
  constructor
  · intro hsha
    obtain ⟨v', hv', hveq⟩ := hv
    obtain ⟨w', hw', hweq⟩ := hw
    rw [hhash hsha, hw', Option.some.injEq] at hv'
    subst hv'
    exact BEq.trans (BEq.symm hveq) hweq
  · intro heq
    rw [payloadFingerprint, payloadFingerprint, hprint heq]

variable {row : PrintJobRow} {stored delivery : ReceivedPrintJob Value}

/-- A stored row is compared by the value it was inserted with, pruned or not. -/
lemma payloadMatches_eq [EquivBEq Value]
    (hsha : row.payloadSha256 = payloadFingerprint codec stored.payload)
    (htext : row.payloadJson = codec.toString stored.payload ∨ row.payloadJson = "null")
    (hstored : RoundTrips codec stored.payload) (hdelivery : RoundTrips codec delivery.payload)
    (hprint : PrintsAlike codec stored.payload delivery.payload)
    (hhash : HashesApart codec stored.payload delivery.payload) :
    payloadMatches codec delivery row = .ok (stored.payload == delivery.payload) := by
  have hiff := fingerprint_eq_iff hstored hdelivery hprint hhash
  unfold payloadMatches
  split
  · rw [hsha]
    refine congrArg Except.ok (Bool.eq_iff_iff.mpr ?_)
    rw [beq_iff_eq, hiff]
  · rename_i hnull
    obtain ⟨w, hw, heq⟩ := hstored
    rw [htext.resolve_right hnull, hw]
    exact congrArg Except.ok (BEq.congr_left heq)

omit [BEq Value] in
/-- The row a delivered job was inserted with determines how every later row of it compares. -/
lemma StoredFrom.of_receivedRow {job : ReceivedPrintJob Value} (h : StoredFrom codec row job)
    (hrow : receivedRow codec job (codec.toString job.payload)
      = receivedRow codec stored (codec.toString stored.payload)) :
    row.payloadSha256 = payloadFingerprint codec stored.payload ∧
      (row.payloadJson = codec.toString stored.payload ∨ row.payloadJson = "null") := by
  have hsha := congrArg PrintJobRow.payloadSha256 hrow
  have htext := congrArg PrintJobRow.payloadJson hrow
  simp only [receivedRow] at hsha htext
  exact ⟨h.fingerprint.trans hsha, (htext ▸ h.payload).imp id And.right⟩

end Compare

/-- The answer to a redelivery of a stored job reads its payload only through the comparison. -/
lemma insertReceived_congr {codec : Codec Value} {limits : StorageLimits}
    {delivery : ReceivedPrintJob Value} {db db' : Database} {row row' : PrintJobRow}
    (hrow : db.job delivery.id = some row) (hrow' : db'.job delivery.id = some row')
    (hkey : row'.idempotencyKey = row.idempotencyKey) (hprinter : row'.printerId = row.printerId)
    (hstate : row'.state = row.state)
    (hmatches : payloadMatches codec delivery row' = payloadMatches codec delivery row) :
    (insertReceived codec limits delivery db').1 = (insertReceived codec limits delivery db).1 := by
  cases hprep : prepareReceived codec delivery with
  | error e => simp only [insertReceived, hprep]
  | ok payload =>
      rw [insertReceived_of_stored hprep hrow, insertReceived_of_stored hprep hrow']
      simp only [classifyDelivery, hkey, hprinter, hstate, hmatches]

/-- **Redelivery is classified the same before and after pruning.**  For a job stored by any
sequence of operations and any later delivery with its id, the answer of `insert_received` is the
one it would give with the payload `stored` was inserted with, and the one it would give with that
payload replaced by `null`. -/
theorem redelivery_same_after_pruning [EquivBEq Value] (storage : SqliteStorage Value)
    (actions : List (StoreAction Value)) (stored delivery : ReceivedPrintJob Value)
    {row : PrintJobRow} (hrow : (runOperations storage actions).2.job delivery.id = some row)
    (hinserted : lastInserted delivery.id (runOperations storage actions).1
      = some (receivedRow storage.codec stored (storage.codec.toString stored.payload)))
    (hstored : RoundTrips storage.codec stored.payload)
    (hdelivery : RoundTrips storage.codec delivery.payload)
    (hprint : PrintsAlike storage.codec stored.payload delivery.payload)
    (hhash : HashesApart storage.codec stored.payload delivery.payload) :
    let answer := fun db => (insertReceived storage.codec storage.limits delivery db).1
    let db := (runOperations storage actions).2
    answer (db.withPayload delivery.id "null")
        = answer (db.withPayload delivery.id (storage.codec.toString stored.payload)) ∧
      answer db
        = answer (db.withPayload delivery.id (storage.codec.toString stored.payload)) := by
  intro answer db
  obtain ⟨hmem, hid⟩ := Database.job_eq_some.mp hrow
  obtain ⟨job, -, hlast, hfrom⟩ := (storeInvariant_runOperations storage actions).origin row hmem
  rw [hid, hinserted, Option.some.injEq] at hlast
  obtain ⟨hsha, htext⟩ := hfrom.of_receivedRow hlast.symm
  have hcompare : ∀ text, text = storage.codec.toString stored.payload ∨ text = "null" →
      payloadMatches storage.codec delivery { row with payloadJson := text }
        = .ok (stored.payload == delivery.payload) := fun text htext' =>
    payloadMatches_eq hsha htext' hstored hdelivery hprint hhash
  have horiginal := hcompare _ (Or.inl rfl)
  refine ⟨insertReceived_congr (job_withPayload hrow) (job_withPayload hrow) rfl rfl rfl ?_,
    insertReceived_congr (job_withPayload hrow) hrow rfl rfl rfl ?_⟩
  · rw [hcompare _ (Or.inr rfl), horiginal]
  · rw [payloadMatches_eq hsha htext hstored hdelivery hprint hhash, horiginal]

/-! ## A submitted job, delivered again -/

section Sample

/-- `serde_json` and SHA-256 on the two JSON booleans. -/
def booleanCodec : Codec Bool where
  toString b := if b then "true" else "false"
  fromStr text := if text = "true" then some true else if text = "false" then some false else none
  sha256Hex text :=
    if text = "true" then "b5bea41b6c623f7c09f1bf24dcae58ebab3c0cdd90ad966bc43a45b44867e12b"
    else if text = "false" then "fcbcf165908dd18a9e49f7ff27810176db8e9f63b4352213741664245224f8aa"
    else ""

lemma booleanId_valid : validateIdentifier "job_1" = .ok () := by decide

lemma booleanPrinter_valid : validateIdentifier "printer_1" = .ok () := by decide

/-- A delivery of the boolean `payload`. -/
def booleanJob (payload : Bool) : ReceivedPrintJob Bool where
  id := ⟨"job_1", booleanId_valid⟩
  idempotencyKey := "delivery:job_1"
  printerId := ⟨"printer_1", booleanPrinter_valid⟩
  payload := payload
  sourceMessageId := "server_job_1"
  receivedAt := ⟨1000⟩

/-- The job is delivered, claimed and submitted. -/
def booleanActions : List (StoreAction Bool) :=
  [⟨.insertReceived (booleanJob true), ⟨1000⟩⟩,
    ⟨.markSubmitting (booleanJob true).id, ⟨1001⟩⟩,
    ⟨.markSubmitted (booleanJob true).id
      { backendJobId := none, backend := "virtual", acceptedAt := ⟨1002⟩, metadata := [] }, ⟨1002⟩⟩]

/-- The row the job ends in. -/
def booleanRow : PrintJobRow where
  jobId := (booleanJob true).id
  idempotencyKey := "delivery:job_1"
  printerId := (booleanJob true).printerId
  payloadJson := "null"
  state := .submitted
  receivedAt := ⟨1000⟩
  updatedAt := ⟨1002⟩
  retryAttempts := 1
  recoveryCount := 0
  receipt := some { backendJobId := none, backend := "virtual", acceptedAt := ⟨1002⟩, metadata := [] }
  error := none
  sourceMessageId := "server_job_1"
  payloadSha256 := "b5bea41b6c623f7c09f1bf24dcae58ebab3c0cdd90ad966bc43a45b44867e12b"

/-- Once submitted and pruned, a different content is still a conflict. -/
theorem redelivery_same_after_pruning_conflict :
    let storage : SqliteStorage Bool := { codec := booleanCodec, limits := .default }
    let db := (runOperations storage booleanActions).2
    (insertReceived storage.codec storage.limits (booleanJob false) db).1
      = (insertReceived storage.codec storage.limits (booleanJob false)
          (db.withPayload (booleanJob false).id "true")).1 :=
  (redelivery_same_after_pruning { codec := booleanCodec, limits := .default } booleanActions
    (booleanJob true) (booleanJob false) (show _ = some booleanRow by decide +kernel)
    (by decide +kernel) ⟨true, rfl, rfl⟩ ⟨false, rfl, rfl⟩ (fun h => absurd h (by decide))
    fun h => absurd h (by decide)).2

end Sample

end Oppa
