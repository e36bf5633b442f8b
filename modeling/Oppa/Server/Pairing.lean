import Mathlib.Data.Finset.Basic
import Oppa.Foundation.History
import Oppa.Foundation.Roster

/-!
# Pairing codes

The store of pairing codes that a server keeps in memory, and what consuming a code does while the
registrations of agents are under way.

* `normalizedCode` — the form in which codes are compared.
* `PairingCodeStore` — the three collections of the store, the registrations under way, and the
  credentials that pairing creates.
* `create`, `consume`, `settle` — the calls, and the end of a registration, at any later time.
* `SingleUse` — a code leads to one registration and one credential, is never used after it was
  consumed or expired, and can be used again after a registration failed.
* **`single_use`** — every run keeps this, whatever is created, consumed and settled in between.
-/

namespace Oppa.Server

open History

/-- What `Date.getTime` returns: no number for an invalid date. -/
abbrev Instant := Option ℤ

/-- Opaque metadata bound to a one-time pairing grant. -/
structure PairingCodeRecord (Metadata : Type) where
  code : String
  createdAt : Instant
  expiresAt : Instant
  metadata : Option Metadata
  deriving DecidableEq, Repr

/-- Whether a record has expired: no comparison with an invalid date holds. -/
def PairingCodeRecord.expired {Metadata : Type} (record : PairingCodeRecord Metadata)
    (now : Instant) : Bool :=
  match record.expiresAt, now with
  | some expiresAt, some now => expiresAt ≤ now
  | _, _ => false

/-- `PairingCodeConsumeResult`. -/
inductive PairingCodeConsumeResult
  | consumed
  | expired
  | invalid
  | alreadyConsumed
  deriving DecidableEq, Repr

/-- The key under which a credential is kept. -/
structure CredentialKey where
  agentId : String
  keyId : String
  deriving DecidableEq, Repr

/-- The callback that a consumer passes. -/
inductive Registration
  /-- The callback of `pair`, which creates a credential under random identifiers. -/
  | pair (credential : CredentialKey)
  /-- Any other callback: when it ends, and how, is open. -/
  | callback
  deriving DecidableEq, Repr

/-- A registration that is under way.  The outcome is known where the callback has done its work
before its first await. -/
structure Flight (Metadata : Type) where
  key : String
  record : PairingCodeRecord Metadata
  outcome : Option Bool
  deriving DecidableEq, Repr

/-- `InMemoryPairingCodeStore`, with the registrations it awaits and the keys of
`InMemoryAgentCredentialStore`. -/
structure PairingCodeStore (Metadata : Type) where
  records : String → Option (PairingCodeRecord Metadata)
  consumed : Finset String
  consuming : Finset String
  flights : List (Flight Metadata)
  credentials : Finset CredentialKey

/-- What is observed of the store. -/
inductive PairingEvent (Metadata : Type)
  | created (key : String) (record : PairingCodeRecord Metadata)
  /-- `create` throws. -/
  | refused (key : String)
  /-- The callback of a consumer is called with a record. -/
  | started (key : String) (record : PairingCodeRecord Metadata)
  /-- A credential is created for the holder of a code. -/
  | credential (key : String)
  /-- A registration failed, and its consumer throws. -/
  | failed (key : String)
  /-- A consumer is answered; `consumed` is answered when its registration has succeeded. -/
  | answered (key : String) (result : PairingCodeConsumeResult)
  deriving DecidableEq, Repr

/-- What happens next. -/
inductive PairingAction (Metadata : Type)
  | create (input : PairingCodeRecord Metadata)
  | consume (code : String) (now : Instant) (register : Registration)
  /-- One of the registrations under way ends, and its consumer goes on. -/
  | settle (n : ℕ) (succeeds : Bool)
  deriving DecidableEq, Repr

/-- The store of a server that has just started. -/
def PairingCodeStore.empty (Metadata : Type) : PairingCodeStore Metadata where
  records := fun _ => none
  consumed := ∅
  consuming := ∅
  flights := []
  credentials := ∅

section Store

variable {Metadata : Type} (toUpperCase : String → String) (cloneable : Metadata → Bool)

/-- `normalizedCode`. -/
def normalizedCode (code : String) : String :=
  toUpperCase (String.ofList (code.toList.filter (· ≠ '-')))

/-- Whether `structuredClone` copies a record. -/
def clones (record : PairingCodeRecord Metadata) : Bool := record.metadata.all cloneable

/-- What a step leaves, and what is observed of it. -/
abbrev Stepped (Metadata : Type) := PairingCodeStore Metadata × List (PairingEvent Metadata)

namespace PairingCodeStore

variable (store : PairingCodeStore Metadata)

/-- `create`.  The record is kept before it is copied for the caller. -/
def create (input : PairingCodeRecord Metadata) : Stepped Metadata :=
  let key := normalizedCode toUpperCase input.code
  if (store.records key).isSome ∨ key ∈ store.consumed then (store, [.refused key])
  else
    ({ store with records := Function.update store.records key (some input) },
      [.created key input])

/-- The callback up to its first await: what `pair` does is done by then. -/
def register (key : String) (record : PairingCodeRecord Metadata) :
    Registration → Stepped Metadata
  | .callback =>
      ({ store with
          consuming := insert key store.consuming
          flights := store.flights ++ [{ key := key, record := record, outcome := none }] },
        [.started key record])
  | .pair credential =>
      if credential ∈ store.credentials then
        ({ store with
            consuming := insert key store.consuming
            flights := store.flights ++ [{ key := key, record := record, outcome := some false }] },
          [.started key record])
      else
        ({ store with
            consuming := insert key store.consuming
            credentials := insert credential store.credentials
            flights := store.flights ++ [{ key := key, record := record, outcome := some true }] },
          [.started key record, .credential key])

/-- `consume`, up to its first await. -/
def consume (code : String) (now : Instant) (registration : Registration) : Stepped Metadata :=
  let key := normalizedCode toUpperCase code
  if key ∈ store.consumed ∨ key ∈ store.consuming then
    (store, [.answered key .alreadyConsumed])
  else
    match store.records key with
    | none => (store, [.answered key .invalid])
    | some record =>
        if record.expired now then
          ({ store with
              records := Function.update store.records key none
              consumed := insert key store.consumed },
            [.answered key .expired])
        else if clones cloneable record then store.register key record registration
        else (store, [.failed key])

/-- The rest of `consume`, once its registration has ended. -/
def settle (flight : Flight Metadata) (n : ℕ) (succeeds : Bool) : Stepped Metadata :=
  if succeeds then
    ({ store with
        records := Function.update store.records flight.key none
        consumed := insert flight.key store.consumed
        consuming := store.consuming.erase flight.key
        flights := store.flights.eraseIdx n },
      [.answered flight.key .consumed])
  else
    ({ store with
        consuming := store.consuming.erase flight.key
        flights := store.flights.eraseIdx n },
      [.failed flight.key])

/-- A step of the store. -/
def step : PairingAction Metadata → Option (Stepped Metadata)
  | .create input => some (store.create toUpperCase input)
  | .consume code now registration =>
      some (store.consume toUpperCase cloneable code now registration)
  | .settle n succeeds =>
      match store.flights[n]? with
      | none => none
      | some flight =>
          if flight.outcome.all (· = succeeds) then some (store.settle flight n succeeds) else none

end PairingCodeStore

/-- The store under any order of calls. -/
def pairing : System (PairingCodeStore Metadata) (PairingAction Metadata) (PairingEvent Metadata)
    where
  step store action := store.step toUpperCase cloneable action

end Store

/-! ## What codes are good for -/

/-- How far the consumption of a code has got. -/
inductive Progress
  | running
  | failed
  | over
  deriving DecidableEq, Repr

section Laws

variable {Metadata : Type}

/-- What an event says about the consumption of a code. -/
def progress (key : String) : PairingEvent Metadata → Option Progress
  | .started other _ => if other = key then some .running else none
  | .failed other => if other = key then some .failed else none
  | .answered other .consumed | .answered other .expired => if other = key then some .over else none
  | _ => none

/-- Whether a code was reported consumed or expired. -/
def Reported (past : List (PairingEvent Metadata)) (key : String) : Prop :=
  .answered key .consumed ∈ past ∨ .answered key .expired ∈ past

/-- A code that was reported consumed or expired is not accepted, and creates one credential. -/
def AcceptedOnce (past : List (PairingEvent Metadata)) : PairingEvent Metadata → Prop
  | .started key _ | .answered key .consumed => ¬ Reported past key
  | .credential key => ¬ Reported past key ∧ .credential key ∉ past
  | _ => True

/-- **Codes are for single use**, and a registration that failed leaves its code usable. -/
structure SingleUse (toUpperCase : String → String) (cloneable : Metadata → Bool)
    (history : List (PairingEvent Metadata)) (store : PairingCodeStore Metadata) : Prop where
  accepted : EachAfter AcceptedOnce history
  usable : ∀ code record, .started (normalizedCode toUpperCase code) record ∈ history →
    latest (progress (normalizedCode toUpperCase code)) history = some .failed →
      ∀ now registration, record.expired now = false → ∃ next events,
        (pairing toUpperCase cloneable).step store (.consume code now registration) =
          some (next, .started (normalizedCode toUpperCase code) record :: events)

end Laws

/-! ## What a step can do -/

section Steps

variable {Metadata : Type} {toUpperCase : String → String} {cloneable : Metadata → Bool}
  {store next : PairingCodeStore Metadata} {events past : List (PairingEvent Metadata)}

/-- Whether a code is neither used up nor in use. -/
def PairingCodeStore.Idle (store : PairingCodeStore Metadata) (key : String) : Prop :=
  key ∉ store.consumed ∧ key ∉ store.consuming

/-- What a step of the store can be. -/
inductive Pairs (cloneable : Metadata → Bool) (store : PairingCodeStore Metadata) :
    List (PairingEvent Metadata) → PairingCodeStore Metadata → Prop
  | created {key : String} {input : PairingCodeRecord Metadata} (hfree : store.records key = none)
      (hunused : key ∉ store.consumed) :
      Pairs cloneable store [.created key input]
        { store with records := Function.update store.records key (some input) }
  | refused {key : String} : Pairs cloneable store [.refused key] store
  | turnedAway {key : String} {result : PairingCodeConsumeResult}
      (hresult : result = .alreadyConsumed ∨ result = .invalid) :
      Pairs cloneable store [.answered key result] store
  | expired {key : String} (hidle : store.Idle key) :
      Pairs cloneable store [.answered key .expired]
        { store with
          records := Function.update store.records key none
          consumed := insert key store.consumed }
  | uncopied {key : String} (hidle : store.Idle key) : Pairs cloneable store [.failed key] store
  | started {key : String} {record : PairingCodeRecord Metadata} {outcome : Option Bool}
      (hidle : store.Idle key) (hrecord : store.records key = some record)
      (hclones : clones cloneable record = true) (houtcome : outcome ≠ some true) :
      Pairs cloneable store [.started key record]
        { store with
          consuming := insert key store.consuming
          flights := store.flights ++ [{ key := key, record := record, outcome := outcome }] }
  /-- The callback of `pair` has created its credential. -/
  | paired {key : String} {record : PairingCodeRecord Metadata} {credential : CredentialKey}
      (hidle : store.Idle key) (hrecord : store.records key = some record)
      (hclones : clones cloneable record = true) :
      Pairs cloneable store [.started key record, .credential key]
        { store with
          consuming := insert key store.consuming
          credentials := insert credential store.credentials
          flights := store.flights ++ [{ key := key, record := record, outcome := some true }] }
  | succeeded {n : ℕ} {flight : Flight Metadata} (hflight : store.flights[n]? = some flight) :
      Pairs cloneable store [.answered flight.key .consumed]
        { store with
          records := Function.update store.records flight.key none
          consumed := insert flight.key store.consumed
          consuming := store.consuming.erase flight.key
          flights := store.flights.eraseIdx n }
  | failed {n : ℕ} {flight : Flight Metadata} (hflight : store.flights[n]? = some flight)
      (houtcome : flight.outcome ≠ some true) :
      Pairs cloneable store [.failed flight.key]
        { store with
          consuming := store.consuming.erase flight.key
          flights := store.flights.eraseIdx n }

/-- A code that is idle and not expired starts a registration. -/
lemma register_pairs {key : String} {record : PairingCodeRecord Metadata}
    (hidle : store.Idle key) (hrecord : store.records key = some record)
    (hclones : clones cloneable record = true) (registration : Registration) :
    Pairs cloneable store (store.register key record registration).2
        (store.register key record registration).1 ∧
      ∃ rest, (store.register key record registration).2 = .started key record :: rest := by
  cases registration with
  | callback => exact ⟨.started hidle hrecord hclones (by decide), [], rfl⟩
  | pair credential =>
      rw [PairingCodeStore.register]
      split_ifs
      · exact ⟨.started hidle hrecord hclones (by decide), [], rfl⟩
      · exact ⟨.paired hidle hrecord hclones, _, rfl⟩

/-- **A step of the store is one of these.** -/
theorem pairs {action : PairingAction Metadata}
    (hstep : (pairing toUpperCase cloneable).step store action = some (next, events)) :
    Pairs cloneable store events next := by
  cases action with
  | create input =>
      simp only [pairing, PairingCodeStore.step, PairingCodeStore.create, Option.some.injEq] at hstep
      split_ifs at hstep with hknown
      · cases hstep
        exact .refused
      · cases hstep
        rw [not_or, Bool.not_eq_true, Option.isSome_eq_false_iff, Option.isNone_iff_eq_none] at hknown
        exact .created hknown.1 hknown.2
  | consume code now registration =>
      simp only [pairing, PairingCodeStore.step, PairingCodeStore.consume, Option.some.injEq] at hstep
      split_ifs at hstep with hused
      · cases hstep
        exact .turnedAway (.inl rfl)
      · rw [not_or] at hused
        split at hstep
        · cases hstep
          exact .turnedAway (.inr rfl)
        · rename_i record hrecord
          split_ifs at hstep with hexpired hclones
          · cases hstep
            exact .expired hused
          · have hpairs := (register_pairs hused hrecord hclones registration).1
            rw [hstep] at hpairs
            exact hpairs
          · cases hstep
            exact .uncopied hused
  | settle n succeeds =>
      simp only [pairing, PairingCodeStore.step] at hstep
      split at hstep
      · cases hstep
      · rename_i flight hflight
        split_ifs at hstep with houtcome
        rw [Option.some.injEq] at hstep
        cases succeeds with
        | true =>
            cases hstep
            exact .succeeded hflight
        | false =>
            cases hstep
            refine .failed hflight ?_
            intro hsome
            rw [hsome] at houtcome
            cases houtcome

end Steps

/-! ## Every run -/

section Runs

variable {Metadata : Type} {toUpperCase : String → String} {cloneable : Metadata → Bool}
  {store next : PairingCodeStore Metadata} {events past history : List (PairingEvent Metadata)}

/-- What the collections of the store say of what has happened. -/
structure PairingInvariant (cloneable : Metadata → Bool) (past : List (PairingEvent Metadata))
    (store : PairingCodeStore Metadata) : Prop where
  flying : ∀ key, key ∈ store.consuming ↔ key ∈ store.flights.map Flight.key
  distinct : (store.flights.map Flight.key).Nodup
  apart : ∀ key ∈ store.consuming, key ∉ store.consumed
  reported : ∀ key, Reported past key → key ∈ store.consumed
  credential : ∀ key, .credential key ∈ past → key ∈ store.consumed ∨
    ∃ flight ∈ store.flights, flight.key = key ∧ flight.outcome = some true
  kept : ∀ key record, .started key record ∈ past → clones cloneable record = true ∧
    (store.records key = some record ∨ key ∈ store.consumed)
  settled : ∀ key, latest (progress key) past = some .failed → store.Idle key

lemma pairingInvariant_empty : PairingInvariant cloneable [] (.empty Metadata) where
  flying key := by simp [PairingCodeStore.empty]
  distinct := List.nodup_nil
  apart key hkey := absurd hkey (Finset.notMem_empty key)
  reported key hreported := by
    rcases hreported with hmem | hmem <;> cases hmem
  credential key hmem := by cases hmem
  kept key record hmem := by cases hmem
  settled key hlatest := by cases hlatest

/-- Steps that say nothing of how far a code has got. -/
lemma PairingInvariant.silent (hinvariant : PairingInvariant cloneable past store)
    {event : PairingEvent Metadata} (hprogress : ∀ key, progress key event = none)
    (hcredential : ∀ key, event ≠ .credential key)
    {records : String → Option (PairingCodeRecord Metadata)}
    (hrecords : ∀ key record, key ∉ store.consumed → store.records key = some record →
      records key = some record) :
    PairingInvariant cloneable (past ++ [event]) { store with records := records } := by
  have hold : ∀ {found : PairingEvent Metadata}, found ∈ past ++ [event] → found ≠ event →
      found ∈ past := by
    intro found hfound hne
    rcases List.mem_append.mp hfound with hmem | hmem
    · exact hmem
    · exact absurd (List.mem_singleton.mp hmem) hne
  have hloud : ∀ (key : String) {found : PairingEvent Metadata},
      (progress key found).isSome = true → found ≠ event := by
    rintro key found hsome rfl
    rw [hprogress key] at hsome
    cases hsome
  refine ⟨hinvariant.flying, hinvariant.distinct, hinvariant.apart, ?_, ?_, ?_, ?_⟩
  · rintro key (hmem | hmem)
    · exact hinvariant.reported key (.inl (hold hmem (hloud key (by simp [progress]))))
    · exact hinvariant.reported key (.inr (hold hmem (hloud key (by simp [progress]))))
  · intro key hmem
    exact hinvariant.credential key (hold hmem fun heq => hcredential key heq.symm)
  · intro key record hmem
    rcases hinvariant.kept key record (hold hmem (hloud key (by simp [progress]))) with
      ⟨hclones, hkept⟩
    refine ⟨hclones, ?_⟩
    by_cases hused : key ∈ store.consumed
    · exact .inr hused
    · exact .inl (hrecords key record hused (hkept.resolve_right hused))
  · intro key hlatest
    rw [latest_append_of_none] at hlatest
    · exact hinvariant.settled key hlatest
    · intro found hfound
      rw [List.mem_singleton.mp hfound]
      exact hprogress key

/-- A registration begins. -/
lemma PairingInvariant.begun (hinvariant : PairingInvariant cloneable past store) {key : String}
    {record : PairingCodeRecord Metadata} {outcome : Option Bool} (hidle : store.Idle key)
    (hrecord : store.records key = some record) (hclones : clones cloneable record = true)
    {rest : List (PairingEvent Metadata)} (hrest : ∀ event ∈ rest, event = .credential key)
    (houtcome : rest ≠ [] → outcome = some true) {credentials : Finset CredentialKey} :
    PairingInvariant cloneable (past ++ .started key record :: rest)
      { store with
        consuming := insert key store.consuming
        credentials := credentials
        flights := store.flights ++ [{ key := key, record := record, outcome := outcome }] } := by
  have hnew : ∀ {event : PairingEvent Metadata}, event ∈ past ++ .started key record :: rest →
      event ∈ past ∨ event = .started key record ∨ (event = .credential key ∧ rest ≠ []) := by
    intro event hevent
    rcases List.mem_append.mp hevent with hmem | hmem
    · exact .inl hmem
    · rcases List.mem_cons.mp hmem with rfl | hmem
      · exact .inr (.inl rfl)
      · exact .inr (.inr ⟨hrest event hmem, List.ne_nil_of_mem hmem⟩)
  refine ⟨?_, ?_, ?_, ?_, ?_, ?_, ?_⟩
  · intro other
    show other ∈ insert key store.consuming ↔ _
    rw [List.map_append, List.mem_append, Finset.mem_insert, hinvariant.flying other, or_comm]
    simp
  · rw [List.map_append, List.nodup_append']
    refine ⟨hinvariant.distinct, List.nodup_singleton _, ?_⟩
    intro other hother hsame
    rw [List.map_cons, List.map_nil, List.mem_singleton] at hsame
    rw [hsame, ← hinvariant.flying key] at hother
    exact hidle.2 hother
  · intro other hother
    rcases Finset.mem_insert.mp hother with rfl | hmem
    · exact hidle.1
    · exact hinvariant.apart other hmem
  · rintro other (hmem | hmem)
    · rcases hnew hmem with hmem | heq | ⟨heq, _⟩
      · exact hinvariant.reported other (.inl hmem)
      · cases heq
      · cases heq
    · rcases hnew hmem with hmem | heq | ⟨heq, _⟩
      · exact hinvariant.reported other (.inr hmem)
      · cases heq
      · cases heq
  · intro other hmem
    rcases hnew hmem with hmem | heq | ⟨heq, hne⟩
    · rcases hinvariant.credential other hmem with hused | ⟨flight, hflight, hkey, hknown⟩
      · exact .inl hused
      · exact .inr ⟨flight, List.mem_append_left _ hflight, hkey, hknown⟩
    · cases heq
    · cases heq
      exact .inr ⟨_, List.mem_append_right _ List.mem_cons_self, rfl, houtcome hne⟩
  · intro other found hmem
    rcases hnew hmem with hmem | heq | ⟨heq, _⟩
    · exact hinvariant.kept other found hmem
    · cases heq
      exact ⟨hclones, .inl hrecord⟩
    · cases heq
  · intro other hlatest
    by_cases hsame : key = other
    · have hrunning : latest (progress other) (past ++ .started key record :: rest) =
          some .running := by
        rw [← List.singleton_append, ← List.append_assoc, latest_append_of_none]
        · exact latest_concat_of_some (by simp [progress, hsame])
        · intro event hevent
          rw [hrest event hevent]
          rfl
      rw [hrunning] at hlatest
      cases hlatest
    · rw [latest_append_of_none] at hlatest
      · have hold := hinvariant.settled other hlatest
        refine ⟨hold.1, ?_⟩
        intro hmem
        rcases Finset.mem_insert.mp hmem with heq | hmem
        · exact hsame heq.symm
        · exact hold.2 hmem
      · intro event hevent
        rcases List.mem_cons.mp hevent with rfl | hmem
        · simp [progress, hsame]
        · rw [hrest event hmem]
          rfl

/-- What is left of the registrations when that of one code is over. -/
structure Landed (store : PairingCodeStore Metadata) (key : String)
    (flights : List (Flight Metadata)) : Prop where
  mem : ∀ flight, flight ∈ flights ↔ flight ∈ store.flights ∧ flight.key ≠ key
  distinct : (flights.map Flight.key).Nodup

lemma PairingInvariant.landed (hinvariant : PairingInvariant cloneable past store) {n : ℕ}
    {flight : Flight Metadata} (hflight : store.flights[n]? = some flight) :
    Landed store flight.key (store.flights.eraseIdx n) where
  mem _ := Roster.mem_eraseIdx_iff hinvariant.distinct hflight
  distinct := Roster.nodup_eraseIdx hinvariant.distinct

lemma PairingInvariant.landed_of_idle (hinvariant : PairingInvariant cloneable past store)
    {key : String} (hidle : store.Idle key) : Landed store key store.flights where
  mem flight := by
    refine ⟨fun hmem => ⟨hmem, ?_⟩, fun h => h.1⟩
    rintro rfl
    exact hidle.2 ((hinvariant.flying _).mpr (List.mem_map_of_mem hmem))
  distinct := hinvariant.distinct

lemma Landed.flying (hinvariant : PairingInvariant cloneable past store) {key : String}
    {flights : List (Flight Metadata)} (hlanded : Landed store key flights) (other : String) :
    other ∈ store.consuming.erase key ↔ other ∈ flights.map Flight.key := by
  rw [Finset.mem_erase, hinvariant.flying other, List.mem_map, List.mem_map]
  constructor
  · rintro ⟨hne, flight, hflight, rfl⟩
    exact ⟨flight, (hlanded.mem flight).mpr ⟨hflight, hne⟩, rfl⟩
  · rintro ⟨flight, hflight, rfl⟩
    rcases (hlanded.mem flight).mp hflight with ⟨hold, hne⟩
    exact ⟨hne, flight, hold, rfl⟩

/-- A code is used up. -/
lemma PairingInvariant.used (hinvariant : PairingInvariant cloneable past store) {key : String}
    {flights : List (Flight Metadata)} (hlanded : Landed store key flights)
    {result : PairingCodeConsumeResult} (hresult : result = .consumed ∨ result = .expired) :
    PairingInvariant cloneable (past ++ [.answered key result])
      { store with
        records := Function.update store.records key none
        consumed := insert key store.consumed
        consuming := store.consuming.erase key
        flights := flights } := by
  have hover : progress key (.answered key result : PairingEvent Metadata) = some .over := by
    rcases hresult with rfl | rfl <;> simp [progress]
  refine ⟨hlanded.flying hinvariant, hlanded.distinct, ?_, ?_, ?_, ?_, ?_⟩
  · intro other hother
    rw [Finset.mem_erase] at hother
    intro hused
    rcases Finset.mem_insert.mp hused with heq | hmem
    · exact hother.1 heq
    · exact hinvariant.apart other hother.2 hmem
  · rintro other (hmem | hmem)
    · rcases List.mem_append.mp hmem with hold | hnew
      · exact Finset.mem_insert_of_mem (hinvariant.reported other (.inl hold))
      · cases List.mem_singleton.mp hnew
        exact Finset.mem_insert_self _ _
    · rcases List.mem_append.mp hmem with hold | hnew
      · exact Finset.mem_insert_of_mem (hinvariant.reported other (.inr hold))
      · cases List.mem_singleton.mp hnew
        exact Finset.mem_insert_self _ _
  · intro other hmem
    rcases List.mem_append.mp hmem with hold | hnew
    · rcases eq_or_ne other key with rfl | hne
      · exact .inl (Finset.mem_insert_self _ _)
      · rcases hinvariant.credential other hold with hused | ⟨flight, hflight, rfl, hknown⟩
        · exact .inl (Finset.mem_insert_of_mem hused)
        · exact .inr ⟨flight, (hlanded.mem flight).mpr ⟨hflight, hne⟩, rfl, hknown⟩
    · cases List.mem_singleton.mp hnew
  · intro other record hmem
    rcases List.mem_append.mp hmem with hold | hnew
    · rcases hinvariant.kept other record hold with ⟨hclones, hkept⟩
      refine ⟨hclones, ?_⟩
      rcases eq_or_ne other key with rfl | hne
      · exact .inr (Finset.mem_insert_self _ _)
      · refine hkept.imp ?_ Finset.mem_insert_of_mem
        intro hrecord
        show Function.update store.records key none other = some record
        rw [Function.update_of_ne hne]
        exact hrecord
    · cases List.mem_singleton.mp hnew
  · intro other hlatest
    rcases eq_or_ne other key with rfl | hne
    · rw [latest_concat_of_some hover] at hlatest
      cases hlatest
    · rw [latest_append_of_none] at hlatest
      · have hold := hinvariant.settled other hlatest
        refine ⟨?_, fun hmem => hold.2 (Finset.mem_of_mem_erase hmem)⟩
        intro hused
        rcases Finset.mem_insert.mp hused with heq | hmem
        · exact hne heq
        · exact hold.1 hmem
      · intro event hevent
        rw [List.mem_singleton.mp hevent]
        rcases hresult with rfl | rfl <;> simp [progress, hne.symm]

/-- A registration fails. -/
lemma PairingInvariant.released (hinvariant : PairingInvariant cloneable past store) {key : String}
    {flights : List (Flight Metadata)} (hlanded : Landed store key flights)
    (hunused : key ∉ store.consumed) (hcredential : .credential key ∉ past) :
    PairingInvariant cloneable (past ++ [.failed key])
      { store with
        consuming := store.consuming.erase key
        flights := flights } := by
  have hold : ∀ {event : PairingEvent Metadata}, event ∈ past ++ [.failed key] →
      event ≠ .failed key → event ∈ past := by
    intro event hevent hne
    rcases List.mem_append.mp hevent with hmem | hmem
    · exact hmem
    · exact absurd (List.mem_singleton.mp hmem) hne
  refine ⟨hlanded.flying hinvariant, hlanded.distinct, ?_, ?_, ?_, ?_, ?_⟩
  · intro other hother
    exact hinvariant.apart other (Finset.mem_of_mem_erase hother)
  · rintro other (hmem | hmem)
    · exact hinvariant.reported other (.inl (hold hmem (by rintro ⟨⟩)))
    · exact hinvariant.reported other (.inr (hold hmem (by rintro ⟨⟩)))
  · intro other hmem
    have hmem := hold hmem (by rintro ⟨⟩)
    rcases hinvariant.credential other hmem with hused | ⟨flight, hflight, rfl, hknown⟩
    · exact .inl hused
    · refine .inr ⟨flight, (hlanded.mem flight).mpr ⟨hflight, ?_⟩, rfl, hknown⟩
      intro heq
      rw [heq] at hmem
      exact hcredential hmem
  · intro other record hmem
    exact hinvariant.kept other record (hold hmem (by rintro ⟨⟩))
  · intro other hlatest
    rcases eq_or_ne other key with rfl | hne
    · exact ⟨hunused, Finset.notMem_erase _ _⟩
    · rw [latest_append_of_none] at hlatest
      · have hidle := hinvariant.settled other hlatest
        exact ⟨hidle.1, fun hmem => hidle.2 (Finset.mem_of_mem_erase hmem)⟩
      · intro event hevent
        rw [List.mem_singleton.mp hevent]
        simp [progress, hne.symm]

/-- No credential has been created for a code that is idle. -/
lemma PairingInvariant.credential_of_idle (hinvariant : PairingInvariant cloneable past store)
    {key : String} (hidle : store.Idle key) : .credential key ∉ past := by
  intro hmem
  rcases hinvariant.credential key hmem with hused | ⟨flight, hflight, rfl, _⟩
  · exact hidle.1 hused
  · exact hidle.2 ((hinvariant.flying _).mpr (List.mem_map_of_mem hflight))

/-- **A step keeps what the collections say**, and what it accepts was not reported before. -/
theorem PairingInvariant.step (hinvariant : PairingInvariant cloneable past store)
    (hpairs : Pairs cloneable store events next) :
    PairingInvariant cloneable (past ++ events) next ∧
      EachAfter (fun earlier event => AcceptedOnce (past ++ earlier) event) events := by
  have hfresh : ∀ {key}, store.Idle key → ¬ Reported past key :=
    fun hidle hreported => hidle.1 (hinvariant.reported _ hreported)
  have hquiet : ∀ {event : PairingEvent Metadata}, (∀ earlier, AcceptedOnce earlier event) →
      EachAfter (fun earlier found => AcceptedOnce (past ++ earlier) found) [event] := by
    intro event hevent
    refine eachAfter_of_forall ?_
    intro earlier found hfound
    rw [List.mem_singleton.mp hfound]
    exact hevent _
  cases hpairs with
  | @created key input hfree hunused =>
      refine ⟨hinvariant.silent (fun _ => rfl) (by rintro _ ⟨⟩) ?_, hquiet fun _ => trivial⟩
      intro _ record _ hrecord
      rw [Function.update_of_ne]
      · exact hrecord
      · rintro rfl
        rw [hfree] at hrecord
        cases hrecord
  | refused =>
      exact ⟨hinvariant.silent (fun _ => rfl) (by rintro _ ⟨⟩) (fun _ _ _ h => h),
        hquiet fun _ => trivial⟩
  | @turnedAway key result hresult =>
      have hprogress : ∀ other, progress other (.answered key result : PairingEvent Metadata) =
          none := by
        intro other
        rcases hresult with rfl | rfl <;> rfl
      refine ⟨hinvariant.silent hprogress (by rintro _ ⟨⟩) (fun _ _ _ h => h), hquiet ?_⟩
      intro earlier
      rcases hresult with rfl | rfl <;> trivial
  | @expired key hidle =>
      have hused := hinvariant.used (hinvariant.landed_of_idle hidle) (.inr rfl)
      rw [Finset.erase_eq_of_notMem hidle.2] at hused
      exact ⟨hused, hquiet fun _ => trivial⟩
  | @uncopied key hidle =>
      have hreleased := hinvariant.released (hinvariant.landed_of_idle hidle) hidle.1
        (hinvariant.credential_of_idle hidle)
      rw [Finset.erase_eq_of_notMem hidle.2] at hreleased
      exact ⟨hreleased, hquiet fun _ => trivial⟩
  | @started key record outcome hidle hrecord hclones houtcome =>
      refine ⟨hinvariant.begun hidle hrecord hclones (by rintro _ ⟨⟩) (fun h => absurd rfl h), ?_⟩
      rw [eachAfter_cons, List.append_nil]
      exact ⟨hfresh hidle, eachAfter_nil _⟩
  | @paired key record credential hidle hrecord hclones =>
      have hcredential := hinvariant.credential_of_idle hidle
      refine ⟨hinvariant.begun hidle hrecord hclones ?_ fun _ => rfl, ?_⟩
      · intro event hevent
        exact List.mem_singleton.mp hevent
      · rw [eachAfter_cons, eachAfter_cons, List.append_nil]
        refine ⟨hfresh hidle, ⟨?_, ?_⟩, eachAfter_nil _⟩
        · rintro (hmem | hmem)
          · exact hfresh hidle (.inl (by simpa using hmem))
          · exact hfresh hidle (.inr (by simpa using hmem))
        · intro hmem
          exact hcredential (by simpa using hmem)
  | @succeeded n flight hflight =>
      have hflying : flight.key ∈ store.consuming :=
        (hinvariant.flying _).mpr (List.mem_map_of_mem (List.mem_of_getElem? hflight))
      refine ⟨hinvariant.used (hinvariant.landed hflight) (.inl rfl), ?_⟩
      rw [eachAfter_cons, List.append_nil]
      refine ⟨?_, eachAfter_nil _⟩
      intro hreported
      exact hinvariant.apart _ hflying (hinvariant.reported _ hreported)
  | @failed n flight hflight houtcome =>
      have hmem := List.mem_of_getElem? hflight
      have hflying : flight.key ∈ store.consuming :=
        (hinvariant.flying _).mpr (List.mem_map_of_mem hmem)
      have hunused := hinvariant.apart _ hflying
      refine ⟨hinvariant.released (hinvariant.landed hflight) hunused ?_, hquiet fun _ => trivial⟩
      intro hcredential
      rcases hinvariant.credential _ hcredential with hused | ⟨other, hother, hkey, hknown⟩
      · exact hunused hused
      · have hsame := List.inj_on_of_nodup_map hinvariant.distinct hother hmem hkey
        rw [hsame] at hknown
        exact houtcome hknown

/-- **Pairing codes are for single use**, in every run of the store. -/
theorem single_use
    (hrun : (pairing toUpperCase cloneable).Runs anyStep (.empty Metadata) history store) :
    SingleUse toUpperCase cloneable history store := by
  have hall : EachAfter AcceptedOnce history ∧ PairingInvariant cloneable history store := by
    induction hrun with
    | start => exact ⟨eachAfter_nil _, pairingInvariant_empty⟩
    | step _ _ hstep ih =>
        rcases ih.2.step (pairs hstep) with ⟨hnext, haccepted⟩
        exact ⟨eachAfter_append.mpr ⟨ih.1, haccepted⟩, hnext⟩
  refine ⟨hall.1, ?_⟩
  intro code record hstarted hlatest now registration hexpired
  have hidle := hall.2.settled _ hlatest
  rcases hall.2.kept _ record hstarted with ⟨hclones, hkept⟩
  have hrecord := hkept.resolve_right hidle.1
  have hused : ¬ (normalizedCode toUpperCase code ∈ store.consumed ∨
      normalizedCode toUpperCase code ∈ store.consuming) := by
    rw [not_or]
    exact hidle
  rcases (register_pairs hidle hrecord hclones registration).2 with ⟨rest, hrest⟩
  refine ⟨(store.register (normalizedCode toUpperCase code) record registration).1, rest, ?_⟩
  simp only [pairing, PairingCodeStore.step, PairingCodeStore.consume, if_neg hused, hrecord,
    hexpired, Bool.false_eq_true, if_false, hclones, if_true, Option.some.injEq]
  exact Prod.ext rfl hrest

/-- Upper-casing, for ASCII. -/
def asciiUpperCase (code : String) : String := String.ofList (code.toList.map Char.toUpper)

/-- A code is created, two consumers meet, the first registration fails, the second succeeds, and a
third consumer comes too late. -/
def consumedTwice : List (PairingAction Unit) :=
  [.create ⟨"ABCD-EFGH", some 0, some 600000, none⟩, .consume "abcdefgh" (some 1) .callback,
    .consume "ABCD-EFGH" (some 2) .callback, .settle 0 false,
    .consume "ABCDEFGH" (some 3) (.pair ⟨"agt_1", "key_1"⟩), .settle 0 true,
    .consume "ABCD-EFGH" (some 4) .callback]

theorem single_use_consumedTwice :
    ((pairing asciiUpperCase fun _ => true).run (fun _ _ _ => true) (.empty Unit)
        consumedTwice).1.count (.answered "ABCDEFGH" .consumed) = 1 ∧
      SingleUse asciiUpperCase (fun _ => true)
        ((pairing asciiUpperCase fun _ => true).run (fun _ _ _ => true) (.empty Unit)
          consumedTwice).1
        ((pairing asciiUpperCase fun _ => true).run (fun _ _ _ => true) (.empty Unit)
          consumedTwice).2 :=
  ⟨by decide +kernel, single_use (System.runs_run (fun _ _ _ _ => trivial) consumedTwice)⟩

end Runs

end Oppa.Server
