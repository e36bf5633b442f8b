import Oppa.Foundation.History
import Oppa.Protocol.Negotiation

/-!
# The handshakes of the supervisor

The supervisor keeps its planner across the attempts of a reconnect cycle, while the operations of
the host pair and forget servers beside it.  One setting remembers a server that accepts only the
base version.

* `Negotiator`, `handshakes` — the planner, the setting, the paired server and the attempt that is
  under way.
* `Attributed` — the law about the records: one is stored only for the server that has refused the
  extended version and accepted the base version since; and without a record the first attempt to a
  server offers the extended version.
* `Kept` — the condition on an attempt: a planner that is left was planned for the same server.
* **`attributed`** — under it the law holds in every run.
* `planner_outlives_server` — a run in which the planner of one server is used for another.
-/

namespace Oppa.Desktop

open Protocol History

/-! ## The system -/

/-- `StoredNegotiation`. -/
structure StoredNegotiation where
  serverId : String
  legacyUntilMs : UInt64
  deriving DecidableEq, Repr

/-- An attempt to reach a server, from the point at which it reads the connection. -/
structure Attempt where
  serverId : String
  generation : ℕ
  /-- What its hello offers, once it is written. -/
  offered : Option (List ProtocolVersion)
  handshaken : Bool
  deriving DecidableEq, Repr

/-- What the handshakes depend on. -/
structure Negotiator where
  /-- The server of the connection that is stored. -/
  paired : Option String
  providerGeneration : ℕ
  setting : Option StoredNegotiation
  handshake : Option HandshakePlanner
  attempt : Option Attempt
  deriving DecidableEq, Repr

/-- What happens next. -/
inductive NegotiatorAction
  /-- `pair_server` stores a connection. -/
  | pair (serverId : String)
  /-- An operation drops the connection; one that fails early does not count it. -/
  | forget (counted : Bool)
  /-- The supervisor reads the connection. -/
  | begin
  /-- The supervisor plans and writes its hello; the setting may be unreadable. -/
  | offer (nowMs : UInt64) (readable : Bool)
  /-- The connection ends before the server says hello. -/
  | closed
  /-- The server says hello; the setting may be unwritable. -/
  | accepted (selected : ProtocolVersion) (nowMs : UInt64) (writable : Bool)
  /-- The attempt ends in any other way: an error on the way to the hello, a timeout, a request to
  reconnect, a changed configuration, a message that is not expected, the end of a session. -/
  | finish
  deriving DecidableEq, Repr

/-- What can be told of a run. -/
inductive NegotiatorEvent
  /-- A hello is written, with whether a current record for the server could be read. -/
  | offered (serverId : String) (versions : List ProtocolVersion) (recorded : Bool)
  | closed (serverId : String) (versions : List ProtocolVersion)
  | accepted (serverId : String) (versions : List ProtocolVersion) (selected : ProtocolVersion)
  | stored (record : StoredNegotiation)
  | cleared
  deriving DecidableEq, Repr

namespace Negotiator

variable (negotiator : Negotiator)

/-- `load_legacy_record`. -/
def loadLegacyRecord (serverId : String) (readable : Bool) : Option LegacyServerRecord :=
  if readable then
    (negotiator.setting.filter fun stored => stored.serverId = serverId).map fun stored =>
      ⟨stored.legacyUntilMs⟩
  else none

/-- `store_cache_update`. -/
def storeCacheUpdate (serverId : String) (update : CacheUpdate) (writable : Bool) :
    Negotiator × List NegotiatorEvent :=
  match update with
  | .unchanged => (negotiator, [])
  | .clear => if writable then ({ negotiator with setting := none }, [.cleared]) else (negotiator, [])
  | .store record =>
      if writable then
        ({ negotiator with setting := some ⟨serverId, record.legacyUntilMs⟩ },
          [.stored ⟨serverId, record.legacyUntilMs⟩])
      else (negotiator, [])

/-- The planner of an attempt: the one that is left, or a new one. -/
def planner (serverId : String) (nowMs : UInt64) (readable : Bool) : HandshakePlanner :=
  negotiator.handshake.getD (.new (negotiator.loadLegacyRecord serverId readable) nowMs)

/-- The supervisor writes its hello. -/
def offer (attempt : Attempt) (nowMs : UInt64) (readable : Bool) :
    Negotiator × List NegotiatorEvent :=
  let planner := negotiator.planner attempt.serverId nowMs readable
  let record := negotiator.loadLegacyRecord attempt.serverId readable
  ({ negotiator with
      handshake := some planner
      attempt := some { attempt with offered := some planner.offered } },
    [.offered attempt.serverId planner.offered
      (record.any fun record => nowMs < record.legacyUntilMs)])

/-- The connection ends before the server says hello; only an attempt that is still current tells
the planner. -/
def close (attempt : Attempt) (versions : List ProtocolVersion) :
    Negotiator × List NegotiatorEvent :=
  ({ negotiator with
      attempt := none
      handshake :=
        if negotiator.providerGeneration = attempt.generation then
          negotiator.handshake.map fun planner => planner.onClosedBeforeHello.1
        else negotiator.handshake },
    [.closed attempt.serverId versions])

/-- The server has said hello: the planner is taken, and what it has learnt is stored. -/
def accept (attempt : Attempt) (versions : List ProtocolVersion) (selected : ProtocolVersion)
    (nowMs : UInt64) (writable : Bool) : Negotiator × List NegotiatorEvent :=
  let handshaken :=
    { negotiator with
      handshake := none
      attempt := some { attempt with handshaken := true } }
  let update := (negotiator.handshake.map (·.onAccepted selected nowMs)).getD .unchanged
  let stored := handshaken.storeCacheUpdate attempt.serverId update writable
  (stored.1, .accepted attempt.serverId versions selected :: stored.2)

/-- A step of the handshakes. -/
def step : NegotiatorAction → Option (Negotiator × List NegotiatorEvent)
  | .pair serverId =>
      match negotiator.paired with
      | none => some ({ negotiator with paired := some serverId }, [])
      | some _ => none
  | .forget counted =>
      some ({ negotiator with
        paired := none
        providerGeneration := negotiator.providerGeneration + counted.toNat }, [])
  | .begin =>
      match negotiator.attempt, negotiator.paired with
      | none, some serverId =>
          some ({ negotiator with
            attempt := some
              { serverId := serverId
                generation := negotiator.providerGeneration
                offered := none
                handshaken := false } }, [])
      | _, _ => none
  | .offer nowMs readable =>
      match negotiator.attempt with
      | some attempt =>
          if attempt.offered = none then some (negotiator.offer attempt nowMs readable) else none
      | none => none
  | .closed =>
      match negotiator.attempt with
      | some attempt =>
          match attempt.offered, attempt.handshaken with
          | some versions, false => some (negotiator.close attempt versions)
          | _, _ => none
      | none => none
  | .accepted selected nowMs writable =>
      match negotiator.attempt with
      | some attempt =>
          match attempt.offered, attempt.handshaken with
          | some versions, false =>
              if negotiator.providerGeneration = attempt.generation ∧ selected ∈ versions then
                some (negotiator.accept attempt versions selected nowMs writable)
              else none
          | _, _ => none
      | none => none
  | .finish =>
      match negotiator.attempt with
      | some _ => some ({ negotiator with attempt := none }, [])
      | none => none

end Negotiator

/-- The handshakes as a system. -/
def handshakes : System Negotiator NegotiatorAction NegotiatorEvent where
  step negotiator action := negotiator.step action

/-- The host as it starts, with what is paired and what is remembered. -/
def Negotiator.initial (paired : Option String) (setting : Option StoredNegotiation) :
    Negotiator where
  paired := paired
  providerGeneration := 0
  setting := setting
  handshake := none
  attempt := none

/-! ## The law -/

/-- Whether a handshake is completed. -/
def NegotiatorEvent.Completes : NegotiatorEvent → Prop
  | .accepted _ _ _ => True
  | _ => False

/-- The server that an offer is for. -/
def NegotiatorEvent.offeredTo : NegotiatorEvent → Option String
  | .offered serverId _ _ => some serverId
  | _ => none

/-- A connection to a server was closed after an extended hello, and no handshake was completed
since. -/
def Refused (serverId : String) (past : List NegotiatorEvent) : Prop :=
  ∃ versions, .extended ∈ versions ∧
    Standing (.closed serverId versions) NegotiatorEvent.Completes past

/-- What is right of an event after others: a record is stored for a server that has refused the
extended version and has then accepted the base version, when only that was offered; and the first
hello to a server without a current record offers the extended version. -/
def Attributed (past : List NegotiatorEvent) : NegotiatorEvent → Prop
  | .stored record => ∃ earlier, past = earlier ++ [.accepted record.serverId [.base] .base] ∧
      Refused record.serverId earlier
  | .offered serverId versions recorded =>
      (∀ event ∈ past, event.offeredTo ≠ some serverId) → recorded = false →
        .extended ∈ versions
  | _ => True

/-- The condition on an attempt: a planner that is left was used for the same server last. -/
def Kept (past : List NegotiatorEvent) (negotiator : Negotiator) : NegotiatorAction → Prop
  | .offer _ _ => negotiator.handshake.isSome → ∀ attempt ∈ negotiator.attempt,
      latest NegotiatorEvent.offeredTo past = some attempt.serverId
  | _ => True

instance (past : List NegotiatorEvent) (negotiator : Negotiator) :
    (action : NegotiatorAction) → Decidable (Kept past negotiator action)
  | .offer _ _ => inferInstanceAs (Decidable (_ → _))
  | .pair _ | .forget _ | .begin | .closed | .accepted _ _ _ | .finish => .isTrue trivial

/-! ## What a planner that is left tells -/

section Runs

variable {past history events : List NegotiatorEvent} {negotiator next : Negotiator}
  {serverId : String}

/-- A planner offers the extended version until an offer of it was refused. -/
def Offers (planner : HandshakePlanner) : Prop :=
  planner.offered =
    if planner.mayFallBack && !planner.fellBack then [.extended, .base] else [.base]

lemma offers_new (record : Option LegacyServerRecord) (nowMs : UInt64) :
    Offers (.new record nowMs) := Planned.new.offered_eq

/-- A planner that falls back had offered the extended version. -/
lemma fellBack_onClosedBeforeHello {planner : HandshakePlanner} (hoffers : Offers planner) :
    Offers planner.onClosedBeforeHello.1 ∧
      (planner.onClosedBeforeHello.1.fellBack = true →
        planner.fellBack = true ∨ .extended ∈ planner.offered) := by
  rw [HandshakePlanner.onClosedBeforeHello]
  by_cases hstays : (!planner.mayFallBack || planner.fellBack) = true
  · rw [if_pos hstays]
    exact ⟨hoffers, .inl⟩
  · rw [if_neg hstays]
    refine ⟨by simp [Offers], fun _ => .inr ?_⟩
    rw [Bool.or_eq_true, not_or, Bool.not_eq_true, Bool.not_eq_false'] at hstays
    rw [hoffers, hstays.1, Bool.eq_false_iff.mpr hstays.2]
    exact List.mem_cons_self

/-- A refusal stands until a handshake is completed. -/
lemma Refused.append (hrefused : Refused serverId past)
    (hevents : ∀ event ∈ events, ¬ event.Completes) : Refused serverId (past ++ events) := by
  rcases hrefused with ⟨versions, hextended, first, last, hpast, hlast⟩
  refine ⟨versions, hextended, first, last ++ events, ?_, ?_⟩
  · rw [hpast, List.append_assoc, List.cons_append]
  · intro event hevent
    rcases List.mem_append.mp hevent with hold | hnew
    · exact hlast event hold
    · exact hevents event hnew

lemma refused_closed {versions : List ProtocolVersion} (hextended : .extended ∈ versions) :
    Refused serverId (past ++ [.closed serverId versions]) :=
  ⟨versions, hextended, standing_concat.mpr (.inl rfl)⟩

/-- A planner belongs to the server of the last hello, and has fallen back only if that server has
refused the extended version. -/
structure Belongs (past : List NegotiatorEvent) (planner : HandshakePlanner) (serverId : String) :
    Prop where
  offers : Offers planner
  last : latest NegotiatorEvent.offeredTo past = some serverId
  refused : planner.fellBack = true → Refused serverId past

/-- What the supervisor keeps across its attempts. -/
structure Keeping (past : List NegotiatorEvent) (negotiator : Negotiator) : Prop where
  belongs : ∀ planner ∈ negotiator.handshake, ∃ serverId, Belongs past planner serverId
  waits : ∀ attempt ∈ negotiator.attempt, ∀ versions ∈ attempt.offered,
    attempt.handshaken = false → ∃ planner, negotiator.handshake = some planner ∧
      planner.offered = versions ∧ Belongs past planner attempt.serverId

lemma Belongs.append {planner : HandshakePlanner} (hbelongs : Belongs past planner serverId)
    (hcompletes : ∀ event ∈ events, ¬ event.Completes)
    (hoffered : ∀ event ∈ events, event.offeredTo = none) :
    Belongs (past ++ events) planner serverId where
  offers := hbelongs.offers
  last := by
    rw [latest_append_of_none hoffered]
    exact hbelongs.last
  refused hfellBack := (hbelongs.refused hfellBack).append hcompletes

/-- A hello of a planner, if it was left, is for the same server. -/
lemma Keeping.offer (hkeeping : Keeping past negotiator) {attempt : Attempt} {nowMs : UInt64}
    {readable : Bool}
    (hkept : negotiator.handshake.isSome → latest NegotiatorEvent.offeredTo past =
      some attempt.serverId) {versions : List ProtocolVersion} {recorded : Bool} :
    Belongs (past ++ [.offered attempt.serverId versions recorded])
      (negotiator.planner attempt.serverId nowMs readable) attempt.serverId := by
  have hlast : latest NegotiatorEvent.offeredTo
      (past ++ [.offered attempt.serverId versions recorded]) = some attempt.serverId :=
    latest_concat_of_some rfl
  rw [Negotiator.planner]
  cases hhandshake : negotiator.handshake with
  | none =>
      refine ⟨offers_new _ _, hlast, ?_⟩
      intro hfellBack
      rw [Option.getD_none, HandshakePlanner.new] at hfellBack
      split_ifs at hfellBack
  | some planner =>
      rcases hkeeping.belongs planner hhandshake with ⟨serverId, hbelongs⟩
      have hsame := hbelongs.last.symm.trans (hkept (by rw [hhandshake]; rfl))
      rw [Option.some.injEq] at hsame
      rw [← hsame] at hlast ⊢
      refine ⟨hbelongs.offers, hlast, ?_⟩
      intro hfellBack
      refine (hbelongs.refused hfellBack).append ?_
      intro event hevent
      rw [List.mem_singleton.mp hevent]
      exact id

/-- A planner that is told of a refusal. -/
lemma Belongs.closed {planner : HandshakePlanner} (hbelongs : Belongs past planner serverId) :
    Belongs (past ++ [.closed serverId planner.offered]) planner.onClosedBeforeHello.1 serverId := by
  rcases fellBack_onClosedBeforeHello hbelongs.offers with ⟨hoffers, hfellBack⟩
  refine ⟨hoffers, ?_, ?_⟩
  · rw [latest_append_of_none]
    · exact hbelongs.last
    · intro event hevent
      rw [List.mem_singleton.mp hevent]
      rfl
  · intro hnow
    rcases hfellBack hnow with hbefore | hextended
    · refine (hbelongs.refused hbefore).append ?_
      intro event hevent
      rw [List.mem_singleton.mp hevent]
      exact id
    · exact refused_closed hextended

/-- Steps that write no hello and end no handshake keep the planner as it is. -/
lemma Keeping.of_same (hkeeping : Keeping past negotiator)
    (hhandshake : next.handshake = negotiator.handshake)
    (hattempt : ∀ attempt ∈ next.attempt, attempt.offered = none ∨ next.attempt =
      negotiator.attempt) : Keeping past next where
  belongs := by
    rw [hhandshake]
    exact hkeeping.belongs
  waits := by
    intro attempt hmem versions hversions hhandshaken
    rcases hattempt attempt hmem with hnone | hsame
    · rw [hnone] at hversions
      cases hversions
    · rw [hsame] at hmem
      rw [hhandshake]
      exact hkeeping.waits attempt hmem versions hversions hhandshaken

/-- Storing changes the setting only. -/
lemma storeCacheUpdate_same (negotiator : Negotiator) (serverId : String) (update : CacheUpdate)
    (writable : Bool) :
    (negotiator.storeCacheUpdate serverId update writable).1.handshake = negotiator.handshake ∧
    (negotiator.storeCacheUpdate serverId update writable).1.attempt = negotiator.attempt := by
  rw [Negotiator.storeCacheUpdate.eq_def]
  cases update <;> cases writable <;> exact ⟨rfl, rfl⟩

/-- A record is told of only if it is to be stored. -/
lemma storeCacheUpdate_cases (negotiator : Negotiator) (serverId : String) (update : CacheUpdate)
    (writable : Bool) :
    (negotiator.storeCacheUpdate serverId update writable).2 = [] ∨
      (negotiator.storeCacheUpdate serverId update writable).2 = [.cleared] ∨
      ∃ record, update = .store record ∧
        (negotiator.storeCacheUpdate serverId update writable).2 =
          [.stored ⟨serverId, record.legacyUntilMs⟩] := by
  rw [Negotiator.storeCacheUpdate.eq_def]
  cases update with
  | unchanged => exact .inl rfl
  | clear =>
      cases writable with
      | true => exact .inr (.inl rfl)
      | false => exact .inl rfl
  | store record =>
      cases writable with
      | true => exact .inr (.inr ⟨record, rfl, rfl⟩)
      | false => exact .inl rfl

lemma onAccepted_eq_store {planner : HandshakePlanner} {selected : ProtocolVersion} {nowMs : UInt64}
    {record : LegacyServerRecord} (hstore : planner.onAccepted selected nowMs = .store record) :
    selected = .base ∧ planner.fellBack = true := by
  rw [HandshakePlanner.onAccepted] at hstore
  split_ifs at hstore with haccepted
  exact haccepted

/-- A planner that has fallen back offers the base version only. -/
lemma Offers.eq_base {planner : HandshakePlanner} (hoffers : Offers planner)
    (hfellBack : planner.fellBack = true) : planner.offered = [.base] := by
  rw [hoffers, hfellBack, Bool.not_true, Bool.and_false]
  rfl

/-- A record that is stored after a handshake is one of a refusal. -/
lemma Keeping.accept (hkeeping : Keeping past negotiator) {attempt : Attempt}
    {versions : List ProtocolVersion} {selected : ProtocolVersion} {nowMs : UInt64} {writable : Bool}
    (hattempt : negotiator.attempt = some attempt) (hversions : attempt.offered = some versions)
    (hhandshaken : attempt.handshaken = false) :
    EachAfter (fun earlier event => Attributed (past ++ earlier) event)
      (negotiator.accept attempt versions selected nowMs writable).2 := by
  rcases hkeeping.waits attempt hattempt versions hversions hhandshaken with
    ⟨planner, hplanner, hoffered, hbelongs⟩
  rw [Negotiator.accept, eachAfter_cons]
  refine ⟨trivial, ?_⟩
  rw [hplanner, Option.map_some, Option.getD_some]
  rcases storeCacheUpdate_cases
    { negotiator with handshake := none, attempt := some { attempt with handshaken := true } }
    attempt.serverId (planner.onAccepted selected nowMs) writable with
    hnone | hcleared | ⟨record, hstore, hstored⟩
  · rw [hnone]
    exact eachAfter_nil _
  · rw [hcleared, eachAfter_cons]
    exact ⟨trivial, eachAfter_nil _⟩
  · rcases onAccepted_eq_store hstore with ⟨rfl, hfellBack⟩
    rw [hstored, eachAfter_cons]
    refine ⟨⟨past, ?_, hbelongs.refused hfellBack⟩, eachAfter_nil _⟩
    rw [← hoffered, hbelongs.offers.eq_base hfellBack]

/-- What a step of the handshakes does to the planner and to the law. -/
lemma Keeping.step (hkeeping : Keeping past negotiator) {action : NegotiatorAction}
    (hkept : Kept past negotiator action)
    (hstep : handshakes.step negotiator action = some (next, events)) :
    Keeping (past ++ events) next ∧
      EachAfter (fun earlier event => Attributed (past ++ earlier) event) events := by
  cases action with
  | pair serverId =>
      simp only [handshakes, Negotiator.step] at hstep
      split at hstep
      · cases hstep
        rw [List.append_nil]
        exact ⟨hkeeping.of_same rfl fun _ _ => .inr rfl, eachAfter_nil _⟩
      · cases hstep
  | forget counted =>
      simp only [handshakes, Negotiator.step] at hstep
      cases hstep
      rw [List.append_nil]
      exact ⟨hkeeping.of_same rfl fun _ _ => .inr rfl, eachAfter_nil _⟩
  | begin =>
      simp only [handshakes, Negotiator.step] at hstep
      split at hstep
      · cases hstep
        rw [List.append_nil]
        refine ⟨hkeeping.of_same rfl ?_, eachAfter_nil _⟩
        rintro attempt ⟨⟩
        exact .inl rfl
      · cases hstep
  | finish =>
      simp only [handshakes, Negotiator.step] at hstep
      split at hstep
      · cases hstep
        rw [List.append_nil]
        exact ⟨hkeeping.of_same rfl (by rintro attempt ⟨⟩), eachAfter_nil _⟩
      · cases hstep
  | offer nowMs readable =>
      simp only [handshakes, Negotiator.step] at hstep
      split at hstep
      · rename_i attempt hattempt
        split_ifs at hstep
        rw [Option.some.injEq, Negotiator.offer, Prod.mk.injEq] at hstep
        rw [← hstep.1, ← hstep.2]
        have hsame : negotiator.handshake.isSome → latest NegotiatorEvent.offeredTo past =
            some attempt.serverId := fun hsome => hkept hsome attempt hattempt
        have hbelongs := fun recorded => @Keeping.offer past negotiator hkeeping attempt nowMs
          readable hsame (negotiator.planner attempt.serverId nowMs readable).offered recorded
        refine ⟨⟨?_, ?_⟩, ?_⟩
        · rintro planner ⟨⟩
          exact ⟨attempt.serverId, hbelongs _⟩
        · rintro _ ⟨⟩ versions ⟨⟩ _
          exact ⟨_, rfl, rfl, hbelongs _⟩
        · rw [eachAfter_cons]
          refine ⟨?_, eachAfter_nil _⟩
          intro hfirst hrecorded
          rw [List.append_nil] at hfirst
          rw [Negotiator.planner]
          cases hhandshake : negotiator.handshake with
          | some planner =>
              -- the planner that is left was used for this server before
              have hlast := hsame (by rw [hhandshake]; rfl)
              rcases List.exists_of_findSome?_eq_some hlast with ⟨event, hevent, hoffered⟩
              exact absurd hoffered (hfirst event (List.mem_reverse.mp hevent))
          | none =>
              rw [Option.getD_none, HandshakePlanner.new, hrecorded]
              exact List.mem_cons_self
      · cases hstep
  | closed =>
      simp only [handshakes, Negotiator.step] at hstep
      split at hstep
      · rename_i attempt hattempt
        split at hstep
        · rename_i versions hversions hhandshaken
          rw [Option.some.injEq, Negotiator.close, Prod.mk.injEq] at hstep
          rw [← hstep.1, ← hstep.2]
          rcases hkeeping.waits attempt hattempt versions hversions hhandshaken with
            ⟨planner, hplanner, hoffered, hbelongs⟩
          refine ⟨⟨?_, ?_⟩, ?_⟩
          · intro planner' hmem
            refine ⟨attempt.serverId, ?_⟩
            simp only [hplanner, Option.map_some] at hmem
            rw [← hoffered]
            split_ifs at hmem
            · rw [← Option.some.inj hmem]
              exact hbelongs.closed
            · rw [← Option.some.inj hmem]
              refine hbelongs.append ?_ ?_ <;> intro event hevent <;>
                rw [List.mem_singleton.mp hevent]
              · exact id
              · rfl
          · rintro attempt ⟨⟩
          · rw [eachAfter_cons]
            exact ⟨trivial, eachAfter_nil _⟩
        · cases hstep
      · cases hstep
  | accepted selected nowMs writable =>
      simp only [handshakes, Negotiator.step] at hstep
      split at hstep
      · rename_i attempt hattempt
        split at hstep
        · rename_i versions hversions hhandshaken
          split_ifs at hstep with haccepted
          have hlaw := @Keeping.accept past negotiator hkeeping attempt versions selected nowMs
            writable hattempt hversions hhandshaken
          rw [Option.some.injEq, Prod.ext_iff] at hstep
          have hnext : (negotiator.accept attempt versions selected nowMs writable).1 = next :=
            hstep.1
          have hevents : (negotiator.accept attempt versions selected nowMs writable).2 = events :=
            hstep.2
          rw [hevents] at hlaw
          refine ⟨⟨?_, ?_⟩, hlaw⟩
          · rw [← hnext, Negotiator.accept, (storeCacheUpdate_same _ _ _ _).1]
            rintro planner ⟨⟩
          · rw [← hnext, Negotiator.accept, (storeCacheUpdate_same _ _ _ _).1,
              (storeCacheUpdate_same _ _ _ _).2]
            rintro _ ⟨⟩ _ _ hagain
            cases hagain
        · cases hstep
      · cases hstep

/-- **Records are attributed to the server they are about**, in every run in which a planner that is
left is used for the server it was planned for; and the first attempt to a server without a record
offers the extended version. -/
theorem attributed {paired : Option String} {setting : Option StoredNegotiation}
    (hrun : handshakes.Runs Kept (.initial paired setting) history negotiator) :
    EachAfter Attributed history := by
  have hinvariant : Keeping history negotiator ∧ EachAfter Attributed history := by
    refine System.Runs.invariant (I := fun past negotiator =>
      Keeping past negotiator ∧ EachAfter Attributed past) ?_ ?_ hrun
    · exact ⟨⟨by rintro planner ⟨⟩, by rintro attempt ⟨⟩⟩, eachAfter_nil _⟩
    · rintro past negotiator action next events _ ⟨hkeeping, hlaw⟩ hkept hstep
      rcases hkeeping.step hkept hstep with ⟨hnext, hevents⟩
      exact ⟨hnext, eachAfter_append.mpr ⟨hlaw, hevents⟩⟩
  exact hinvariant.2

end Runs

/-! ## A planner that outlives its server -/

/-- A base-only server refuses an extended hello and then says hello. -/
def refusedOnce : List NegotiatorAction :=
  [.begin, .offer 0 true, .closed, .begin, .offer 0 true, .accepted .base 0 true, .finish]

/-- The server is forgotten after it has refused, and another one is paired. -/
def changedServer : List NegotiatorAction :=
  [.begin, .offer 0 true, .closed, .forget true, .pair "modern", .begin, .offer 0 true,
    .accepted .base 0 true]

/-- Whether a step meets the condition. -/
def keeps (past : List NegotiatorEvent) (negotiator : Negotiator) (action : NegotiatorAction) :
    Bool := decide (Kept past negotiator action)

/-- A run that meets the condition and stores a record. -/
lemma attributed_refusedOnce :
    EachAfter Attributed (handshakes.run keeps (.initial (some "legacy") none) refusedOnce).1 ∧
      .stored ⟨"legacy", legacyRetryIntervalMs⟩ ∈
        (handshakes.run keeps (.initial (some "legacy") none) refusedOnce).1 :=
  ⟨attributed (System.runs_run (fun _ _ _ => of_decide_eq_true) refusedOnce), by decide +kernel⟩

/-- What can be told of the run in which the server is changed. -/
def changedServerHistory : List NegotiatorEvent :=
  [.offered "legacy" [.extended, .base] false, .closed "legacy" [.extended, .base],
    .offered "modern" [.base] false, .accepted "modern" [.base] .base,
    .stored ⟨"modern", legacyRetryIntervalMs⟩]

/-- Every step is taken as it comes. -/
def asItComes : List NegotiatorEvent → Negotiator → NegotiatorAction → Bool := fun _ _ _ => true

/-- The other server is offered only the base version, although nothing is remembered of it, and is
recorded as one that knows no other. -/
lemma planner_outlives_server :
    ∃ history negotiator,
      handshakes.Runs anyStep (.initial (some "legacy") none) history negotiator ∧
      negotiator.setting = some ⟨"modern", legacyRetryIntervalMs⟩ ∧
      (∀ versions, .closed "modern" versions ∉ history) ∧
      ¬ EachAfter Attributed history := by
  have hrun : handshakes.Runs anyStep (.initial (some "legacy") none)
      (handshakes.run asItComes (.initial (some "legacy") none) changedServer).1
      (handshakes.run asItComes (.initial (some "legacy") none) changedServer).2 :=
    System.runs_run (fun _ _ _ _ => trivial) changedServer
  have hhistory : (handshakes.run asItComes (.initial (some "legacy") none) changedServer).1 =
      changedServerHistory := by
    decide +kernel
  rw [hhistory] at hrun
  refine ⟨_, _, hrun, by decide +kernel, ?_, ?_⟩
  · intro versions
    simp [changedServerHistory]
  · intro hlaw
    have hoffered := hlaw [.offered "legacy" [.extended, .base] false,
      .closed "legacy" [.extended, .base]] (.offered "modern" [.base] false) _ rfl
    exact absurd (hoffered (by decide) rfl) (by decide)

end Oppa.Desktop
