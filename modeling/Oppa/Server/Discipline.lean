import Oppa.Server.Outbound

/-!
# What a session sends

A frame is handed to the transport in its turn, not after the transport was asked to close, and with
what a disconnect, an application frame and an extended frame need besides.  Two things break this,
and both are left possible by the code: a handoff that completes when the session has moved on
(`Session.overtaken`), and a transport that is asked to close while writes wait
(`Session.closesOverWrites`).

* `SendsInOrder`, `OutboundDiscipline` — the law.
* `ClosureInvariant`, `VersionInvariant` — what carries it, beside the invariants of the queue.
* **`outbound_discipline`** — every run keeps the law whose steps all avoid the two.
-/

namespace Oppa.Server

open History Protocol

variable {Input : Type} {config : SessionConfig Input}

/-! ## The law -/

/-- **What holds of a frame that is handed to the transport.** -/
structure SendsInOrder (past : List (Effect Input)) (frame : Frame) : Prop where
  order : sentFrames past ++ [frame] <+: enqueuedFrames past
  transport : ∀ request, .closeRequested request ∉ past
  farewell : frame.isFarewell = true → ∀ earlier ∈ sentFrames past, earlier.isFarewell = false
  greeted : frame.isApplication = true → ∃ hello ∈ sentFrames past, hello.isHello = true
  extended : frame.isExtended = true → .negotiated .extended ∈ past ∧ .negotiated .base ∉ past

/-- The discipline of what a session sends; a version is negotiated once. -/
def OutboundDiscipline (past : List (Effect Input)) : Effect Input → Prop
  | .sent frame _ => SendsInOrder past frame
  | .negotiated _ => ∀ version, .negotiated version ∉ past
  | _ => True

namespace Session

variable (s : Session Input)

/-- The handoff of `auth.accepted` or `server.hello` completes when the session is not any more in
the state in which the frame was enqueued. -/
def overtaken : Bool :=
  match s.running with
  | some ⟨_, .written .accepted .ok :: _⟩ => s.state ≠ .authenticating
  | some ⟨_, .written (.hello _ _) .ok :: _⟩ => s.state ≠ .handshaking
  | _ => false

/-- The transport is asked to close while writes wait in the queue. -/
def closesOverWrites : Bool :=
  match s.running with
  | some ⟨_, .requestTransportClose _ :: _⟩ => !s.transportCloseRequested && !s.outbound.isEmpty
  | _ => false

end Session

/-- No handoff is overtaken, and no write is left behind by closing. -/
def ClosesInOrder (_ : List (Effect Input)) (s : Session Input) (_ : Action Input) : Prop :=
  s.overtaken = false ∧ s.closesOverWrites = false

instance (h : List (Effect Input)) (s : Session Input) (action : Action Input) :
    Decidable (ClosesInOrder h s action) :=
  inferInstanceAs (Decidable (s.overtaken = false ∧ s.closesOverWrites = false))

section

variable {s t s' : Session Input} {h es effects : List (Effect Input)} {action : Action Input}
  {next : Next Input} {owner : Owner} {code : Code Input} {stack : List (Code Input)}

/-! ## The way to closing -/

/-- The session is connected, or was left behind. -/
def Session.isPast (s : Session Input) : Bool := s.state = .connected || s.isClosing

lemma isClosing_iff : s.isClosing = true ↔ s.state = .closing ∨ s.state = .closed := by
  simp [Session.isClosing]

lemma isPast_iff :
    s.isPast = true ↔ s.state = .connected ∨ s.state = .closing ∨ s.state = .closed := by
  simp [Session.isPast, isClosing_iff]

/-- The instruction completes a handoff that was overtaken. -/
def Overtaken (s : Session Input) (code : Code Input) : Prop :=
  (code = .written .accepted .ok ∧ s.state ≠ .authenticating) ∨
    ∃ hello selected, code = .written (.hello hello selected) .ok ∧ s.state ≠ .handshaking

lemma ClosesInOrder.not_overtaken (hok : ClosesInOrder h s action)
    (hrunning : s.running = some ⟨owner, code :: stack⟩) : ¬ Overtaken s code := by
  have hnot := hok.1
  rintro (⟨rfl, hstate⟩ | ⟨hello, selected, rfl, hstate⟩) <;>
    simp [Session.overtaken, hrunning, hstate] at hnot

lemma ClosesInOrder.outbound {request : CloseRequest} (hok : ClosesInOrder h s action)
    (hrunning : s.running = some ⟨owner, .requestTransportClose request :: stack⟩)
    (hopen : s.transportCloseRequested = false) : s.outbound = [] := by
  have hleaves := hok.2
  simpa [Session.closesOverWrites, hrunning, hopen] using hleaves

/-- Without handoffs that were overtaken, a session only moves on. -/
lemma Performs.onward (hperforms : Performs config s code t next effects)
    (hnot : ¬ Overtaken s code) :
    (s.isClosing = true → t.isClosing = true) ∧ (s.isPast = true → t.isPast = true) := by
  simp only [isClosing_iff, isPast_iff]
  cases hperforms with
  | accepted | connected => simp_all [Overtaken]
  | rejected | bidsFarewell | breaksOff | transportFailed => simp [Session.beginClosing]
  | finalized => simp
  | _ => exact ⟨id, id⟩

/-- What follows when a session is about to close its transport. -/
lemma Performs.closes {request : CloseRequest}
    (hperforms : Performs config s code t next effects)
    (hmem : .requestTransportClose request ∈ next.codes) : t.isClosing = true := by
  cases hperforms with
  | rejected | bidsFarewell | breaksOff | transportFailed =>
      simp [Session.isClosing, Session.beginClosing]
  | began hoffers | identified _ _ _ hoffers | offersHello _ _ _ hoffers
  | offersHeartbeat _ hoffers | offersMessage _ _ hoffers =>
      cases hoffers <;> simp [Next.codes] at hmem
  | routed _ hnotifies | invokes hnotifies | connected hnotifies =>
      rw [hnotifies.codes_eq] at hmem
      simp at hmem
  | finalized => simp [Session.isClosing]
  | _ => simp [Next.codes] at hmem

/-- The transport is asked to close by the instruction that does so. -/
lemma Performs.requested (hperforms : Performs config s code t next effects) :
    (t.transportCloseRequested = s.transportCloseRequested ∧
        ∀ request, .closeRequested request ∉ effects) ∨
      ∃ request, code = .requestTransportClose request ∧ t.transportCloseRequested = true ∧
        s.transportCloseRequested = false ∧ next = .close ∧ t.state = s.state := by
  cases hperforms with
  | closesTransport hopen => exact Or.inr ⟨_, rfl, rfl, hopen, rfl, rfl⟩
  | rejected _ hcloses _ | bidsFarewell _ _ hcloses _ _ | breaksOff _ _ hcloses _ =>
      exact Or.inl ⟨rfl, fun request => by cases hcloses <;> simp⟩
  | _ => exact Or.inl ⟨rfl, by simp⟩

lemma SameFields.isClosing (hfields : SameFields s t) : t.isClosing = s.isClosing := by
  simp only [Session.isClosing, hfields.state]

lemma SameFields.isPast (hfields : SameFields s t) : t.isPast = s.isPast := by
  simp only [Session.isPast, hfields.isClosing, hfields.state]

/-- A session that closes in order only moves on. -/
lemma SessionStep.onward (hstep : SessionStep config s action s' es)
    (hok : ClosesInOrder h s action) :
    (s.isClosing = true → s'.isClosing = true) ∧ (s.isPast = true → s'.isPast = true) := by
  cases hstep with
  | performed hrunning hperforms =>
      rw [sameFields_proceed.isClosing, sameFields_proceed.isPast]
      exact hperforms.onward (hok.not_overtaken hrunning)
  | finished _ => exact ⟨id, id⟩
  | reacted _ hreacts =>
      rw [hreacts.fields.isClosing, hreacts.fields.isPast]
      exact ⟨id, id⟩

/-- A step enqueues at most one frame. -/
lemma SessionStep.enqueuedFrames_cases (hstep : SessionStep config s action s' es) :
    enqueuedFrames es = [] ∨ ∃ frame, enqueuedFrames es = [frame] := by
  cases hstep with
  | @performed owner code stack t next effects hrunning hperforms =>
      have henqueued : enqueuedFrames effects = [] := by
        refine List.filterMap_eq_nil_iff.mpr fun e he => ?_
        have hown := hperforms.own e he
        cases e <;> simp_all [Effect.isOwn]
      rw [enqueuedFrames_append, henqueued]
      cases next with
      | write frame purpose codes => exact Or.inr ⟨frame, rfl⟩
      | _ => exact Or.inl rfl
  | finished _ => exact Or.inl rfl
  | reacted _ hreacts => exact Or.inl hreacts.frames.1

/-- **A session that closes in order** leaves no write behind, and says farewell once. -/
structure ClosureInvariant (h : List (Effect Input)) (s : Session Input) : Prop where
  requested : ∀ request, .closeRequested request ∈ h → s.transportCloseRequested = true
  closing : s.transportCloseRequested = true → s.isClosing = true ∧ s.outbound = []
  pending : ∀ request, s.Pending (.requestTransportClose request) → s.isClosing = true
  farewell : (enqueuedFrames h).countP Frame.isFarewell ≤ if s.isClosing then 1 else 0

lemma ClosureInvariant.initial : ClosureInvariant [] (Session.initial config) where
  requested := by simp
  closing := by simp [Session.initial]
  pending request hpending := by
    cases Session.pending_initial.mp hpending
  farewell := by simp [enqueuedFrames]

lemma ClosureInvariant.requested_step (hinv : ClosureInvariant h s)
    (hstep : SessionStep config s action s' es) (request : CloseRequest)
    (hmem : .closeRequested request ∈ h ++ es) : s'.transportCloseRequested = true := by
  cases hstep with
  | performed hrunning hperforms =>
      rw [sameFields_proceed.transportCloseRequested]
      rcases hperforms.requested with ⟨hsame, hnone⟩ | ⟨_, -, htrue, -⟩
      · rw [hsame]
        rcases List.mem_append.mp hmem with hold | hnew
        · exact hinv.requested request hold
        · rcases List.mem_append.mp hnew with hown | hnext
          · exact absurd hown (hnone request)
          · simp [mem_nextEffects] at hnext
      · exact htrue
  | finished _ => exact hinv.requested request (by simpa using hmem)
  | reacted _ hreacts =>
      rw [hreacts.fields.transportCloseRequested]
      rcases List.mem_append.mp hmem with hold | hnew
      · exact hinv.requested request hold
      · rcases hreacts.effects with rfl | ⟨_, rfl⟩ | ⟨_, _, _, rfl⟩ | ⟨_, _, _, _, rfl⟩ <;>
          simp at hnew

lemma ClosureInvariant.closing_step (hinv : ClosureInvariant h s) (hok : ClosesInOrder h s action)
    (hstep : SessionStep config s action s' es) (hrequested : s'.transportCloseRequested = true) :
    s'.isClosing = true ∧ s'.outbound = [] := by
  cases hstep with
  | @performed owner code stack t next effects hrunning hperforms =>
      rw [sameFields_proceed.transportCloseRequested] at hrequested
      rw [sameFields_proceed.isClosing]
      rcases hperforms.requested with ⟨hsame, -⟩ | ⟨request, rfl, -, hopen, rfl, hstate⟩
      · rcases hinv.closing (hsame ▸ hrequested) with ⟨hclosing, hdrained⟩
        refine ⟨(hperforms.onward (hok.not_overtaken hrunning)).1 hclosing, ?_⟩
        rcases @outbound_proceed _ t owner stack next with hkept | ⟨_, _, _, rfl, -⟩
        · rw [hkept, hperforms.loop.outbound, hdrained]
        · rw [hperforms.enqueues.isClosing] at hclosing
          cases hclosing
      · have hclosing := hinv.pending request
          (Session.pending_running hrunning List.mem_cons_self)
        refine ⟨by simpa only [Session.isClosing, hstate] using hclosing, ?_⟩
        show t.outbound = []
        rw [hperforms.loop.outbound, hok.outbound hrunning hopen]
  | finished _ => exact hinv.closing hrequested
  | reacted _ hreacts =>
      rw [hreacts.fields.transportCloseRequested] at hrequested
      rcases hinv.closing hrequested with ⟨hclosing, hdrained⟩
      refine ⟨by rw [hreacts.fields.isClosing, hclosing], ?_⟩
      rcases hreacts.outbound with ⟨hsame, -⟩ | ⟨_, -, hqueue, -⟩
      · rw [hsame, hdrained]
      · rw [hdrained] at hqueue
        cases hqueue

lemma ClosureInvariant.pending_step (hinv : ClosureInvariant h s) (hok : ClosesInOrder h s action)
    (hstep : SessionStep config s action s' es) (request : CloseRequest)
    (hpending : s'.Pending (.requestTransportClose request)) : s'.isClosing = true := by
  generalize hcode : (Code.requestTransportClose request : Code Input) = code at hpending
  rcases hstep.pending hpending with hold | harises
  · exact (hstep.onward hok).1 (hinv.pending request (hcode ▸ hold))
  · cases harises with
    | instructed _ hperforms hfields hmem =>
        rw [hfields.isClosing]
        exact hperforms.closes (hcode ▸ hmem)
    | _ => cases hcode

lemma ClosureInvariant.farewell_step (hinv : ClosureInvariant h s)
    (hok : ClosesInOrder h s action) (hstep : SessionStep config s action s' es) :
    (enqueuedFrames (h ++ es)).countP Frame.isFarewell ≤ if s'.isClosing then 1 else 0 := by
  have hcount := hinv.farewell
  rw [enqueuedFrames_append, List.countP_append]
  rcases hstep.enqueuedFrames_cases with hnone | ⟨frame, hone⟩
  · rw [hnone, List.countP_nil, Nat.add_zero]
    by_cases hclosing : s.isClosing = true
    · rw [if_pos hclosing] at hcount
      rwa [if_pos ((hstep.onward hok).1 hclosing)]
    · rw [if_neg hclosing] at hcount
      omega
  · rcases hstep.enqueues (hone ▸ List.mem_singleton_self frame) with
      ⟨t, purpose, hstate, henqueues⟩
    rw [henqueues.isClosing] at hcount
    have hnothing : (enqueuedFrames h).countP Frame.isFarewell = 0 := by simpa using hcount
    rw [hone, hnothing, List.countP_singleton, Nat.zero_add]
    split
    · have hclosing := henqueues.farewell_states ‹_›
      have hclosing' : s'.isClosing = true := by
        simpa only [Session.isClosing, hstate] using hclosing
      rw [if_pos hclosing']
    · exact Nat.zero_le _

lemma ClosureInvariant.step (hinv : ClosureInvariant h s) (hok : ClosesInOrder h s action)
    (hstep : SessionStep config s action s' es) : ClosureInvariant (h ++ es) s' where
  requested := hinv.requested_step hstep
  closing := hinv.closing_step hok hstep
  pending := hinv.pending_step hok hstep
  farewell := hinv.farewell_step hok hstep

/-! ## The version -/

/-- **The version a session speaks** is the one it negotiated, and it negotiates once. -/
structure VersionInvariant (h : List (Effect Input)) (s : Session Input) : Prop where
  negotiated : ∀ version, .negotiated version ∈ h →
    version = s.protocolVersion ∧ s.isPast = true
  current : s.protocolVersion = .base ∨ .negotiated s.protocolVersion ∈ h
  extended : ∀ frame ∈ enqueuedFrames h, frame.isExtended = true → .negotiated .extended ∈ h

lemma VersionInvariant.initial : VersionInvariant [] (Session.initial config) where
  negotiated := by simp
  current := Or.inl rfl
  extended := by simp [enqueuedFrames]

/-- A version is negotiated when the handoff of the hello completes. -/
lemma Performs.version (hperforms : Performs config s code t next effects) :
    (t.protocolVersion = s.protocolVersion ∧ ∀ version, .negotiated version ∉ effects) ∨
      ∃ hello selected, code = .written (.hello hello selected) .ok ∧
        t.protocolVersion = selected ∧ t.state = .connected ∧
        effects = [.negotiated selected, .entered .connected] := by
  cases hperforms with
  | connected => exact Or.inr ⟨_, _, rfl, rfl, rfl, rfl⟩
  | rejected _ hcloses _ | bidsFarewell _ _ hcloses _ _ | breaksOff _ _ hcloses _ =>
      exact Or.inl ⟨rfl, fun version => by cases hcloses <;> simp⟩
  | _ => exact Or.inl ⟨rfl, by simp⟩

/-- What a step negotiates, and that it was not negotiated before. -/
lemma VersionInvariant.version_step (hinv : VersionInvariant h s)
    (hok : ClosesInOrder h s action) (hstep : SessionStep config s action s' es) :
    (s'.protocolVersion = s.protocolVersion ∧ ∀ version, .negotiated version ∉ es) ∨
      (s'.isPast = true ∧ (∀ version, .negotiated version ∉ h) ∧
        ∃ rest, es = .negotiated s'.protocolVersion :: rest ∧
          ∀ version, .negotiated version ∉ rest) := by
  cases hstep with
  | @performed owner code stack t next effects hrunning hperforms =>
      rw [sameFields_proceed.protocolVersion, sameFields_proceed.isPast]
      have hnext : ∀ version, .negotiated version ∉ Session.nextEffects next := by
        simp [mem_nextEffects]
      rcases hperforms.version with ⟨hsame, hnone⟩ | ⟨hello, selected, rfl, hversion, hstate, rfl⟩
      · refine Or.inl ⟨hsame, fun version hmem => ?_⟩
        rcases List.mem_append.mp hmem with hown | hlater
        · exact hnone version hown
        · exact hnext version hlater
      · refine Or.inr ⟨isPast_iff.mpr (Or.inl hstate), fun version hmem => ?_,
          .entered .connected :: Session.nextEffects next, ?_, ?_⟩
        · -- a handoff that is not overtaken completes in a session that is still handshaking
          have hpast := (hinv.negotiated version hmem).2
          refine hok.not_overtaken hrunning (Or.inr ⟨hello, selected, rfl, fun hhandshaking => ?_⟩)
          simp [isPast_iff, hhandshaking] at hpast
        · rw [hversion]
          rfl
        · simpa using hnext
  | finished _ => exact Or.inl ⟨rfl, by simp⟩
  | reacted _ hreacts =>
      refine Or.inl ⟨hreacts.fields.protocolVersion, fun version => ?_⟩
      rcases hreacts.effects with rfl | ⟨_, rfl⟩ | ⟨_, _, _, rfl⟩ | ⟨_, _, _, _, rfl⟩ <;> simp

lemma VersionInvariant.step (hinv : VersionInvariant h s) (hok : ClosesInOrder h s action)
    (hstep : SessionStep config s action s' es) : VersionInvariant (h ++ es) s' := by
  have hversion := hinv.version_step hok hstep
  refine ⟨fun version hmem => ?_, ?_, fun frame hmem hextended => ?_⟩
  · rcases hversion with ⟨hsame, hnone⟩ | ⟨hpast, hfirst, rest, rfl, hrest⟩
    · rcases List.mem_append.mp hmem with hold | hnew
      · rcases hinv.negotiated version hold with ⟨heq, hpast⟩
        exact ⟨heq.trans hsame.symm, (hstep.onward hok).2 hpast⟩
      · exact absurd hnew (hnone version)
    · refine ⟨?_, hpast⟩
      rcases List.mem_append.mp hmem with hold | hnew
      · exact absurd hold (hfirst version)
      · rcases List.mem_cons.mp hnew with heq | hlater
        · cases heq
          rfl
        · exact absurd hlater (hrest version)
  · rcases hversion with ⟨hsame, -⟩ | ⟨-, -, rest, rfl, -⟩
    · rw [hsame]
      exact hinv.current.imp_right (List.mem_append_left _)
    · exact Or.inr (List.mem_append_right _ List.mem_cons_self)
  · rw [enqueuedFrames_append] at hmem
    refine List.mem_append_left _ ?_
    rcases List.mem_append.mp hmem with hold | hnew
    · exact hinv.extended frame hold hextended
    · rcases hstep.enqueues hnew with ⟨t, purpose, -, henqueues⟩
      have hspoken := henqueues.extended_version hextended
      rcases hinv.current with hbase | hcurrent
      · rw [hbase] at hspoken
        cases hspoken
      · rwa [hspoken] at hcurrent

/-! ## The discipline -/

/-- All that a session that closes in order keeps. -/
structure OutboundInvariant (h : List (Effect Input)) (s : Session Input) : Prop where
  closure : ClosureInvariant h s
  version : VersionInvariant h s
  law : EachAfter OutboundDiscipline h

/-- The frame at the head of the queue is sent as it should be. -/
lemma OutboundInvariant.sends (hinv : OutboundInvariant h s) (hqueue : QueueInvariant h s)
    (hgreeting : GreetingInvariant h s) {write : Write Input} {rest : List (Write Input)}
    (houtbound : s.outbound = write :: rest) : SendsInOrder h write.frame := by
  have hfifo : sentFrames h ++ write.frame :: rest.map Write.frame = enqueuedFrames h := by
    simpa only [QueueInvariant, houtbound, List.map_cons] using hqueue
  have hmem : write.frame ∈ enqueuedFrames h := by simp [← hfifo]
  refine ⟨⟨rest.map Write.frame, by simpa using hfifo⟩, ?_, ?_, ?_, ?_⟩
  · intro request hrequest
    rw [(hinv.closure.closing (hinv.closure.requested request hrequest)).2] at houtbound
    cases houtbound
  · intro hfarewell earlier hearlier
    have hcount := hinv.closure.farewell
    have hone : (enqueuedFrames h).countP Frame.isFarewell ≤ 1 := by
      split at hcount <;> omega
    rw [← hfifo, List.countP_append, List.countP_cons_of_pos hfarewell] at hone
    by_contra hother
    have hpos : 0 < (sentFrames h).countP Frame.isFarewell :=
      List.countP_pos_iff.mpr ⟨earlier, hearlier, by simpa using hother⟩
    omega
  · exact hgreeting.application write.frame hmem
  · intro hextended
    have hnegotiated := hinv.version.extended write.frame hmem hextended
    refine ⟨hnegotiated, fun hbase => ?_⟩
    have hsame := (hinv.version.negotiated _ hnegotiated).1.trans
      (hinv.version.negotiated _ hbase).1.symm
    cases hsame

lemma OutboundInvariant.law_step (hinv : OutboundInvariant h s) (hqueue : QueueInvariant h s)
    (hgreeting : GreetingInvariant h s) (hok : ClosesInOrder h s action)
    (hstep : SessionStep config s action s' es) : EachAfter OutboundDiscipline (h ++ es) := by
  refine eachAfter_append.mpr ⟨hinv.law, fun past e rest heq => ?_⟩
  cases e with
  | negotiated version =>
      intro other hmem
      rcases hinv.version.version_step hok hstep with ⟨-, hnone⟩ | ⟨-, hfirst, later, rfl, hlater⟩
      · exact hnone version (by simp [heq])
      · rcases List.mem_append.mp hmem with hold | hnew
        · exact hfirst other hold
        · cases past with
          | nil => cases hnew
          | cons first past =>
              simp only [List.cons_append, List.cons.injEq] at heq
              exact hlater version (by simp [heq.2])
  | sent frame at_ =>
      cases hstep with
      | performed hrunning hperforms =>
          have hmem : (.sent frame at_ : Effect Input) ∈ past ++ .sent frame at_ :: rest := by simp
          rw [← heq] at hmem
          rcases List.mem_append.mp hmem with hown | hnext
          · cases hperforms.own _ hown
          · simp [mem_nextEffects] at hnext
      | finished _ => simp at heq
      | reacted _ hreacts =>
          rcases hreacts.outbound with ⟨-, hnone⟩ | ⟨write, -, houtbound, rfl⟩
          · exact absurd (by simp [heq]) (hnone frame at_)
          · cases past with
            | nil =>
                cases heq
                rw [List.append_nil]
                exact hinv.sends hqueue hgreeting houtbound
            | cons _ past => simp at heq
  | _ => trivial

/-- **What a session sends.**  In every run in which no handoff is overtaken and the transport is
not asked to close while writes wait: frames are handed to the transport in the order in which they
were enqueued, none after the transport was asked to close and at most one of them a
`server.disconnect`; no application frame comes before `server.hello`, and an extended frame is sent
only in a session that negotiated the extended version. -/
theorem outbound_discipline
    (hrun : (sessionSystem config).Runs ClosesInOrder (.initial config) h s) :
    EachAfter OutboundDiscipline h := by
  have hinv : OutboundInvariant h s := by
    refine hrun.invariant ⟨.initial, .initial, eachAfter_nil _⟩ ?_
    intro h s action s' es hreached hinv hok hstep
    have hcases := step_cases hstep
    exact ⟨hinv.closure.step hok hcases, hinv.version.step hok hcases,
      hinv.law_step (queueInvariant_of_runs hreached) (greetingInvariant_of_runs hreached) hok
        hcases⟩
  exact hinv.law

end

namespace Sample

/-- A request the host sends. -/
def request (messageId : String) : ApplicationMessage where
  message :=
    { protocolVersion := .base
      messageId := messageId
      sentAt := "2026-07-01T09:00:00.000Z"
      correlationId := none
      kind := .requestPrinterInventory }
  application := rfl

/-- The host disconnects while a request waits: both frames are sent, in this order. -/
def requestedAndDisconnected : List (Action Wire) :=
  connected ++ [.send (request "request_1"), .advance, .disconnect ⟨none, none, none, none⟩,
    .advance] ++ written 3 ++ written 2 ++ [.settleClose 0, .advance, .settleCallback 0 true] ++
    List.replicate 2 .advance

/-- A write fails while another waits: the transport is asked to close, and the other is sent. -/
def sentAfterClose : List (Action Wire) :=
  connected ++ [.send (request "request_1"), .advance, .send (request "request_2"), .advance,
    .startWrite, .settleWrite (.failed "Error"), .resumeWrite 0] ++ List.replicate 3 .advance ++
    [.startWrite]

end Sample

/-- A request and the disconnect behind it are sent in order. -/
theorem outbound_discipline_disconnected :
    let r := (sessionSystem Sample.config).run
      (fun h s action => decide (ClosesInOrder h s action)) (.initial Sample.config)
      Sample.requestedAndDisconnected
    (r.2.state = .closed ∧ (sentFrames r.1).length = 6) ∧ EachAfter OutboundDiscipline r.1 :=
  ⟨by decide +kernel,
    outbound_discipline (System.runs_run (fun _ _ _ h => of_decide_eq_true h) _)⟩

/-- **A write that fails leaves the writes behind it in the queue**, and they are sent after the
transport was asked to close. -/
theorem sent_after_close :
    ¬ ∀ (config : SessionConfig Sample.Wire) (h : List (Effect Sample.Wire))
      (s : Session Sample.Wire), (sessionSystem config).Runs anyStep (.initial config) h s →
        EachAfter OutboundDiscipline h := by
  intro hall
  let r := (sessionSystem Sample.config).run (fun _ _ _ => true) (.initial Sample.config)
    Sample.sentAfterClose
  have hlaw := hall Sample.config r.1 r.2 (System.runs_run (fun _ _ _ _ => trivial) _)
  have hlast : r.1 = r.1.dropLast ++ [.sent (.server (Sample.request "request_2").message) 0] := by
    decide +kernel
  have hclosed : .closeRequested ⟨.transportError, "Error"⟩ ∈ r.1.dropLast := by decide +kernel
  exact (hlaw _ _ [] hlast).transport _ hclosed

end Oppa.Server
