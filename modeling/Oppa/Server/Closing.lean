import Oppa.Server.Transition

/-!
# A closed session stays closed

What "closed" promises: the state is not left again, no frame is handed to the transport, the host is
not told of a connection, and it is told of the end of one at most once, if there was one.

The promise is kept as long as two things do not happen that the code leaves possible.
`#authenticate` and `#completeHandshake` assign the next state after the handoff of a frame without
looking at the state again, so a handoff that completes late revives a session (`Session.revives`);
and the writes that are queued when a session is finalized are still performed
(`Session.leavesWrites`).

* `ClosedForGood` — the promise, of one effect and the effects before it.
* `ClosingInvariant` — what carries it: the state and the history agree, and a closed session has no
  write in its queue.
* **`closed_for_good`** — every run keeps the promise whose steps all avoid the two.
-/

namespace Oppa.Server

open History Protocol

variable {Input : Type} {config : SessionConfig Input}

/-- The host is told that a connection ended. -/
def Effect.IsDisconnection : Effect Input → Prop
  | .invoked (.agentDisconnected _ _ _) => True
  | _ => False

/-- **What "closed" promises.** -/
def ClosedForGood (past : List (Effect Input)) : Effect Input → Prop
  | .entered _ | .sent _ _ | .invoked (.agentConnected _) => .entered .closed ∉ past
  | .invoked (.agentDisconnected _ _ _) =>
      .entered .connected ∈ past ∧ ∀ e ∈ past, ¬ e.IsDisconnection
  | _ => True

namespace Session

variable (s : Session Input)

/-- The handoff of `auth.accepted` or `server.hello` completes in a session that is closed. -/
def revives : Bool :=
  match s.running with
  | some ⟨_, .written .accepted .ok :: _⟩ | some ⟨_, .written (.hello _ _) .ok :: _⟩ =>
      s.state = .closed
  | _ => false

/-- A session is finalized while writes wait in its queue. -/
def leavesWrites : Bool :=
  match s.running with
  | some ⟨_, .finalize _ _ :: _⟩ => s.state ≠ .closed && !s.outbound.isEmpty
  | _ => false

end Session

/-- Nothing of what the code leaves possible happens. -/
def StaysClosed (_ : List (Effect Input)) (s : Session Input) (_ : Action Input) : Prop :=
  s.revives = false ∧ s.leavesWrites = false

instance (h : List (Effect Input)) (s : Session Input) (action : Action Input) :
    Decidable (StaysClosed h s action) :=
  inferInstanceAs (Decidable (s.revives = false ∧ s.leavesWrites = false))

/-! ## What only some instructions show -/

section Instructions

variable {s t : Session Input} {code : Code Input} {next : Next Input}
  {effects : List (Effect Input)}

/-- Callbacks that tell of neither the beginning nor the end of a connection. -/
def HostEvent.isAside : HostEvent → Bool
  | .agentConnected _ | .agentDisconnected _ _ _ => false
  | _ => true

lemma HostEvent.isAside_of_isRouted {event : HostEvent} (hrouted : event.isRouted = true) :
    event.isAside = true := by
  cases event <;> simp_all [HostEvent.isRouted, HostEvent.isAside]

lemma hello_of_snapshot {agent : Snapshot} (hsnapshot : s.snapshot = some agent) :
    s.hello.isSome := by
  cases hhello : s.hello with
  | none => simp [Session.snapshot, hhello] at hsnapshot
  | some hello => rfl

/-- The instruction brings a closed session back. -/
def Revives (code : Code Input) : Prop :=
  code = .written .accepted .ok ∨ ∃ hello selected, code = .written (.hello hello selected) .ok

/-- Only a handoff that completes leaves the closed state; no other state is entered from it. -/
lemma Performs.entered_open (hperforms : Performs config s code t next effects)
    (hclosed : s.state = .closed) (hrevives : ¬ Revives code) :
    t.state = .closed ∧ ∀ state, .entered state ∉ effects := by
  cases hperforms <;> simp_all [Revives, Session.draw, Session.prunePendingHeartbeats]

/-- A session is closed by being finalized, and this alone is shown. -/
lemma Performs.entered_closed (hperforms : Performs config s code t next effects)
    (hopen : s.state ≠ .closed) :
    (t.state ≠ .closed ∧ .entered .closed ∉ effects) ∨
      (t.state = .closed ∧ effects = [.entered .closed] ∧
        (∃ reason detail, code = .finalize reason detail) ∧
        ∀ frame purpose codes, next ≠ .write frame purpose codes) := by
  cases hperforms with
  | rejected _ hcloses _ | bidsFarewell _ _ hcloses _ _ | breaksOff _ _ hcloses _ =>
      cases hcloses <;> simp [Session.beginClosing]
  | finalized _ hnext =>
      refine Or.inr ⟨rfl, rfl, ⟨_, _, rfl⟩, fun frame purpose codes heq => ?_⟩
      rcases hnext with hnone | ⟨agent, -, hnotifies⟩
      · cases hnone.symm.trans heq
      · cases hnotifies <;> cases heq
  | _ => exact Or.inl (by
      simp_all [Session.beginClosing, Session.draw, Session.prunePendingHeartbeats])

/-- A session knows a hello from the moment it is connected. -/
lemma Performs.hello (hperforms : Performs config s code t next effects)
    (hhello : t.hello.isSome) : s.hello.isSome ∨ .entered .connected ∈ effects := by
  cases hperforms with
  | finalized => exact Or.inl hhello
  | _ => simp_all [Session.beginClosing, Session.draw, Session.prunePendingHeartbeats]

/-- Frames are offered by sessions that are not closed. -/
lemma Performs.write_open {frame : Frame} {purpose : Written} {codes : List (Code Input)}
    (hperforms : Performs config s code t (.write frame purpose codes) effects) :
    s.state ≠ .closed := by
  intro hclosed
  cases hperforms with
  | began hoffers | identified _ _ _ hoffers | offersHello _ _ _ hoffers
  | offersHeartbeat _ hoffers | offersMessage _ _ hoffers =>
      cases hoffers
      simp_all
  | rejected hstate _ hconcludes | bidsFarewell hstate _ _ _ hconcludes => simp_all
  | routed _ hnotifies | invokes hnotifies | connected hnotifies => cases hnotifies
  | finalized hopen hnext => exact hopen hclosed

/-- Of the callbacks that are invoked, those about connections have their own instructions. -/
lemma Performs.invoked {event : HostEvent} {codes : List (Code Input)}
    (hperforms : Performs config s code t (.callback event codes) effects) :
    event.isAside = true ∨ code = .invoke event ∨
      (∃ agent, event = .agentConnected agent ∧ Revives code ∧ .entered .closed ∉ effects) ∨
      ∃ agent reason detail, event = .agentDisconnected agent reason detail ∧ s.hello.isSome ∧
        s.state ≠ .closed ∧ effects = [.entered .closed] := by
  cases hperforms with
  | began hoffers | identified _ _ _ hoffers | offersHello _ _ _ hoffers
  | offersHeartbeat _ hoffers | offersMessage _ _ hoffers => cases hoffers
  | rejected _ _ hconcludes | bidsFarewell _ _ _ _ hconcludes => cases hconcludes
  | routed hrouted hnotifies =>
      cases hnotifies
      exact Or.inl (HostEvent.isAside_of_isRouted hrouted)
  | invokes hnotifies =>
      cases hnotifies
      exact Or.inr (Or.inl rfl)
  | connected hnotifies =>
      cases hnotifies
      exact Or.inr (Or.inr (Or.inl ⟨_, rfl, Or.inr ⟨_, _, rfl⟩, by simp⟩))
  | finalized hopen hnext =>
      rcases hnext with hnone | ⟨agent, hsnapshot, hnotifies⟩
      · cases hnone
      · cases hnotifies
        exact Or.inr (Or.inr (Or.inr
          ⟨_, _, _, rfl, hello_of_snapshot hsnapshot, hopen, rfl⟩))

end Instructions

/-! ## The invariant -/

/-- Of the callbacks to be invoked later, none is about a connection. -/
def PendingAside (s : Session Input) : Prop :=
  ∀ event, s.Pending (.invoke event) → event.isAside = true

/-- **What carries the promise** through a run. -/
structure ClosingInvariant (h : List (Effect Input)) (s : Session Input) : Prop where
  closed : s.state = .closed ↔ .entered .closed ∈ h
  drained : s.state = .closed → s.outbound = []
  connected : s.hello.isSome → .entered .connected ∈ h
  disconnected : s.state ≠ .closed → ∀ e ∈ h, ¬ e.IsDisconnection
  pending : PendingAside s
  law : EachAfter ClosedForGood h

lemma ClosingInvariant.initial : ClosingInvariant [] (Session.initial config) where
  closed := by simp [Session.initial]
  drained := by simp [Session.initial]
  connected := by simp [Session.initial]
  disconnected := by simp
  pending event hpending := by
    cases Session.pending_initial.mp hpending
  law := eachAfter_nil _

section Step

variable {s s' : Session Input} {h es : List (Effect Input)} {action : Action Input}

/-- Callbacks to be invoked later arise where a session closes, and where a callback fails. -/
lemma PendingAside.step (haside : PendingAside s) (hstep : SessionStep config s action s' es) :
    PendingAside s' := by
  intro event hpending
  rcases hstep.pending hpending with hold | harises
  · exact haside event hold
  · cases harises with
    | reported => rfl
    | instructed _ hperforms _ hmem =>
        cases hperforms.adds hmem with
        | farewell hlast => cases hlast <;> rfl

/-- A session that stays closed does not perform a handoff that revives it. -/
lemma StaysClosed.not_revives {owner : Owner} {code : Code Input} {stack : List (Code Input)}
    (hok : StaysClosed h s action) (hrunning : s.running = some ⟨owner, code :: stack⟩)
    (hclosed : s.state = .closed) : ¬ Revives code := by
  have hrevives := hok.1
  rintro (rfl | ⟨hello, selected, rfl⟩) <;>
    simp [Session.revives, hrunning, hclosed] at hrevives

/-- A session that stays closed is finalized with no write left in its queue. -/
lemma StaysClosed.outbound {owner : Owner} {reason : DisconnectReason} {detail : Option String}
    {stack : List (Code Input)} (hok : StaysClosed h s action)
    (hrunning : s.running = some ⟨owner, .finalize reason detail :: stack⟩)
    (hopen : s.state ≠ .closed) : s.outbound = [] := by
  have hleaves := hok.2
  simpa [Session.leavesWrites, hrunning, hopen] using hleaves

/-- Effects that the promise does not speak about keep it. -/
lemma closedForGood_of_aside {past : List (Effect Input)} {event : HostEvent}
    (haside : event.isAside = true) : ClosedForGood past (.invoked event : Effect Input) := by
  cases event <;> simp_all [ClosedForGood, HostEvent.isAside]

/-- What an instruction shows by itself only enters states. -/
lemma closedForGood_of_own {past : List (Effect Input)} {e : Effect Input} (hown : e.isOwn = true)
    (hentered : ∀ state, e = .entered state → .entered .closed ∉ past) :
    ClosedForGood past e := by
  cases e with
  | entered state => exact hentered state rfl
  | invoked event => cases hown
  | sent frame at_ => cases hown
  | _ => trivial

/-- The promise about the effects of one instruction. -/
lemma ClosingInvariant.law_performed {owner : Owner} {code : Code Input}
    {stack : List (Code Input)} {t : Session Input} {next : Next Input}
    {effects : List (Effect Input)} (hinv : ClosingInvariant h s) (hok : StaysClosed h s action)
    (hrunning : s.running = some ⟨owner, code :: stack⟩)
    (hperforms : Performs config s code t next effects) :
    EachAfter ClosedForGood (h ++ (effects ++ Session.nextEffects next)) := by
  refine eachAfter_append.mpr ⟨hinv.law, eachAfter_append.mpr ⟨?_, ?_⟩⟩
  · intro past e rest heq
    refine closedForGood_of_own (hperforms.own e (by simp [heq])) ?_
    rintro state rfl hmem
    by_cases hclosed : s.state = .closed
    · exact (hperforms.entered_open hclosed (hok.not_revives hrunning hclosed)).2 state
        (by simp [heq])
    · rcases List.mem_append.mp hmem with hold | hnew
      · exact hclosed (hinv.closed.mpr hold)
      · rcases hperforms.entered_closed hclosed with ⟨-, hnot⟩ | ⟨-, honly, -⟩
        · exact hnot (by simp [heq, hnew])
        · -- only one effect is shown, so none comes before it
          rw [honly] at heq
          cases past with
          | nil => cases hnew
          | cons _ past => simp at heq
  · cases next with
    | callback event codes =>
        simp only [Session.nextEffects, eachAfter_cons, eachAfter_nil, and_true, List.append_nil]
        rcases hperforms.invoked with haside | rfl | ⟨agent, rfl, hrevives, hnot⟩ |
          ⟨agent, reason, detail, rfl, hhello, hopen, honly⟩
        · exact closedForGood_of_aside haside
        · exact closedForGood_of_aside
            (hinv.pending event (Session.pending_running hrunning List.mem_cons_self))
        · intro hmem
          rcases List.mem_append.mp hmem with hold | hnew
          · exact hok.not_revives hrunning (hinv.closed.mpr hold) hrevives
          · exact hnot hnew
        · refine ⟨List.mem_append_left _ (hinv.connected hhello), fun e he => ?_⟩
          rcases List.mem_append.mp he with hold | hnew
          · exact hinv.disconnected hopen e hold
          · rw [honly] at hnew
            rw [List.mem_singleton.mp hnew]
            exact id
    | write frame purpose codes => simp [Session.nextEffects, ClosedForGood]
    | _ => exact eachAfter_nil _

/-- An instruction keeps the invariant. -/
lemma ClosingInvariant.performed {owner : Owner} {code : Code Input} {stack : List (Code Input)}
    {t : Session Input} {next : Next Input} {effects : List (Effect Input)}
    (hinv : ClosingInvariant h s) (hok : StaysClosed h s action)
    (hrunning : s.running = some ⟨owner, code :: stack⟩)
    (hperforms : Performs config s code t next effects)
    (hpending : PendingAside (t.proceed owner stack next)) :
    ClosingInvariant (h ++ (effects ++ Session.nextEffects next))
      (t.proceed owner stack next) := by
  have hentered : .entered .closed ∈ h ++ (effects ++ Session.nextEffects next) ↔
      .entered .closed ∈ h ∨ .entered .closed ∈ effects := by
    simp
  have hkept : s.state = .closed →
      t.state = .closed ∧ ∀ state, .entered state ∉ effects := fun hclosed =>
    hperforms.entered_open hclosed (hok.not_revives hrunning hclosed)
  refine ⟨?_, ?_, ?_, ?_, hpending, hinv.law_performed hok hrunning hperforms⟩
  · rw [sameFields_proceed.state, hentered, ← hinv.closed]
    by_cases hclosed : s.state = .closed
    · simp [hclosed, (hkept hclosed).1]
    · rcases hperforms.entered_closed hclosed with ⟨hopen, hnot⟩ | ⟨hshut, honly, -⟩
      · simp [hclosed, hopen, hnot]
      · simp [hshut, honly]
  · rw [sameFields_proceed.state]
    intro hshut
    have hnone : t.outbound = [] ∧ ∀ frame purpose codes, next ≠ .write frame purpose codes := by
      rw [hperforms.loop.outbound]
      by_cases hclosed : s.state = .closed
      · refine ⟨hinv.drained hclosed, ?_⟩
        rintro frame purpose codes rfl
        exact hperforms.write_open hclosed
      · rcases hperforms.entered_closed hclosed with ⟨hopen, -⟩ | ⟨-, -, ⟨reason, detail, rfl⟩, hnext⟩
        · exact absurd hshut hopen
        · exact ⟨hok.outbound hrunning hclosed, hnext⟩
    rcases outbound_proceed with hsame | ⟨frame, purpose, codes, heq, -⟩
    · rw [hsame, hnone.1]
    · exact absurd heq (hnone.2 _ _ _)
  · rw [sameFields_proceed.hello]
    intro hhello
    rcases hperforms.hello hhello with hold | hnew
    · exact List.mem_append_left _ (hinv.connected hold)
    · exact List.mem_append_right _ (List.mem_append_left _ hnew)
  · rw [sameFields_proceed.state]
    intro hopen e he
    have hbefore : s.state ≠ .closed := fun hclosed => hopen (hkept hclosed).1
    rcases List.mem_append.mp he with hold | hnew
    · exact hinv.disconnected hbefore e hold
    · rcases List.mem_append.mp hnew with hown | hnext
      · intro hdisconnection
        have := hperforms.own e hown
        cases e <;> simp_all [Effect.IsDisconnection, Effect.isOwn]
      · rcases mem_nextEffects.mp hnext with ⟨_, _, _, -, rfl⟩ | ⟨event, codes, rfl, rfl⟩
        · exact id
        · intro hdisconnection
          rcases hperforms.invoked with haside | rfl | ⟨agent, rfl, -⟩ |
            ⟨agent, reason, detail, rfl, -, -, honly⟩
          · cases event <;> simp_all [Effect.IsDisconnection, HostEvent.isAside]
          · have haside := hinv.pending event (Session.pending_running hrunning List.mem_cons_self)
            cases event <;> simp_all [Effect.IsDisconnection, HostEvent.isAside]
          · exact hdisconnection
          · rcases hperforms.entered_closed hbefore with ⟨-, hnot⟩ | ⟨hshut, -⟩
            · exact hnot (by simp [honly])
            · exact hopen hshut

/-- A step of the event loop keeps the invariant: a write only starts while the session is open. -/
lemma ClosingInvariant.reacted (hinv : ClosingInvariant h s)
    (hreacts : Reacts config s action s' es) (hpending : PendingAside s') :
    ClosingInvariant (h ++ es) s' := by
  have hfields := hreacts.fields
  have hquiet : ∀ e ∈ es, (∀ state, e ≠ .entered state) ∧ ∀ event, e ≠ .invoked event := by
    rcases hreacts.effects with rfl | ⟨input, rfl⟩ | ⟨write, rest, hqueue, rfl⟩ |
      ⟨answer, response, task, -, rfl⟩ <;> simp_all
  refine ⟨?_, ?_, ?_, ?_, hpending, eachAfter_append.mpr ⟨hinv.law, ?_⟩⟩
  · rw [hfields.state, hinv.closed, List.mem_append]
    exact (or_iff_left fun hmem => (hquiet _ hmem).1 _ rfl).symm
  · rw [hfields.state]
    intro hclosed
    rcases hreacts.outbound with ⟨hsame, -⟩ | ⟨write, -, hqueue, -⟩
    · rw [hsame, hinv.drained hclosed]
    · rw [hinv.drained hclosed] at hqueue
      cases hqueue
  · rw [hfields.hello]
    exact fun hhello => List.mem_append_left _ (hinv.connected hhello)
  · rw [hfields.state]
    intro hopen e he
    rcases List.mem_append.mp he with hold | hnew
    · exact hinv.disconnected hopen e hold
    · cases e with
      | invoked event => exact absurd rfl ((hquiet _ hnew).2 event)
      | _ => exact id
  · rcases hreacts.effects with rfl | ⟨input, rfl⟩ | ⟨write, rest, hqueue, rfl⟩ |
      ⟨answer, response, task, -, rfl⟩
    · exact eachAfter_nil _
    · simp [ClosedForGood]
    · simp only [eachAfter_cons, eachAfter_nil, and_true, List.append_nil]
      intro hclosed
      rw [hinv.drained (hinv.closed.mpr hclosed)] at hqueue
      cases hqueue
    · simp [ClosedForGood]

/-- **One step keeps the invariant.** -/
lemma ClosingInvariant.step (hinv : ClosingInvariant h s) (hok : StaysClosed h s action)
    (hstep : SessionStep config s action s' es) : ClosingInvariant (h ++ es) s' := by
  have hpending := hinv.pending.step hstep
  cases hstep with
  | performed hrunning hperforms => exact hinv.performed hok hrunning hperforms hpending
  | finished hrunning =>
      rw [List.append_nil]
      exact ⟨hinv.closed, hinv.drained, hinv.connected, hinv.disconnected, hpending, hinv.law⟩
  | reacted hidle hreacts => exact hinv.reacted hreacts hpending

end Step

lemma closingInvariant_of_runs {h : List (Effect Input)} {s : Session Input}
    (hrun : (sessionSystem config).Runs StaysClosed (.initial config) h s) :
    ClosingInvariant h s :=
  hrun.invariant .initial fun _ _ _ _ _ _ hinv hok hstep => hinv.step hok (step_cases hstep)

/-- **A closed session stays closed.**  In every run in which no handoff completes in a session that
is closed already, and no session is finalized while writes wait in its queue: once a session is
closed its state does not change, no frame is handed to the transport and the host is not told of a
connection; and the host is told at most once that a connection ended, after it had begun. -/
theorem closed_for_good {h : List (Effect Input)} {s : Session Input}
    (hrun : (sessionSystem config).Runs StaysClosed (.initial config) h s) :
    EachAfter ClosedForGood h ∧ (.entered .closed ∈ h → s.state = .closed) :=
  have hinv := closingInvariant_of_runs hrun
  ⟨hinv.law, hinv.closed.mpr⟩

namespace Sample

/-- The host disconnects an agent; a second call comes too late. -/
def disconnected : List (Action Wire) :=
  connected ++ [.disconnect ⟨none, none, none, none⟩, .advance] ++ written 2 ++
    [.settleClose 0, .advance, .settleCallback 0 true] ++ List.replicate 2 .advance ++
    [.disconnect ⟨none, none, none, none⟩] ++ List.replicate 2 .advance

/-- The host disconnects while `auth.accepted` is handed over. -/
def revived : List (Action Wire) :=
  authenticated ++ [.startWrite, .disconnect ⟨none, none, none, none⟩] ++
    List.replicate 2 .advance ++ [.settleClose 0] ++ List.replicate 3 .advance ++
    [.settleWrite .ok, .resumeWrite 0, .advance]

end Sample

/-- A session that the host disconnects is closed for good. -/
theorem closed_for_good_disconnected :
    let r := (sessionSystem Sample.config).run
      (fun h s action => decide (StaysClosed h s action)) (.initial Sample.config)
      Sample.disconnected
    (.disconnectReturned false ∈ r.1 ∧ .entered .closed ∈ r.1) ∧
      EachAfter ClosedForGood r.1 ∧ (.entered .closed ∈ r.1 → r.2.state = .closed) :=
  ⟨by decide +kernel, closed_for_good (System.runs_run (fun _ _ _ h => of_decide_eq_true h) _)⟩

/-- A handoff that completes late brings a closed session back. -/
theorem closed_session_revived :
    ¬ ∀ (config : SessionConfig Sample.Wire) (h : List (Effect Sample.Wire))
      (s : Session Sample.Wire), (sessionSystem config).Runs anyStep (.initial config) h s →
        EachAfter ClosedForGood h ∧ (.entered .closed ∈ h → s.state = .closed) := by
  intro hall
  let r := (sessionSystem Sample.config).run (fun _ _ _ => true) (.initial Sample.config)
    Sample.revived
  have hlaw := hall Sample.config r.1 r.2 (System.runs_run (fun _ _ _ _ => trivial) _)
  have hclosed : .entered .closed ∈ r.1 := by decide +kernel
  have hstate : r.2.state = .handshaking := by decide +kernel
  rw [hlaw.2 hclosed] at hstate
  cases hstate

end Oppa.Server
