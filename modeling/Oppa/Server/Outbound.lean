import Oppa.Server.Transition

/-!
# The queue of writes

Writes go through one queue, in the order in which they were enqueued.  Whether a frame may be sent
is decided when it is enqueued, and not looked at again when its turn comes.

* `Enqueues` — the frames an instruction may enqueue, and in which state: **`Performs.enqueues`**.
* `QueueInvariant` — the frames sent, with those that wait, are those enqueued, in this order.
* `GreetingInvariant` — whatever a connected session sends comes after `server.hello`.

Both hold in every run.
-/

namespace Oppa.Server

open History Protocol

variable {Input : Type} {config : SessionConfig Input}

/-! ## Frames -/

namespace Frame

/-- `server.hello`. -/
def isHello : Frame → Bool
  | .server message =>
    match message.kind with
    | .hello _ => true
    | _ => false
  | _ => false

/-- `server.disconnect`. -/
def isFarewell : Frame → Bool
  | .server message =>
    match message.kind with
    | .disconnect _ => true
    | _ => false
  | _ => false

/-- A message of the host application. -/
def isApplication : Frame → Bool
  | .server message => !isProtocolControl message.kind
  | _ => false

/-- A frame whose content needs the extended protocol. -/
def isExtended : Frame → Bool
  | .server message => message.kind.requiredVersion = .extended
  | _ => false

end Frame

/-- The frames that were handed to the transport. -/
def sentFrames (h : List (Effect Input)) : List Frame :=
  h.filterMap fun
    | .sent frame _ => some frame
    | _ => none

/-- The frames that joined the queue. -/
def enqueuedFrames (h : List (Effect Input)) : List Frame :=
  h.filterMap fun
    | .enqueued frame => some frame
    | _ => none

/-! ## What is enqueued, and when -/

/-- **The frames an instruction may enqueue**, the state they need, and the state they leave. -/
inductive Enqueues (s t : Session Input) : Frame → Written → Prop
  | authentication {frame purpose} :
      s.state = .authenticating → (∀ message, frame ≠ .server message) →
      (∀ hello selected, purpose ≠ .hello hello selected) → Enqueues s t frame purpose
  | hello {message payload hello selected} :
      s.state = .handshaking → message.kind = .hello payload →
      Enqueues s t (.server message) (.hello hello selected)
  | heartbeat {message payload messageId} :
      s.state = .connected → t.state = .connected → message.kind = .heartbeat payload →
      Enqueues s t (.server message) (.heartbeat messageId)
  | farewell {message payload} :
      s.state = .connected → t.state = .closing → message.kind = .disconnect payload →
      Enqueues s t (.server message) .last
  | application {message} :
      s.state = .connected → t.state = .connected → isProtocolControl message.kind = false →
      (message.kind.requiredVersion = .extended → s.protocolVersion = .extended) →
      Enqueues s t (.server message) (.application message)

section Instructions

variable {s t : Session Input} {code : Code Input} {frame : Frame} {purpose : Written}
  {codes : List (Code Input)} {effects : List (Effect Input)}

lemma Performs.enqueues (hperforms : Performs config s code t (.write frame purpose codes) effects) :
    Enqueues s t frame purpose := by
  cases hperforms with
  | began hoffers =>
      cases hoffers with
      | enqueued hstate => exact .authentication hstate (by simp) (by simp)
  | identified _ _ _ hoffers =>
      cases hoffers with
      | enqueued hstate => exact .authentication hstate (by simp) (by simp)
  | rejected hstate _ hconcludes =>
      cases hconcludes
      exact .authentication hstate (by simp) (by simp)
  | offersHello _ _ hkind hoffers =>
      cases hoffers with
      | enqueued hstate => exact .hello hstate hkind
  | offersHeartbeat hstate hoffers =>
      cases hoffers
      exact .heartbeat hstate hstate rfl
  | offersMessage hstate hextended hoffers =>
      cases hoffers
      exact .application hstate hstate (ApplicationMessage.application _) hextended
  | bidsFarewell hstate _ _ _ hconcludes =>
      cases hconcludes
      exact .farewell hstate rfl rfl
  | routed _ hnotifies | invokes hnotifies | connected hnotifies => cases hnotifies
  | finalized _ hnext =>
      rcases hnext with hnone | ⟨agent, -, hnotifies⟩
      · cases hnone
      · cases hnotifies

/-- A frame written as `server.hello` is one. -/
lemma Enqueues.isHello {hello : AgentHello} {selected : ProtocolVersion}
    (henqueues : Enqueues s t frame (.hello hello selected)) : frame.isHello = true := by
  cases henqueues with
  | authentication _ _ hpurpose => exact absurd rfl (hpurpose hello selected)
  | hello _ hkind => simp only [Frame.isHello, hkind]

/-- Nothing is enqueued by a session that has begun to close. -/
lemma Enqueues.isClosing (henqueues : Enqueues s t frame purpose) : s.isClosing = false := by
  cases henqueues <;> simp_all [Session.isClosing]

lemma Enqueues.application_state (henqueues : Enqueues s t frame purpose)
    (happlication : frame.isApplication = true) : s.state = .connected := by
  cases henqueues with
  | authentication _ hframe _ => cases frame <;> simp_all [Frame.isApplication]
  | hello _ hkind => simp [Frame.isApplication, hkind, isProtocolControl] at happlication
  | heartbeat hstate | farewell hstate | application hstate => exact hstate

lemma Enqueues.extended_version (henqueues : Enqueues s t frame purpose)
    (hextended : frame.isExtended = true) : s.protocolVersion = .extended := by
  cases henqueues with
  | authentication _ hframe _ => cases frame <;> simp_all [Frame.isExtended]
  | hello _ hkind | heartbeat _ _ hkind | farewell _ _ hkind =>
      simp [Frame.isExtended, hkind, ServerMessageKind.requiredVersion, ProtocolVersion.base,
        ProtocolVersion.extended] at hextended
  | application _ _ _ hversion => exact hversion (by simpa [Frame.isExtended] using hextended)

lemma Enqueues.farewell_states (henqueues : Enqueues s t frame purpose)
    (hfarewell : frame.isFarewell = true) : t.isClosing = true := by
  cases henqueues with
  | authentication _ hframe _ => cases frame <;> simp_all [Frame.isFarewell]
  | hello _ hkind | heartbeat _ _ hkind => simp [Frame.isFarewell, hkind] at hfarewell
  | farewell _ hstate _ => simp [Session.isClosing, hstate]
  | @application message _ _ hcontrol _ =>
      cases hkind : message.kind <;> simp_all [Frame.isFarewell, isProtocolControl]

end Instructions

/-! ## The queue -/

section

variable {s t s' : Session Input} {h es effects : List (Effect Input)} {action : Action Input}
  {next : Next Input} {owner : Owner} {code : Code Input} {stack : List (Code Input)}

lemma sentFrames_append : sentFrames (h ++ es) = sentFrames h ++ sentFrames es :=
  List.filterMap_append

lemma enqueuedFrames_append : enqueuedFrames (h ++ es) = enqueuedFrames h ++ enqueuedFrames es :=
  List.filterMap_append

lemma mem_sentFrames {frame : Frame} : frame ∈ sentFrames h ↔ ∃ at_, .sent frame at_ ∈ h := by
  simp only [sentFrames, List.mem_filterMap]
  constructor
  · rintro ⟨e, he, hread⟩
    cases e <;> simp_all
    exact ⟨_, he⟩
  · rintro ⟨at_, he⟩
    exact ⟨_, he, rfl⟩

lemma mem_enqueuedFrames {frame : Frame} : frame ∈ enqueuedFrames h ↔ .enqueued frame ∈ h := by
  simp only [enqueuedFrames, List.mem_filterMap]
  constructor
  · rintro ⟨e, he, hread⟩
    cases e <;> simp_all
  · exact fun he => ⟨_, he, rfl⟩

/-- An instruction hands no frame to the transport, and enqueues what it comes to wait for. -/
lemma Performs.frames (owner : Owner) (stack : List (Code Input))
    (hperforms : Performs config s code t next effects) :
    sentFrames (effects ++ Session.nextEffects next) = [] ∧
      (t.proceed owner stack next).outbound.map Write.frame =
        s.outbound.map Write.frame ++ enqueuedFrames (effects ++ Session.nextEffects next) := by
  have hsent : sentFrames effects = [] := by
    refine List.filterMap_eq_nil_iff.mpr fun e he => ?_
    have hown := hperforms.own e he
    cases e <;> simp_all [Effect.isOwn]
  have henqueued : enqueuedFrames effects = [] := by
    refine List.filterMap_eq_nil_iff.mpr fun e he => ?_
    have hown := hperforms.own e he
    cases e <;> simp_all [Effect.isOwn]
  rw [sentFrames_append, enqueuedFrames_append, hsent, henqueued]
  have hloop := hperforms.loop.outbound
  cases next with
  | fail => cases owner <;> simp [Session.proceed, Session.throw, Session.resume, Session.finish, Session.nextEffects, sentFrames, enqueuedFrames, hloop]
  | _ => simp [Session.proceed, Session.resume, Session.nextEffects, sentFrames, enqueuedFrames, hloop]

/-- Frames leave the queue at its head, when they are handed to the transport. -/
lemma Reacts.frames (hreacts : Reacts config s action s' es) :
    enqueuedFrames es = [] ∧
      s.outbound.map Write.frame = sentFrames es ++ s'.outbound.map Write.frame := by
  have henqueued : enqueuedFrames es = [] := by
    rcases hreacts.effects with rfl | ⟨_, rfl⟩ | ⟨_, _, _, rfl⟩ | ⟨_, _, _, _, rfl⟩ <;> rfl
  refine ⟨henqueued, ?_⟩
  rcases hreacts.outbound with ⟨hsame, hnone⟩ | ⟨write, -, hqueue, rfl⟩
  · have hsent : sentFrames es = [] := by
      refine List.eq_nil_iff_forall_not_mem.mpr fun frame hframe => ?_
      rcases mem_sentFrames.mp hframe with ⟨at_, hmem⟩
      exact hnone frame at_ hmem
    rw [hsent, hsame, List.nil_append]
  · rw [hqueue]
    rfl

/-- The frames sent, with those that wait, are those enqueued. -/
def QueueInvariant (h : List (Effect Input)) (s : Session Input) : Prop :=
  sentFrames h ++ s.outbound.map Write.frame = enqueuedFrames h

lemma QueueInvariant.initial : QueueInvariant [] (Session.initial config) := rfl

lemma QueueInvariant.step (hinv : QueueInvariant h s) (hstep : SessionStep config s action s' es) :
    QueueInvariant (h ++ es) s' := by
  simp only [QueueInvariant, sentFrames_append, enqueuedFrames_append, List.append_assoc] at hinv ⊢
  cases hstep with
  | @performed owner code stack t next effects hrunning hperforms =>
      rcases hperforms.frames _ _ with ⟨hsent, hqueue⟩
      rw [hsent, hqueue, List.nil_append, ← hinv, List.append_assoc]
  | finished hrunning => simpa [sentFrames, enqueuedFrames, Session.finish] using hinv
  | reacted hidle hreacts =>
      rcases hreacts.frames with ⟨hnone, hqueue⟩
      rw [hnone, List.append_nil, ← hqueue, hinv]

lemma queueInvariant_of_runs {ok : StepCondition (Session Input) (Action Input) (Effect Input)}
    (hrun : (sessionSystem config).Runs ok (.initial config) h s) : QueueInvariant h s :=
  hrun.invariant (QueueInvariant.initial) fun _ _ _ _ _ _ hinv _ hstep =>
    hinv.step (step_cases hstep)

/-! ## The hello comes first -/

/-- `server.hello` was handed to the transport. -/
def HelloSent (h : List (Effect Input)) : Prop := ∃ frame ∈ sentFrames h, frame.isHello = true

lemma HelloSent.mono (hsent : HelloSent h) : HelloSent (h ++ es) := by
  rcases hsent with ⟨frame, hmem, hhello⟩
  exact ⟨frame, sentFrames_append ▸ List.mem_append_left _ hmem, hhello⟩

/-- **The handoff of the hello comes before whatever a connected session does.** -/
structure GreetingInvariant (h : List (Effect Input)) (s : Session Input) : Prop where
  written : ∀ write ∈ s.outbound ++ s.handed, ∀ hello selected,
    write.purpose = .hello hello selected → write.frame.isHello = true
  handed : ∀ write ∈ s.handed, write.frame ∈ sentFrames h
  pending : ∀ hello selected, s.Pending (.written (.hello hello selected) .ok) → HelloSent h
  connected : s.state = .connected → HelloSent h
  application : ∀ frame ∈ enqueuedFrames h, frame.isApplication = true → HelloSent h

lemma GreetingInvariant.initial : GreetingInvariant [] (Session.initial config) where
  written := by simp [Session.initial, Session.handed]
  handed := by simp [Session.initial, Session.handed]
  pending hello selected hpending := by
    cases Session.pending_initial.mp hpending
  connected := by simp [Session.initial]
  application := by simp [enqueuedFrames]

/-- A session becomes connected when the handoff of the hello completes. -/
lemma Performs.connected_of (hperforms : Performs config s code t next effects)
    (hstate : t.state = .connected) :
    s.state = .connected ∨ ∃ hello selected, code = .written (.hello hello selected) .ok := by
  cases hperforms <;> simp_all [Session.beginClosing, Session.draw, Session.prunePendingHeartbeats]

/-- What is enqueued in a step was offered by an instruction. -/
lemma SessionStep.enqueues (hstep : SessionStep config s action s' es) {frame : Frame}
    (hmem : frame ∈ enqueuedFrames es) :
    ∃ t purpose, t.state = s'.state ∧ Enqueues s t frame purpose := by
  rw [mem_enqueuedFrames] at hmem
  cases hstep with
  | @performed owner code stack t next effects hrunning hperforms =>
      rcases List.mem_append.mp hmem with hown | hnext
      · cases hperforms.own _ hown
      · rcases mem_nextEffects.mp hnext with ⟨_, purpose, codes, rfl, heq⟩ | ⟨_, _, -, heq⟩
        · cases heq
          exact ⟨t, purpose, sameFields_proceed.state.symm, hperforms.enqueues⟩
        · cases heq
  | finished _ => cases hmem
  | reacted _ hreacts =>
      rw [← mem_enqueuedFrames, hreacts.frames.1] at hmem
      cases hmem

lemma GreetingInvariant.step (hinv : GreetingInvariant h s)
    (hstep : SessionStep config s action s' es) : GreetingInvariant (h ++ es) s' := by
  refine ⟨?_, ?_, ?_, ?_, ?_⟩
  · intro write hmem hello selected hpurpose
    rcases List.mem_append.mp hmem with hwaits | hhanded
    · rcases hstep.outbound hwaits with hold | ⟨_, _, _, _, _, _, -, hperforms, -⟩
      · exact hinv.written write (List.mem_append_left _ hold) hello selected hpurpose
      · rw [hpurpose] at hperforms
        exact hperforms.enqueues.isHello
    · rcases hstep.handed hhanded with hold | ⟨hold, -⟩
      · exact hinv.written write (List.mem_append_right _ hold) hello selected hpurpose
      · exact hinv.written write (List.mem_append_left _ hold) hello selected hpurpose
  · intro write hmem
    rw [sentFrames_append]
    rcases hstep.handed hmem with hold | ⟨-, rfl⟩
    · exact List.mem_append_left _ (hinv.handed write hold)
    · exact List.mem_append_right _ List.mem_cons_self
  · intro hello selected hpending
    refine HelloSent.mono ?_
    generalize hcode : (Code.written (.hello hello selected) .ok : Code Input) = code at hpending
    rcases hstep.pending hpending with hold | harises
    · exact hinv.pending hello selected (hcode ▸ hold)
    · cases harises with
      | @resumed write result hsettled =>
          rcases Code.written.inj hcode with ⟨hpurpose, -⟩
          have hhanded : write ∈ s.handed :=
            List.mem_append_right _ (List.mem_map_of_mem (f := Prod.fst) hsettled)
          exact ⟨write.frame, hinv.handed write hhanded,
            hinv.written write (List.mem_append_right _ hhanded) _ _ hpurpose.symm⟩
      | instructed _ hperforms _ hmem =>
          cases hperforms.adds hmem with
          | farewell hlast => cases hlast <;> cases hcode
          | _ => cases hcode
      | _ => cases hcode
  · intro hstate
    refine HelloSent.mono ?_
    cases hstep with
    | performed hrunning hperforms =>
        rw [sameFields_proceed.state] at hstate
        rcases hperforms.connected_of hstate with hold | ⟨hello, selected, rfl⟩
        · exact hinv.connected hold
        · exact hinv.pending hello selected
            (Session.pending_running hrunning List.mem_cons_self)
    | finished _ => exact hinv.connected hstate
    | reacted _ hreacts => exact hinv.connected (hreacts.fields.state ▸ hstate)
  · intro frame hmem happlication
    refine HelloSent.mono ?_
    rw [enqueuedFrames_append] at hmem
    rcases List.mem_append.mp hmem with hold | hnew
    · exact hinv.application frame hold happlication
    · rcases hstep.enqueues hnew with ⟨_, _, -, henqueues⟩
      exact hinv.connected (henqueues.application_state happlication)

lemma greetingInvariant_of_runs
    {ok : StepCondition (Session Input) (Action Input) (Effect Input)}
    (hrun : (sessionSystem config).Runs ok (.initial config) h s) : GreetingInvariant h s :=
  hrun.invariant .initial fun _ _ _ _ _ _ hinv _ hstep => hinv.step (step_cases hstep)

end

end Oppa.Server
