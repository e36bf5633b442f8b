import Oppa.Server.Outbound

/-!
# Authentication

Who a session talks to.  A session reaches its handshake only by a signed response to its own
challenge, and only once; until it has said hello, it tells its host of nothing but the end of the
connection and protocol errors, and of callbacks about these that failed.

* `Responds`, `Recognizes` — what a session knows when it looks a credential up, and when it
  recognizes an agent: the response, the challenge it answers, and the credential.
* `AuthenticationLaw`, `HelloFirst` — the laws.
* `AuthenticationInvariant`, `EventInvariant` — what carries them.
* **`authentication_sound`** — every run keeps the laws.
-/

namespace Oppa.Server

open History Protocol

variable {Input : Type} {config : SessionConfig Input}

/-! ## The laws -/

/-- The first frame that was taken for a response, and when. -/
def firstAuthentication (h : List (Effect Input)) : Option (Input × ℕ) :=
  h.findSome? fun
    | .authenticating input at_ => some (input, at_)
    | _ => none

/-- **What a session knows when it looks a credential up.** -/
structure Responds (config : SessionConfig Input) (h : List (Effect Input)) (input : Input)
    (at_ : ℕ) (challenge : Challenge) (response : AuthenticationResponse) : Prop where
  received : ∃ arrived, .received input arrived ∈ h
  first : firstAuthentication h = some (input, at_)
  challenged : .challenged challenge ∈ h
  decoded : config.decodeResponse input = .ok response
  named : response.challengeId = challenge.challengeId
  unexpired : at_ < challenge.expiresAt
  lookedUp : .lookedUp response.agentId response.keyId ∈ h

/-- **What a session knows when it recognizes an agent.** -/
structure Recognizes (config : SessionConfig Input) (h : List (Effect Input)) (input : Input)
    (at_ : ℕ) (challenge : Challenge) (response : AuthenticationResponse)
    (credential : AgentCredentialRecord) : Prop
    extends Responds config h input at_ challenge response where
  found : .found (some credential) ∈ h
  unrevoked : credential.revokedAt = none
  verified : config.verify credential.publicKey challenge.payload response.signature = true
  identified : .identified credential.agentId ∈ h

/-- A handshake begins with an agent that was recognized, by the one challenge of the session and
under the one identity; a credential is looked up once. -/
def AuthenticationLaw (config : SessionConfig Input) (past : List (Effect Input)) :
    Effect Input → Prop
  | .entered .handshaking =>
      ∃ input at_ challenge response credential,
        Recognizes config past input at_ challenge response credential ∧
          (∀ other, .challenged other ∈ past → other = challenge) ∧
          ∀ agentId, .identified agentId ∈ past → agentId = credential.agentId
  | .lookedUp _ _ => ∀ agentId keyId, .lookedUp agentId keyId ∉ past
  | .found _ => ∀ answer, .found answer ∉ past
  | _ => True

/-- Callbacks about the end of a connection and about protocol errors. -/
def HostEvent.isEnding : HostEvent → Bool
  | .agentDisconnected _ _ _ | .protocolError _ _ _ => true
  | _ => false

/-- Callbacks that may come before the hello: those about the end of a connection and about protocol
errors, and the report that one of them failed. -/
def HostEvent.isEarly : HostEvent → Bool
  | .callbackError name => name = .onAgentDisconnected || name = .onProtocolError
  | event => event.isEnding

/-- Nothing but early callbacks, and no frame of the host application, comes before the hello. -/
def HelloFirst (early : HostEvent → Bool) (past : List (Effect Input)) : Effect Input → Prop
  | .invoked event => early event = true ∨ HelloSent past
  | .sent frame _ => frame.isApplication = true → HelloSent past
  | _ => True

/-! ## What is known stays known -/

section

variable {s t s' : Session Input} {h es effects : List (Effect Input)} {action : Action Input}
  {next : Next Input} {owner : Owner} {code : Code Input} {stack : List (Code Input)}
  {input : Input} {at_ : ℕ} {challenge : Challenge} {response : AuthenticationResponse}
  {credential : AgentCredentialRecord}

lemma firstAuthentication_append (hfirst : firstAuthentication h = some (input, at_)) :
    firstAuthentication (h ++ es) = some (input, at_) := by
  simp only [firstAuthentication, List.findSome?_append] at hfirst ⊢
  rw [hfirst, Option.some_or]

lemma Responds.mono (hresponds : Responds config h input at_ challenge response) :
    Responds config (h ++ es) input at_ challenge response where
  received := hresponds.received.imp fun _ => List.mem_append_left _
  first := firstAuthentication_append hresponds.first
  challenged := List.mem_append_left _ hresponds.challenged
  decoded := hresponds.decoded
  named := hresponds.named
  unexpired := hresponds.unexpired
  lookedUp := List.mem_append_left _ hresponds.lookedUp

lemma Recognizes.mono (hrecognizes : Recognizes config h input at_ challenge response credential) :
    Recognizes config (h ++ es) input at_ challenge response credential where
  toResponds := hrecognizes.toResponds.mono
  found := List.mem_append_left _ hrecognizes.found
  unrevoked := hrecognizes.unrevoked
  verified := hrecognizes.verified
  identified := List.mem_append_left _ hrecognizes.identified

/-- Some response was accepted for a lookup. -/
def Answered (config : SessionConfig Input) (h : List (Effect Input))
    (response : AuthenticationResponse) : Prop :=
  ∃ input at_ challenge, Responds config h input at_ challenge response

/-- Some agent was recognized. -/
def Recognized (config : SessionConfig Input) (h : List (Effect Input)) : Prop :=
  ∃ input at_ challenge response credential,
    Recognizes config h input at_ challenge response credential

lemma Answered.mono (hanswered : Answered config h response) :
    Answered config (h ++ es) response := by
  rcases hanswered with ⟨input, at_, challenge, hresponds⟩
  exact ⟨input, at_, challenge, hresponds.mono⟩

lemma Recognized.mono (hrecognized : Recognized config h) : Recognized config (h ++ es) := by
  rcases hrecognized with ⟨input, at_, challenge, response, credential, hrecognizes⟩
  exact ⟨input, at_, challenge, response, credential, hrecognizes.mono⟩

/-! ## What only some instructions do -/

/-- The challenge is set once, at the beginning. -/
lemma Performs.challenge_cases (hperforms : Performs config s code t next effects) :
    (t.challenge = s.challenge ∧ ∀ challenge, .challenged challenge ∉ effects) ∨
      code = .beginAuthentication ∧
        ∃ challenge, t.challenge = some challenge ∧ effects = [.challenged challenge] := by
  cases hperforms with
  | began => exact Or.inr ⟨rfl, _, rfl, rfl⟩
  | rejected _ hcloses _ | bidsFarewell _ _ hcloses _ _ | breaksOff _ _ hcloses _ =>
      exact Or.inl ⟨rfl, fun challenge => by cases hcloses <;> simp⟩
  | _ => exact Or.inl ⟨rfl, by simp⟩

/-- A frame that is taken for a response consumes the challenge, or ends the session. -/
lemma Performs.consumed (hperforms : Performs config s code t next effects) :
    (s.challengeConsumed = true → t.challengeConsumed = true) ∧
      (s.state ≠ .authenticating → t.state ≠ .authenticating) ∧
      ∀ input at_, .authenticating input at_ ∈ effects →
        t.challengeConsumed = true ∨ t.state ≠ .authenticating := by
  cases hperforms with
  | rejected | bidsFarewell | breaksOff | transportFailed =>
      exact ⟨id, by simp [Session.beginClosing], by simp [Session.beginClosing]⟩
  | refused | lookedUp => simp
  | finalized | accepted | connected => exact ⟨id, by simp, by simp⟩
  | _ => exact ⟨id, id, by simp⟩

/-- **An instruction that looks a credential up.** -/
structure LooksUp (config : SessionConfig Input) (s t : Session Input) (input : Input)
    (challenge : Challenge) (response : AuthenticationResponse) (effects : List (Effect Input)) :
    Prop where
  state : s.state = .authenticating
  known : s.challenge = some challenge
  unused : s.challengeConsumed = false
  consumed : t.challengeConsumed = true
  decoded : config.decodeResponse input = .ok response
  named : response.challengeId = challenge.challengeId
  unexpired : s.now < challenge.expiresAt
  effects : effects = [.authenticating input s.now, .lookedUp response.agentId response.keyId]

lemma Performs.lookup (hperforms : Performs config s code t next effects) :
    ((∀ response, next ≠ .lookup response) ∧ ∀ agentId keyId, .lookedUp agentId keyId ∉ effects) ∨
      ∃ input challenge response, code = .receiveMessage input ∧ next = .lookup response ∧
        LooksUp config s t input challenge response effects := by
  cases hperforms with
  | lookedUp hstate hchallenge hunused hdecoded hnamed hunexpired =>
      exact Or.inr ⟨_, _, _, rfl, rfl,
        ⟨hstate, hchallenge, hunused, rfl, hdecoded, hnamed, hunexpired, rfl⟩⟩
  | began hoffers | identified _ _ _ hoffers | offersHello _ _ _ hoffers
  | offersHeartbeat _ hoffers | offersMessage _ _ hoffers =>
      refine Or.inl ⟨fun response heq => ?_, by simp⟩
      cases hoffers <;> cases heq
  | routed _ hnotifies | invokes hnotifies | connected hnotifies =>
      refine Or.inl ⟨fun response heq => ?_, by simp⟩
      cases hnotifies <;> cases heq
  | rejected _ hcloses hconcludes | bidsFarewell _ _ hcloses _ hconcludes =>
      refine Or.inl ⟨fun response heq => ?_, fun agentId keyId => by cases hcloses <;> simp⟩
      cases hconcludes <;> cases heq
  | breaksOff _ _ hcloses _ =>
      exact Or.inl ⟨by simp, fun agentId keyId => by cases hcloses <;> simp⟩
  | finalized _ hnext =>
      refine Or.inl ⟨fun response heq => ?_, by simp⟩
      rcases hnext with rfl | ⟨agent, -, hnotifies⟩
      · cases heq
      · cases hnotifies <;> cases heq
  | _ => exact Or.inl ⟨by simp, by simp⟩

/-- **An instruction that recognizes an agent.** -/
structure Identifies (config : SessionConfig Input) (s : Session Input) (challenge : Challenge)
    (response : AuthenticationResponse) (credential : AgentCredentialRecord)
    (effects : List (Effect Input)) : Prop where
  known : s.challenge = some challenge
  unrevoked : credential.revokedAt = none
  verified : config.verify credential.publicKey challenge.payload response.signature = true
  effects : effects = [.identified credential.agentId]

lemma Performs.identifies (hperforms : Performs config s code t next effects) :
    ((∀ frame codes, next ≠ .write frame .accepted codes) ∧
        ∀ agentId, .identified agentId ∉ effects) ∨
      ∃ challenge response credential, code = .credentialFound response (some credential) ∧
        Identifies config s challenge response credential effects := by
  cases hperforms with
  | identified hchallenge hunrevoked hverified _ =>
      exact Or.inr ⟨_, _, _, rfl, ⟨hchallenge, hunrevoked, hverified, rfl⟩⟩
  | began hoffers | offersHello _ _ _ hoffers | offersHeartbeat _ hoffers
  | offersMessage _ _ hoffers =>
      refine Or.inl ⟨fun frame codes heq => ?_, by simp⟩
      cases hoffers <;> cases heq
  | routed _ hnotifies | invokes hnotifies | connected hnotifies =>
      refine Or.inl ⟨fun frame codes heq => ?_, by simp⟩
      cases hnotifies <;> cases heq
  | rejected _ hcloses hconcludes | bidsFarewell _ _ hcloses _ hconcludes =>
      refine Or.inl ⟨fun frame codes heq => ?_, fun agentId => by cases hcloses <;> simp⟩
      cases hconcludes <;> cases heq
  | breaksOff _ _ hcloses _ =>
      exact Or.inl ⟨by simp, fun agentId => by cases hcloses <;> simp⟩
  | finalized _ hnext =>
      refine Or.inl ⟨fun frame codes heq => ?_, by simp⟩
      rcases hnext with rfl | ⟨agent, -, hnotifies⟩
      · cases heq
      · cases hnotifies <;> cases heq
  | _ => exact Or.inl ⟨by simp, by simp⟩

/-- The handshake begins when the handoff of `auth.accepted` completes. -/
lemma Performs.handshaking (hperforms : Performs config s code t next effects)
    (hmem : .entered .handshaking ∈ effects) :
    code = .written .accepted .ok ∧ effects = [.entered .handshaking] := by
  cases hperforms with
  | accepted => exact ⟨rfl, rfl⟩
  | rejected _ hcloses _ | bidsFarewell _ _ hcloses _ _ | breaksOff _ _ hcloses _ =>
      cases hcloses <;> simp at hmem
  | _ => simp at hmem

lemma lookup_proceed :
    (∃ response, next = .lookup response ∧
        (s.proceed owner stack next).lookup = some (response, ⟨owner, stack⟩)) ∨
      (∀ response, next ≠ .lookup response) ∧ (s.proceed owner stack next).lookup = s.lookup := by
  cases next with
  | lookup response => exact Or.inl ⟨response, rfl, rfl⟩
  | fail => cases owner <;> exact Or.inr ⟨by simp, rfl⟩
  | _ => exact Or.inr ⟨by simp, rfl⟩

/-- A lookup waits until the store answers. -/
lemma Reacts.lookup (hreacts : Reacts config s action s' es) :
    (s'.lookup = s.lookup ∨ s'.lookup = none) ∧
      ∀ answer, .found answer ∈ es → s.lookup.isSome = true ∧ s'.lookup = none := by
  cases hreacts with
  | credentialAnswered hlookup => exact ⟨Or.inr rfl, fun _ _ => ⟨by simp [hlookup], rfl⟩⟩
  | @lookupFails response task =>
      refine ⟨Or.inr ?_, by simp⟩
      cases task.owner <;> rfl
  | _ => exact ⟨Or.inl rfl, by simp⟩

/-! ## The invariant -/

/-- The instruction that begins the authentication is there once, and before any challenge. -/
def BeginsOnce (h : List (Effect Input)) (s : Session Input) : Prop :=
  s.Pending .beginAuthentication →
    (∃ rest, s.codes = {.beginAuthentication} + rest ∧ .beginAuthentication ∉ rest) ∧
      s.challenge = none ∧ ∀ challenge, .challenged challenge ∉ h

/-- **What carries the law of authentication** through a run. -/
structure AuthenticationInvariant (config : SessionConfig Input) (h : List (Effect Input))
    (s : Session Input) : Prop where
  received : ∀ input, s.Pending (.receiveMessage input) → ∃ arrived, .received input arrived ∈ h
  begins : BeginsOnce h s
  challenge : ∀ challenge, .challenged challenge ∈ h ↔ s.challenge = some challenge
  first : ∀ input at_, .authenticating input at_ ∈ h →
    s.challengeConsumed = true ∨ s.state ≠ .authenticating
  consumed : ∀ agentId keyId, .lookedUp agentId keyId ∈ h → s.challengeConsumed = true
  lookup : ∀ response task, s.lookup = some (response, task) → Answered config h response
  found : ∀ answer, .found answer ∈ h → s.challengeConsumed = true ∧ s.lookup = none
  answered : ∀ response answer, s.Pending (.credentialFound response answer) →
    Answered config h response ∧ .found answer ∈ h
  identified : ∀ agentId, .identified agentId ∈ h →
    ∃ credential, .found (some credential) ∈ h ∧ agentId = credential.agentId
  written : ∀ write ∈ s.outbound ++ s.handed, write.purpose = .accepted → Recognized config h
  accepted : s.Pending (.written .accepted .ok) → Recognized config h
  law : EachAfter (AuthenticationLaw config) h

lemma AuthenticationInvariant.initial :
    AuthenticationInvariant config [] (Session.initial config) where
  received input hpending := by cases Session.pending_initial.mp hpending
  begins _ := ⟨⟨0, Session.codes_initial, by simp⟩, rfl, by simp⟩
  challenge := by simp [Session.initial]
  first := by simp
  consumed := by simp
  lookup := by simp [Session.initial]
  found := by simp
  answered response answer hpending := by cases Session.pending_initial.mp hpending
  identified := by simp
  written := by simp [Session.initial, Session.handed]
  accepted hpending := by cases Session.pending_initial.mp hpending
  law := eachAfter_nil _

/-- Nothing adds the instruction that begins the authentication. -/
lemma not_arises_beginAuthentication : ¬ Arises config s s' es .beginAuthentication := by
  intro harises
  generalize hcode : (Code.beginAuthentication : Code Input) = code at harises
  cases harises with
  | instructed _ hperforms _ hmem =>
      cases hperforms.adds hmem with
      | farewell hlast => cases hlast <;> cases hcode
      | _ => cases hcode
  | _ => cases hcode

namespace AuthenticationInvariant

lemma received_step (hinv : AuthenticationInvariant config h s)
    (hstep : SessionStep config s action s' es) (input : Input)
    (hpending : s'.Pending (.receiveMessage input)) :
    ∃ arrived, .received input arrived ∈ h ++ es := by
  generalize hcode : (Code.receiveMessage input : Code Input) = code at hpending
  rcases hstep.pending hpending with hold | harises
  · exact (hinv.received input (hcode ▸ hold)).imp fun _ => List.mem_append_left _
  · cases harises with
    | received hes =>
        cases hcode
        exact ⟨s.now, List.mem_append_right _ (hes ▸ List.mem_singleton_self _)⟩
    | instructed _ hperforms _ hmem =>
        cases hperforms.adds hmem with
        | farewell hlast => cases hlast <;> cases hcode
        | _ => cases hcode
    | _ => cases hcode

/-- The instruction that begins the authentication is not there any more after it was performed. -/
lemma begun (hinv : AuthenticationInvariant config h s)
    (hstep : SessionStep config s action s' es)
    (hrunning : s.running = some ⟨owner, .beginAuthentication :: stack⟩) :
    ¬ s'.Pending .beginAuthentication := by
  intro hpending
  rcases hinv.begins (Session.pending_running hrunning List.mem_cons_self) with
    ⟨⟨rest, hcodes, hrest⟩, -⟩
  rcases hstep.takes with ⟨gone, new, htakes⟩
  rcases Multiset.exists_cons_of_mem (htakes.performed _ _ _ hrunning) with ⟨gone', rfl⟩
  have hbalance := htakes.balance
  rw [hcodes, ← Multiset.singleton_add, add_left_comm, add_assoc, add_right_inj] at hbalance
  have hmem : .beginAuthentication ∈ rest + new :=
    hbalance ▸ Multiset.mem_add.mpr (Or.inl hpending)
  rcases Multiset.mem_add.mp hmem with hold | hnew
  · exact hrest hold
  · exact not_arises_beginAuthentication (htakes.arises _ hnew)

/-- What a step changes of the challenge. -/
lemma challenge_step (hinv : AuthenticationInvariant config h s)
    (hstep : SessionStep config s action s' es) :
    (s'.challenge = s.challenge ∧ ∀ challenge, .challenged challenge ∉ es) ∨
      (¬ s'.Pending .beginAuthentication ∧ s.challenge = none ∧
        ∃ challenge rest, s'.challenge = some challenge ∧ es = .challenged challenge :: rest ∧
          ∀ other, .challenged other ∉ rest) := by
  have hcases := hstep
  cases hcases with
  | @performed owner code stack t next effects hrunning hperforms =>
      rw [sameFields_proceed.challenge]
      have hnext : ∀ challenge, .challenged challenge ∉ Session.nextEffects next := by
        simp [mem_nextEffects]
      rcases hperforms.challenge_cases with ⟨hsame, hnone⟩ | ⟨rfl, challenge, hset, rfl⟩
      · refine Or.inl ⟨hsame, fun challenge hmem => ?_⟩
        rcases List.mem_append.mp hmem with hown | hlater
        · exact hnone challenge hown
        · exact hnext challenge hlater
      · have hpending := Session.pending_running hrunning List.mem_cons_self
        exact Or.inr ⟨hinv.begun hstep hrunning, (hinv.begins hpending).2.1, challenge, _, hset,
          rfl, by simpa using hnext⟩
  | finished _ => exact Or.inl ⟨rfl, by simp⟩
  | reacted _ hreacts =>
      refine Or.inl ⟨hreacts.fields.challenge, fun challenge => ?_⟩
      rcases hreacts.effects with rfl | ⟨_, rfl⟩ | ⟨_, _, _, rfl⟩ | ⟨_, _, _, _, rfl⟩ <;> simp

lemma begins_step (hinv : AuthenticationInvariant config h s)
    (hstep : SessionStep config s action s' es) : BeginsOnce (h ++ es) s' := by
  intro hpending
  have hbefore : s.Pending .beginAuthentication :=
    (hstep.pending hpending).resolve_right not_arises_beginAuthentication
  rcases hinv.begins hbefore with ⟨⟨rest, hcodes, hrest⟩, hnone, hfresh⟩
  refine ⟨?_, ?_⟩
  · rcases hstep.takes with ⟨gone, new, htakes⟩
    rcases Multiset.exists_cons_of_mem hpending with ⟨rest', hcodes'⟩
    have hbalance := htakes.balance
    rw [hcodes, hcodes', ← Multiset.singleton_add, add_assoc, add_assoc, add_right_inj] at hbalance
    refine ⟨rest', hcodes', fun hmem => ?_⟩
    have hagain : .beginAuthentication ∈ rest + new :=
      hbalance ▸ Multiset.mem_add.mpr (Or.inl hmem)
    rcases Multiset.mem_add.mp hagain with hold | hnew
    · exact hrest hold
    · exact not_arises_beginAuthentication (htakes.arises _ hnew)
  · rcases hinv.challenge_step hstep with ⟨hsame, hnew⟩ | ⟨hnot, -⟩
    · refine ⟨hsame.trans hnone, fun challenge hmem => ?_⟩
      rcases List.mem_append.mp hmem with hold | hlater
      · exact hfresh challenge hold
      · exact hnew challenge hlater
    · exact absurd hpending hnot

lemma challenged_step (hinv : AuthenticationInvariant config h s)
    (hstep : SessionStep config s action s' es) (challenge : Challenge) :
    .challenged challenge ∈ h ++ es ↔ s'.challenge = some challenge := by
  rw [List.mem_append, hinv.challenge challenge]
  rcases hinv.challenge_step hstep with ⟨hsame, hnew⟩ | ⟨-, hnone, other, rest, hset, rfl, hrest⟩
  · rw [hsame, or_iff_left (hnew challenge)]
  · rw [hnone, hset]
    constructor
    · rintro (hold | hmem)
      · cases hold
      · rcases List.mem_cons.mp hmem with heq | hlater
        · cases heq
          rfl
        · exact absurd hlater (hrest challenge)
    · intro heq
      cases heq
      exact Or.inr List.mem_cons_self

/-- The first frame that is taken for a response answers the challenge of the session. -/
lemma looksUp (hinv : AuthenticationInvariant config h s)
    (hrunning : s.running = some ⟨owner, .receiveMessage input :: stack⟩)
    (hlooks : LooksUp config s t input challenge response effects) :
    Responds config (h ++ effects) input s.now challenge response := by
  have hfresh : firstAuthentication h = none := by
    refine List.findSome?_eq_none_iff.mpr fun e he => ?_
    cases e with
    | authenticating other at_ =>
        rcases hinv.first other at_ he with hused | hstate
        · rw [hlooks.unused] at hused
          cases hused
        · exact absurd hlooks.state hstate
    | _ => rfl
  refine ⟨?_, ?_, ?_, hlooks.decoded, hlooks.named, hlooks.unexpired, ?_⟩
  · have hpending := Session.pending_running hrunning List.mem_cons_self
    exact (hinv.received input hpending).imp fun _ => List.mem_append_left _
  · simp only [firstAuthentication, List.findSome?_append] at hfresh ⊢
    rw [hfresh, hlooks.effects]
    rfl
  · exact List.mem_append_left _ ((hinv.challenge challenge).mpr hlooks.known)
  · simp [hlooks.effects]

/-- What a step looks up. -/
lemma lookup_step (hinv : AuthenticationInvariant config h s)
    (hstep : SessionStep config s action s' es) :
    ((s'.lookup = s.lookup ∨ s'.lookup = none) ∧ ∀ agentId keyId, .lookedUp agentId keyId ∉ es) ∨
      (s.challengeConsumed = false ∧ s'.challengeConsumed = true ∧
        ∃ response task input, s'.lookup = some (response, task) ∧
          Answered config (h ++ es) response ∧
          es = [.authenticating input s.now, .lookedUp response.agentId response.keyId]) := by
  cases hstep with
  | @performed owner code stack t next effects hrunning hperforms =>
      rcases hperforms.lookup with ⟨hnone, hnot⟩ |
        ⟨input, challenge, response, rfl, rfl, hlooks⟩
      · rcases @lookup_proceed _ t next owner stack with ⟨response, hnext, -⟩ | ⟨-, hsame⟩
        · exact absurd hnext (hnone response)
        · refine Or.inl ⟨Or.inl (hsame.trans hperforms.loop.lookup), fun agentId keyId hmem => ?_⟩
          rcases List.mem_append.mp hmem with hown | hnext
          · exact hnot agentId keyId hown
          · simp [mem_nextEffects] at hnext
      · refine Or.inr ⟨hlooks.unused, ?_, response, ⟨owner, stack⟩, input, rfl, ?_, ?_⟩
        · rw [sameFields_proceed.challengeConsumed, hlooks.consumed]
        · exact ⟨input, s.now, challenge, by
            simpa [Session.nextEffects] using hinv.looksUp hrunning hlooks⟩
        · simp [Session.nextEffects, hlooks.effects]
  | finished _ => exact Or.inl ⟨Or.inl rfl, by simp⟩
  | reacted _ hreacts =>
      refine Or.inl ⟨hreacts.lookup.1, fun agentId keyId => ?_⟩
      rcases hreacts.effects with rfl | ⟨_, rfl⟩ | ⟨_, _, _, rfl⟩ | ⟨_, _, _, _, rfl⟩ <;> simp

/-- The store answers a lookup, and only once. -/
lemma found_of_step (hstep : SessionStep config s action s' es)
    {answer : Option AgentCredentialRecord} (hmem : .found answer ∈ es) :
    s.lookup.isSome = true ∧ s'.lookup = none ∧ es = [.found answer] := by
  cases hstep with
  | performed hrunning hperforms =>
      rcases List.mem_append.mp hmem with hown | hnext
      · cases hperforms.own _ hown
      · simp [mem_nextEffects] at hnext
  | finished _ => cases hmem
  | reacted _ hreacts =>
      rcases hreacts.lookup.2 answer hmem with ⟨hwaited, hnone⟩
      refine ⟨hwaited, hnone, ?_⟩
      rcases hreacts.effects with rfl | ⟨_, rfl⟩ | ⟨_, _, _, rfl⟩ | ⟨_, _, _, _, rfl⟩ <;> simp_all

/-- The challenge is not restored, and the session does not authenticate again. -/
lemma consumed_step (hstep : SessionStep config s action s' es) :
    (s.challengeConsumed = true → s'.challengeConsumed = true) ∧
      (s.state ≠ .authenticating → s'.state ≠ .authenticating) ∧
      ∀ input at_, .authenticating input at_ ∈ es →
        s'.challengeConsumed = true ∨ s'.state ≠ .authenticating := by
  cases hstep with
  | performed hrunning hperforms =>
      rw [sameFields_proceed.challengeConsumed, sameFields_proceed.state]
      rcases hperforms.consumed with ⟨hconsumed, hstate, hnew⟩
      refine ⟨hconsumed, hstate, fun input at_ hmem => ?_⟩
      rcases List.mem_append.mp hmem with hown | hnext
      · exact hnew input at_ hown
      · simp [mem_nextEffects] at hnext
  | finished _ => exact ⟨id, id, by simp⟩
  | reacted _ hreacts =>
      rw [hreacts.fields.challengeConsumed, hreacts.fields.state]
      refine ⟨id, id, fun input at_ hmem => ?_⟩
      rcases hreacts.effects with rfl | ⟨_, rfl⟩ | ⟨_, _, _, rfl⟩ | ⟨_, _, _, _, rfl⟩ <;>
        simp at hmem

/-- An agent is recognized by the credential that was found for its response. -/
lemma identifies (hinv : AuthenticationInvariant config h s)
    (hrunning : s.running = some ⟨owner, .credentialFound response (some credential) :: stack⟩)
    (hidentifies : Identifies config s challenge response credential effects) :
    Recognized config (h ++ effects) ∧ .found (some credential) ∈ h := by
  rcases hinv.answered response (some credential)
    (Session.pending_running hrunning List.mem_cons_self) with
    ⟨⟨input, at_, known, hresponds⟩, hfound⟩
  obtain rfl : known = challenge := by
    have hknown := (hinv.challenge known).mp hresponds.challenged
    rw [hidentifies.known] at hknown
    exact (Option.some.inj hknown).symm
  refine ⟨⟨input, at_, known, response, credential, hresponds.mono,
    List.mem_append_left _ hfound, hidentifies.unrevoked, hidentifies.verified, ?_⟩, hfound⟩
  simp [hidentifies.effects]

/-- What a step recognizes. -/
lemma identified_of_step (hinv : AuthenticationInvariant config h s)
    (hstep : SessionStep config s action s' es) {agentId : String}
    (hmem : .identified agentId ∈ es) :
    ∃ credential, .found (some credential) ∈ h ∧ agentId = credential.agentId := by
  cases hstep with
  | performed hrunning hperforms =>
      rcases List.mem_append.mp hmem with hown | hnext
      · rcases hperforms.identifies with ⟨-, hnot⟩ |
          ⟨challenge, response, credential, rfl, hidentifies⟩
        · exact absurd hown (hnot agentId)
        · rw [hidentifies.effects, List.mem_singleton] at hown
          cases hown
          exact ⟨credential, (hinv.identifies hrunning hidentifies).2, rfl⟩
      · simp [mem_nextEffects] at hnext
  | finished _ => cases hmem
  | reacted _ hreacts =>
      rcases hreacts.effects with rfl | ⟨_, rfl⟩ | ⟨_, _, _, rfl⟩ | ⟨_, _, _, _, rfl⟩ <;>
        simp at hmem

lemma answered_step (hinv : AuthenticationInvariant config h s)
    (hstep : SessionStep config s action s' es) (answer : Option AgentCredentialRecord)
    (hpending : s'.Pending (.credentialFound response answer)) :
    Answered config (h ++ es) response ∧ .found answer ∈ h ++ es := by
  generalize hcode : (Code.credentialFound response answer : Code Input) = code at hpending
  rcases hstep.pending hpending with hold | harises
  · rcases hinv.answered response answer (hcode ▸ hold) with ⟨hanswered, hfound⟩
    exact ⟨hanswered.mono, List.mem_append_left _ hfound⟩
  · cases harises with
    | answered hlookup hes =>
        cases hcode
        exact ⟨(hinv.lookup _ _ hlookup).mono,
          List.mem_append_right _ (hes ▸ List.mem_singleton_self _)⟩
    | instructed _ hperforms _ hmem =>
        cases hperforms.adds hmem with
        | farewell hlast => cases hlast <;> cases hcode
        | _ => cases hcode
    | _ => cases hcode

lemma written_step (hinv : AuthenticationInvariant config h s)
    (hstep : SessionStep config s action s' es) (write : Write Input)
    (hmem : write ∈ s'.outbound ++ s'.handed) (hpurpose : write.purpose = .accepted) :
    Recognized config (h ++ es) := by
  rcases List.mem_append.mp hmem with hwaits | hhanded
  · rcases hstep.outbound hwaits with hold | ⟨_, _, _, _, effects, _, hrunning, hperforms, rfl⟩
    · exact (hinv.written write (List.mem_append_left _ hold) hpurpose).mono
    · rw [hpurpose] at hperforms
      rcases hperforms.identifies with ⟨hnone, -⟩ |
        ⟨challenge, response, credential, rfl, hidentifies⟩
      · exact absurd rfl (hnone _ _)
      · rw [← List.append_assoc]
        exact (hinv.identifies hrunning hidentifies).1.mono
  · rcases hstep.handed hhanded with hold | ⟨hold, -⟩
    · exact (hinv.written write (List.mem_append_right _ hold) hpurpose).mono
    · exact (hinv.written write (List.mem_append_left _ hold) hpurpose).mono

lemma accepted_step (hinv : AuthenticationInvariant config h s)
    (hstep : SessionStep config s action s' es) (hpending : s'.Pending (.written .accepted .ok)) :
    Recognized config (h ++ es) := by
  generalize hcode : (Code.written .accepted .ok : Code Input) = code at hpending
  refine Recognized.mono ?_
  rcases hstep.pending hpending with hold | harises
  · exact hinv.accepted (hcode ▸ hold)
  · cases harises with
    | @resumed write result hsettled =>
        rcases Code.written.inj hcode with ⟨hpurpose, -⟩
        have hhanded : write ∈ s.handed :=
          List.mem_append_right _ (List.mem_map_of_mem (f := Prod.fst) hsettled)
        exact hinv.written write (List.mem_append_right _ hhanded) hpurpose.symm
    | instructed _ hperforms _ hmem =>
        cases hperforms.adds hmem with
        | farewell hlast => cases hlast <;> cases hcode
        | _ => cases hcode
    | _ => cases hcode

/-- The store is asked once, so it answers once. -/
lemma found_unique (hinv : AuthenticationInvariant config h s)
    {answer other : Option AgentCredentialRecord} (hanswer : .found answer ∈ h)
    (hother : .found other ∈ h) : answer = other := by
  let isFound : Effect Input → Prop := fun e => ∃ answer, e = .found answer
  have hlaw : ∀ past e, AuthenticationLaw config past e → isFound e → ∀ x ∈ past, ¬ isFound x := by
    rintro past e hlaw ⟨answer, rfl⟩ x hx ⟨earlier, rfl⟩
    exact hlaw earlier hx
  cases hinv.law.unique hlaw hanswer hother ⟨answer, rfl⟩ ⟨other, rfl⟩
  rfl

/-- What the law says of the handshake. -/
lemma handshaking (hinv : AuthenticationInvariant config h s)
    (hrunning : s.running = some ⟨owner, .written .accepted .ok :: stack⟩) :
    AuthenticationLaw config h (.entered .handshaking) := by
  rcases hinv.accepted (Session.pending_running hrunning List.mem_cons_self) with
    ⟨input, at_, challenge, response, credential, hrecognizes⟩
  refine ⟨input, at_, challenge, response, credential, hrecognizes, fun other hmem => ?_,
    fun agentId hmem => ?_⟩
  · have hknown := (hinv.challenge challenge).mp hrecognizes.challenged
    rw [(hinv.challenge other).mp hmem] at hknown
    exact Option.some.inj hknown
  · rcases hinv.identified agentId hmem with ⟨found, hfound, rfl⟩
    cases hinv.found_unique hfound hrecognizes.found
    rfl

lemma law_step (hinv : AuthenticationInvariant config h s)
    (hstep : SessionStep config s action s' es) :
    EachAfter (AuthenticationLaw config) (h ++ es) := by
  refine eachAfter_append.mpr ⟨hinv.law, fun past e rest heq => ?_⟩
  show AuthenticationLaw config (h ++ past) e
  have hmem : e ∈ es := by simp [heq]
  cases e with
  | entered state =>
      cases state with
      | handshaking =>
          cases hstep with
          | @performed owner code stack t next effects hrunning hperforms =>
              rcases List.mem_append.mp hmem with hown | hnext
              · rcases hperforms.handshaking hown with ⟨rfl, rfl⟩
                -- nothing else is shown before
                cases past with
                | nil =>
                    rw [List.append_nil]
                    exact hinv.handshaking hrunning
                | cons first past =>
                    simp only [List.cons_append, List.nil_append, List.cons.injEq] at heq
                    have hagain : (.entered .handshaking : Effect Input) ∈
                        Session.nextEffects next := by simp [heq.2]
                    simp at hagain
              · simp at hnext
          | finished _ => cases hmem
          | reacted _ hreacts =>
              rcases hreacts.effects with rfl | ⟨_, rfl⟩ | ⟨_, _, _, rfl⟩ | ⟨_, _, _, _, rfl⟩ <;>
                simp at hmem
      | _ => trivial
  | lookedUp agentId keyId =>
      intro other otherKey hearlier
      rcases hinv.lookup_step hstep with ⟨-, hnone⟩ | ⟨hunused, -, _, _, _, -, -, rfl⟩
      · exact hnone agentId keyId hmem
      · rcases List.mem_append.mp hearlier with hold | hnew
        · rw [hinv.consumed other otherKey hold] at hunused
          cases hunused
        · rcases past with _ | ⟨first, _ | ⟨second, past⟩⟩
          · cases hnew
          · simp only [List.cons_append, List.cons.injEq] at heq
            simp [← heq.1] at hnew
          · simp at heq
  | found answer =>
      rcases found_of_step hstep hmem with ⟨hwaited, -, rfl⟩
      intro other hearlier
      cases past with
      | nil =>
          rw [List.append_nil] at hearlier
          rw [(hinv.found other hearlier).2] at hwaited
          cases hwaited
      | cons first past => simp at heq
  | _ => trivial

/-- **One step keeps the invariant.** -/
lemma step (hinv : AuthenticationInvariant config h s)
    (hstep : SessionStep config s action s' es) : AuthenticationInvariant config (h ++ es) s' where
  received := hinv.received_step hstep
  begins := hinv.begins_step hstep
  challenge := hinv.challenged_step hstep
  first input at_ hmem := by
    rcases consumed_step hstep with ⟨hconsumed, hstate, hnew⟩
    rcases List.mem_append.mp hmem with hold | hlater
    · exact (hinv.first input at_ hold).imp hconsumed hstate
    · exact hnew input at_ hlater
  consumed agentId keyId hmem := by
    rcases List.mem_append.mp hmem with hold | hlater
    · exact (consumed_step hstep).1 (hinv.consumed agentId keyId hold)
    · rcases hinv.lookup_step hstep with ⟨-, hnone⟩ | ⟨-, hconsumed, -⟩
      · exact absurd hlater (hnone agentId keyId)
      · exact hconsumed
  lookup response task hlookup := by
    rcases hinv.lookup_step hstep with ⟨hsame | hnone, -⟩ | ⟨-, -, _, _, _, hset, hanswered, -⟩
    · exact (hinv.lookup response task (hsame ▸ hlookup)).mono
    · rw [hnone] at hlookup
      cases hlookup
    · rw [hset] at hlookup
      cases hlookup
      exact hanswered
  found answer hmem := by
    rcases List.mem_append.mp hmem with hold | hlater
    · rcases hinv.found answer hold with ⟨hused, hnone⟩
      refine ⟨(consumed_step hstep).1 hused, ?_⟩
      rcases hinv.lookup_step hstep with ⟨hsame | hcleared, -⟩ | ⟨hunused, -⟩
      · rw [hsame, hnone]
      · exact hcleared
      · rw [hused] at hunused
        cases hunused
    · rcases found_of_step hstep hlater with ⟨hwaited, hcleared, -⟩
      rcases Option.isSome_iff_exists.mp hwaited with ⟨⟨response, task⟩, hlookup⟩
      rcases hinv.lookup response task hlookup with ⟨_, _, _, hresponds⟩
      exact ⟨(consumed_step hstep).1 (hinv.consumed _ _ hresponds.lookedUp), hcleared⟩
  answered response answer := hinv.answered_step hstep answer
  identified agentId hmem := by
    rcases List.mem_append.mp hmem with hold | hlater
    · exact (hinv.identified agentId hold).imp fun _ h => ⟨List.mem_append_left _ h.1, h.2⟩
    · exact (hinv.identified_of_step hstep hlater).imp fun _ h =>
        ⟨List.mem_append_left _ h.1, h.2⟩
  written := hinv.written_step hstep
  accepted := hinv.accepted_step hstep
  law := hinv.law_step hstep

end AuthenticationInvariant

lemma authenticationInvariant_of_runs
    {ok : StepCondition (Session Input) (Action Input) (Effect Input)}
    (hrun : (sessionSystem config).Runs ok (.initial config) h s) :
    AuthenticationInvariant config h s :=
  hrun.invariant .initial fun _ _ _ _ _ _ hinv _ hstep => hinv.step (step_cases hstep)

/-! ## Nothing before the hello -/

/-- Callbacks that come before the hello are early ones. -/
def EarlyOrGreeted (h : List (Effect Input)) (event : HostEvent) : Prop :=
  event.isEarly = true ∨ HelloSent h

lemma EarlyOrGreeted.mono {event : HostEvent} (hearly : EarlyOrGreeted h event) :
    EarlyOrGreeted (h ++ es) event := hearly.imp_right HelloSent.mono

/-- The report that an early callback failed is early. -/
lemma EarlyOrGreeted.reported {event : HostEvent} (hearly : EarlyOrGreeted h event)
    (hname : event.name ≠ .onCallbackError) : EarlyOrGreeted h (.callbackError event.name) := by
  refine hearly.imp_left fun hevent => ?_
  cases event <;> simp_all [HostEvent.isEarly, HostEvent.isEnding, HostEvent.name]

/-- **What carries the law of callbacks** through a run. -/
structure EventInvariant (h : List (Effect Input)) (s : Session Input) : Prop where
  callbacks : ∀ event task, (event, task) ∈ s.callbacks → EarlyOrGreeted h event
  invoked : ∀ event, s.Pending (.invoke event) → EarlyOrGreeted h event
  routed : ∀ message, s.Pending (.routeMessage message) → HelloSent h
  law : EachAfter (HelloFirst HostEvent.isEarly) h

lemma EventInvariant.initial : EventInvariant [] (Session.initial config) where
  callbacks := by simp [Session.initial]
  invoked event hpending := by cases Session.pending_initial.mp hpending
  routed message hpending := by cases Session.pending_initial.mp hpending
  law := eachAfter_nil _

/-- **The callbacks an instruction invokes.** -/
inductive Invokes : Code Input → HostEvent → Prop
  | invoked {event} : Invokes (.invoke event) event
  | routed {message event} : Invokes (.routeMessage message) event
  | connected {hello selected event} : Invokes (.written (.hello hello selected) .ok) event
  | finalized {reason detail agent} :
      Invokes (.finalize reason detail) (.agentDisconnected agent reason detail)

lemma Notifies.callback {event other : HostEvent} {codes others : List (Code Input)}
    (hnotifies : Notifies event codes (.callback other others)) : other = event := by
  cases hnotifies
  rfl

lemma Performs.invokes_of {event : HostEvent} {codes : List (Code Input)}
    (hperforms : Performs config s code t (.callback event codes) effects) :
    Invokes code event := by
  cases hperforms with
  | began hoffers | identified _ _ _ hoffers | offersHello _ _ _ hoffers
  | offersHeartbeat _ hoffers | offersMessage _ _ hoffers => cases hoffers
  | rejected _ _ hconcludes | bidsFarewell _ _ _ _ hconcludes => cases hconcludes
  | routed => exact .routed
  | invokes hnotifies => exact hnotifies.callback ▸ .invoked
  | connected => exact .connected
  | finalized _ hnext =>
      rcases hnext with hnone | ⟨agent, -, hnotifies⟩
      · cases hnone
      · exact hnotifies.callback ▸ .finalized

lemma callbacks_throw : (s.throw owner).callbacks = s.callbacks := by
  cases owner <;> rfl

/-- A callback that runs after a step ran before it, or an instruction has just invoked it. -/
lemma SessionStep.callbacks (hstep : SessionStep config s action s' es) {event : HostEvent}
    {task : Task Input} (hmem : (event, task) ∈ s'.callbacks) :
    (event, task) ∈ s.callbacks ∨ .invoked event ∈ es := by
  cases hstep with
  | @performed owner code stack t next effects hrunning hperforms =>
      have hloop := hperforms.loop.callbacks
      cases next with
      | callback other codes =>
          simp only [Session.proceed, List.mem_append, List.mem_singleton, hloop] at hmem
          rcases hmem with hold | heq
          · exact Or.inl hold
          · cases heq
            exact Or.inr (List.mem_append_right _ List.mem_cons_self)
      | fail =>
          refine Or.inl (hloop ▸ ?_)
          cases owner <;> exact hmem
      | _ => exact Or.inl (hloop ▸ hmem)
  | finished _ => exact Or.inl hmem
  | reacted _ hreacts =>
      refine Or.inl ?_
      cases hreacts with
      | callbackReturns | callbackFails => exact List.eraseIdx_subset hmem
      | lookupFails =>
          rw [callbacks_throw] at hmem
          exact hmem
      | _ => exact hmem

/-- A callback is invoked by an instruction. -/
lemma SessionStep.invoked (hstep : SessionStep config s action s' es) {event : HostEvent}
    (hmem : .invoked event ∈ es) : ∃ owner code stack,
      s.running = some ⟨owner, code :: stack⟩ ∧ Invokes code event := by
  cases hstep with
  | performed hrunning hperforms =>
      rcases List.mem_append.mp hmem with hown | hnext
      · cases hperforms.own _ hown
      · rcases mem_nextEffects.mp hnext with ⟨_, _, _, -, heq⟩ | ⟨_, codes, rfl, heq⟩
        · cases heq
        · cases heq
          exact ⟨_, _, _, hrunning, hperforms.invokes_of⟩
  | finished _ => cases hmem
  | reacted _ hreacts =>
      rcases hreacts.effects with rfl | ⟨_, rfl⟩ | ⟨_, _, _, rfl⟩ | ⟨_, _, _, _, rfl⟩ <;>
        simp at hmem

namespace EventInvariant

/-- What is invoked before the hello is early. -/
lemma early (hinv : EventInvariant h s) (hgreeting : GreetingInvariant h s) {event : HostEvent}
    (hrunning : s.running = some ⟨owner, code :: stack⟩) (hinvokes : Invokes code event) :
    EarlyOrGreeted h event := by
  have hpending := Session.pending_running hrunning List.mem_cons_self
  cases hinvokes with
  | invoked => exact hinv.invoked event hpending
  | routed => exact Or.inr (hinv.routed _ hpending)
  | connected => exact Or.inr (hgreeting.pending _ _ hpending)
  | finalized => exact Or.inl rfl

lemma invoked_step (hinv : EventInvariant h s) (hgreeting : GreetingInvariant h s)
    (hstep : SessionStep config s action s' es) (event : HostEvent)
    (hpending : s'.Pending (.invoke event)) : EarlyOrGreeted (h ++ es) event := by
  generalize hcode : (Code.invoke event : Code Input) = code at hpending
  refine EarlyOrGreeted.mono ?_
  rcases hstep.pending hpending with hold | harises
  · exact hinv.invoked event (hcode ▸ hold)
  · cases harises with
    | reported hcallback hname =>
        cases hcode
        exact (hinv.callbacks _ _ hcallback).reported hname
    | instructed _ hperforms _ hmem =>
        cases hperforms.adds hmem with
        | farewell hlast =>
            cases hlast with
            | expired agent at_ hstate =>
                cases hcode
                exact Or.inr (hgreeting.connected hstate)
            | violated =>
                cases hcode
                exact Or.inl rfl
            | disconnected => cases hcode
        | _ => cases hcode
    | _ => cases hcode

lemma routed_step (hinv : EventInvariant h s) (hgreeting : GreetingInvariant h s)
    (hstep : SessionStep config s action s' es) (message : AgentMessage)
    (hpending : s'.Pending (.routeMessage message)) : HelloSent (h ++ es) := by
  generalize hcode : (Code.routeMessage message : Code Input) = code at hpending
  refine HelloSent.mono ?_
  rcases hstep.pending hpending with hold | harises
  · exact hinv.routed message (hcode ▸ hold)
  · cases harises with
    | instructed _ hperforms _ hmem =>
        cases hperforms.adds hmem with
        | message hstate _ => exact hgreeting.connected hstate
        | farewell hlast => cases hlast <;> cases hcode
        | _ => cases hcode
    | _ => cases hcode

lemma law_step (hinv : EventInvariant h s) (hqueue : QueueInvariant h s)
    (hgreeting : GreetingInvariant h s) (hstep : SessionStep config s action s' es) :
    EachAfter (HelloFirst HostEvent.isEarly) (h ++ es) := by
  refine eachAfter_append.mpr ⟨hinv.law, eachAfter_of_forall fun past e hmem => ?_⟩
  cases e with
  | invoked event =>
      rcases hstep.invoked hmem with ⟨owner, code, stack, hrunning, hinvokes⟩
      exact (hinv.early hgreeting hrunning hinvokes).mono
  | sent frame at_ =>
      intro happlication
      -- a frame that is sent was enqueued before
      have henqueued : frame ∈ enqueuedFrames h := by
        rw [← hqueue]
        cases hstep with
        | performed _ hperforms =>
            have hnone := (hperforms.frames .call []).1
            exact absurd (hnone ▸ mem_sentFrames.mpr ⟨at_, hmem⟩) List.not_mem_nil
        | finished _ => cases hmem
        | reacted _ hreacts =>
            refine List.mem_append_right _ ?_
            rw [hreacts.frames.2]
            exact List.mem_append_left _ (mem_sentFrames.mpr ⟨at_, hmem⟩)
      exact (hgreeting.application frame henqueued happlication).mono
  | _ => trivial

/-- **One step keeps the invariant.** -/
lemma step (hinv : EventInvariant h s) (hqueue : QueueInvariant h s)
    (hgreeting : GreetingInvariant h s) (hstep : SessionStep config s action s' es) :
    EventInvariant (h ++ es) s' where
  callbacks event task hmem := by
    refine EarlyOrGreeted.mono ?_
    rcases hstep.callbacks hmem with hold | hnew
    · exact hinv.callbacks event task hold
    · rcases hstep.invoked hnew with ⟨owner, code, stack, hrunning, hinvokes⟩
      exact hinv.early hgreeting hrunning hinvokes
  invoked := hinv.invoked_step hgreeting hstep
  routed := hinv.routed_step hgreeting hstep
  law := hinv.law_step hqueue hgreeting hstep

end EventInvariant

/-- **Who a session talks to.**  In every run: the handshake begins only with an agent that was
recognized by its answer to the challenge of the session, a credential is looked up at most once,
and before `server.hello` the host is told of nothing but the end of the connection, protocol
errors and reports of these that failed, and no frame of the host application is sent. -/
theorem authentication_sound (hrun : (sessionSystem config).Runs anyStep (.initial config) h s) :
    EachAfter (AuthenticationLaw config) h ∧ EachAfter (HelloFirst HostEvent.isEarly) h := by
  refine ⟨(authenticationInvariant_of_runs hrun).law, ?_⟩
  have hinv : EventInvariant h s := by
    refine hrun.invariant .initial fun h s action s' es hreached hinv _ hstep => ?_
    exact hinv.step (queueInvariant_of_runs hreached) (greetingInvariant_of_runs hreached)
      (step_cases hstep)
  exact hinv.law

end

namespace Sample

/-- The agent does not say hello in time, and the report of the protocol error fails. -/
def neverGreeted : List (Action Wire) :=
  authenticated ++ written 2 ++ [.elapse Sample.config.handshakeTimeoutMs, .handshakeTimer, .process] ++
    List.replicate 2 .advance ++ [.settleClose 0] ++ List.replicate 2 .advance ++
    [.settleCallback 0 false, .advance]

end Sample

/-- An agent is recognized, connected and told of. -/
theorem authentication_sound_connected :
    let r := (sessionSystem Sample.config).run (fun _ _ _ => true) (.initial Sample.config)
      Sample.connected
    (r.2.state = .connected ∧ .entered .handshaking ∈ r.1) ∧
      EachAfter (AuthenticationLaw Sample.config) r.1 ∧
      EachAfter (HelloFirst HostEvent.isEarly) r.1 :=
  ⟨by decide +kernel, authentication_sound (System.runs_run (fun _ _ _ _ => trivial) _)⟩

/-- **The report that a callback failed may come before the hello**, and is neither about the end
of the connection nor about a protocol error. -/
theorem callbackError_before_hello :
    ¬ ∀ (config : SessionConfig Sample.Wire) (h : List (Effect Sample.Wire))
      (s : Session Sample.Wire), (sessionSystem config).Runs anyStep (.initial config) h s →
        EachAfter (AuthenticationLaw config) h ∧ EachAfter (HelloFirst HostEvent.isEnding) h := by
  intro hall
  let r := (sessionSystem Sample.config).run (fun _ _ _ => true) (.initial Sample.config)
    Sample.neverGreeted
  have hlaw := (hall Sample.config r.1 r.2 (System.runs_run (fun _ _ _ _ => trivial) _)).2
  have hlast : r.1 = r.1.dropLast ++ [.invoked (.callbackError .onProtocolError)] := by
    decide +kernel
  have hnone : ∀ frame ∈ sentFrames r.1.dropLast, frame.isHello = false := by decide +kernel
  rcases hlaw _ _ [] hlast with hevent | ⟨frame, hmem, hhello⟩
  · cases hevent
  · rw [hnone frame hmem] at hhello
    cases hhello

end Oppa.Server
