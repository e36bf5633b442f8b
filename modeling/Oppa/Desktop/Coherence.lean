import Oppa.Desktop.Attempts

/-!
# The cells of a pairing agree

Pairing, forgetting a server and changing the configuration each write several cells, while the
supervisor goes on with what it does without the lock.

* `Usable`, `Emptied` — a pairing that can be used, and none at all; `PairingCoherent` — one of the two.
* `Spares` — what a task without the lock leaves alone.
* `View`, `View.after` — what an operation knows of the cells while it holds the lock, and what it
  knows after a command.
* `ForgetsCleanly` — the condition on the environment: an operation that finds a pairing and forgets
  it can delete the key and clear the stored connection.
* **`keeps_command`** — the rule for a command; the rules for what an operation asks follow it.
-/

namespace Oppa.Desktop

open Foundation History Script

/-! ## Coherence -/

/-- The lifecycle of an agent that is paired. -/
def AgentState.isPaired : AgentState → Bool
  | disconnected | connecting | connected | degraded => true
  | _ => false

/-- The pairing can be used: the cells tell of one agent and of the configured server, and the key
and the stored connection are there. -/
structure Usable (connection : OpenPrinterConnection) (service : DesktopService) : Prop where
  present : service.connection = some connection
  agentId : service.agentId = some connection.agentId
  documentIdentity : service.documentIdentity = some connection.identity
  serverUrl : connection.serverUrl = service.serverUrl
  credential : connection.credentialRef ∈ service.credentials
  stored : service.storedConnection = some connection
  state : service.state.isPaired = true

/-- There is no pairing, and a server can be paired. -/
structure Emptied (service : DesktopService) : Prop where
  absent : service.connection = none
  agentId : service.agentId = none
  documentIdentity : service.documentIdentity = none
  state : service.state = .unconfigured

/-- The cells of the pairing agree. -/
def PairingCoherent (service : DesktopService) : Prop :=
  match service.connection with
  | some connection => Usable connection service
  | none => Emptied service

variable {service s t u : DesktopService} {connection : OpenPrinterConnection}

lemma PairingCoherent.usable (hcoherent : PairingCoherent service) (hpaired : service.connection = some connection) :
    Usable connection service := by
  simpa only [PairingCoherent, hpaired] using hcoherent

lemma PairingCoherent.emptied (hcoherent : PairingCoherent service) (hunpaired : service.connection = none) :
    Emptied service := by
  simpa only [PairingCoherent, hunpaired] using hcoherent

lemma Usable.isCoherent (husable : Usable connection service) : PairingCoherent service := by
  simpa only [PairingCoherent, husable.present] using husable

lemma Emptied.isCoherent (hemptied : Emptied service) : PairingCoherent service := by
  simpa only [PairingCoherent, hemptied.absent] using hemptied

/-- Without a pairing the lifecycle lets a server be paired. -/
lemma PairingCoherent.can_pair (hcoherent : PairingCoherent service) (hunpaired : service.connection = none) :
    canTransition service.state .pairing = true := by
  rw [(hcoherent.emptied hunpaired).state]
  rfl

/-- The service starts coherent. -/
lemma coherent_initialized (startup : Startup) : PairingCoherent startup.initialized := by
  cases hconnection : startup.connection with
  | none =>
      refine Emptied.isCoherent ⟨hconnection, ?_, ?_, ?_⟩ <;>
        simp [Startup.initialized, hconnection]
  | some connection =>
      obtain ⟨hstored, hkept⟩ := Option.filter_eq_some_iff.mp hconnection
      simp only [Bool.decide_and, Bool.and_eq_true, decide_eq_true_eq] at hkept
      have husable : Usable connection startup.initialized := by
        refine ⟨hconnection, ?_, ?_, hkept.1, hkept.2.2, hstored, ?_⟩ <;>
          simp [Startup.initialized, hconnection, AgentState.isPaired]
      exact husable.isCoherent

/-! ## What a task without the lock leaves alone -/

/-- The state moves to disconnected at most, and the cells of the pairing do not change. -/
structure Spares (before after : DesktopService) : Prop where
  connection : after.connection = before.connection
  agentId : after.agentId = before.agentId
  documentIdentity : after.documentIdentity = before.documentIdentity
  serverUrl : after.serverUrl = before.serverUrl
  credentials : after.credentials = before.credentials
  stored : after.storedConnection = before.storedConnection
  generation : after.providerGeneration = before.providerGeneration
  state : after.state = before.state ∨
    after.state = .disconnected ∧ canTransition before.state .disconnected = true

lemma Spares.refl (s : DesktopService) : Spares s s := ⟨rfl, rfl, rfl, rfl, rfl, rfl, rfl, .inl rfl⟩

lemma Spares.trans (hst : Spares s t) (htu : Spares t u) : Spares s u where
  connection := htu.connection.trans hst.connection
  agentId := htu.agentId.trans hst.agentId
  documentIdentity := htu.documentIdentity.trans hst.documentIdentity
  serverUrl := htu.serverUrl.trans hst.serverUrl
  credentials := htu.credentials.trans hst.credentials
  stored := htu.stored.trans hst.stored
  generation := htu.generation.trans hst.generation
  state := by
    rcases htu.state with hsame | ⟨hdisconnected, hcan⟩
    · rw [hsame]
      exact hst.state
    · rcases hst.state with hsame | ⟨-, hcan'⟩
      · exact .inr ⟨hdisconnected, hsame ▸ hcan⟩
      · exact .inr ⟨hdisconnected, hcan'⟩

/-- A predicate that disconnecting does not end. -/
lemma Spares.state_of {P : AgentState → Prop} (hspares : Spares s t) (hstate : P s.state)
    (hdisconnect : canTransition s.state .disconnected = true → P .disconnected) : P t.state := by
  rcases hspares.state with hsame | ⟨hdisconnected, hcan⟩
  · rwa [hsame]
  · rw [hdisconnected]
    exact hdisconnect hcan

lemma Usable.spared (hspares : Spares s t) (husable : Usable connection s) :
    Usable connection t where
  present := hspares.connection.trans husable.present
  agentId := hspares.agentId.trans husable.agentId
  documentIdentity := hspares.documentIdentity.trans husable.documentIdentity
  serverUrl := husable.serverUrl.trans hspares.serverUrl.symm
  credential := hspares.credentials ▸ husable.credential
  stored := hspares.stored.trans husable.stored
  state := hspares.state_of (P := fun state => state.isPaired = true) husable.state fun _ => rfl

lemma Emptied.spared (hspares : Spares s t) (hemptied : Emptied s) : Emptied t where
  absent := hspares.connection.trans hemptied.absent
  agentId := hspares.agentId.trans hemptied.agentId
  documentIdentity := hspares.documentIdentity.trans hemptied.documentIdentity
  state := hspares.state_of (P := fun state => state = .unconfigured) hemptied.state fun hcan => by
    rw [hemptied.state] at hcan
    cases hcan

lemma PairingCoherent.spared (hspares : Spares s t) (hcoherent : PairingCoherent s) : PairingCoherent t := by
  cases hconnection : s.connection with
  | none => exact ((hcoherent.emptied hconnection).spared hspares).isCoherent
  | some connection => exact ((hcoherent.usable hconnection).spared hspares).isCoherent

/-! ## What an operation knows of the cells -/

/-- The states a state turns into while others disconnect. -/
def closure (state : AgentState) : List AgentState :=
  if canTransition state .disconnected then [state, .disconnected] else [state]

/-- Disconnecting does not lead out of the states. -/
def DisconnectClosed (states : List AgentState) : Prop := ∀ state ∈ states, closure state ⊆ states

instance (states : List AgentState) : Decidable (DisconnectClosed states) :=
  inferInstanceAs (Decidable (∀ state ∈ states, closure state ⊆ states))

/-- The states after a transition, which some states may refuse. -/
def transitioned (next : AgentState) (states : List AgentState) : List AgentState :=
  closure next ++ states.filter fun state => !canTransition state next

lemma mem_closure (state : AgentState) : state ∈ closure state := by
  unfold closure
  split <;> simp

lemma closure_closure {state next : AgentState} (hnext : next ∈ closure state) :
    closure next ⊆ closure state := by
  revert hnext
  cases state <;> cases next <;> decide

/-- A state that cannot go on to the next one turns into one that cannot either, unless that one is
reached anyway. -/
lemma refused_closure {state next later : AgentState} (hrefused : canTransition state next = false)
    (hlater : later ∈ closure state) : later ∈ closure next ∨ canTransition later next = false := by
  revert hrefused hlater
  cases state <;> cases next <;> cases later <;> decide

lemma DisconnectClosed.transitioned {states : List AgentState} (hclosed : DisconnectClosed states)
    (next : AgentState) : DisconnectClosed (transitioned next states) := by
  intro state hstate
  simp only [Desktop.transitioned, List.mem_append, List.mem_filter] at hstate
  rcases hstate with hnew | ⟨hold, hrefused⟩
  · exact List.Subset.trans (closure_closure hnew) (List.subset_append_left _ _)
  · intro later hlater
    have hmem := hclosed state hold hlater
    rcases refused_closure (by simpa using hrefused) hlater with hnew | hstill
    · exact List.mem_append_left _ hnew
    · exact List.mem_append_right _ (List.mem_filter.mpr ⟨hmem, by simpa using hstill⟩)

/-- What is known of the cells while the lock is held. -/
structure View where
  connection : Option OpenPrinterConnection
  agentId : Option String
  documentIdentity : Option DocumentIdentity
  /-- The states the lifecycle may be in. -/
  lifecycle : List AgentState
  generation : ℕ
  serverUrl : String
  /-- A key that is in the credential store. -/
  key : Option String
  /-- A connection that is stored. -/
  stored : Option OpenPrinterConnection

namespace View

/-- What is known is so. -/
structure Shows (view : View) (service : DesktopService) : Prop where
  connection : service.connection = view.connection
  agentId : service.agentId = view.agentId
  documentIdentity : service.documentIdentity = view.documentIdentity
  lifecycle : service.state ∈ view.lifecycle
  generation : service.providerGeneration = view.generation
  serverUrl : service.serverUrl = view.serverUrl
  key : ∀ credentialRef ∈ view.key, credentialRef ∈ service.credentials
  stored : ∀ connection ∈ view.stored, service.storedConnection = some connection

/-- What is known does not depend on whether others disconnect. -/
def Closed (view : View) : Prop := DisconnectClosed view.lifecycle

/-- What is known after a command. -/
def after (view : View) : Command → View
  | .setConnection connection => { view with connection := connection }
  | .setAgentId agentId => { view with agentId := agentId }
  | .setDocumentIdentity identity => { view with documentIdentity := identity }
  | .setServerUrl serverUrl => { view with serverUrl := serverUrl }
  | .transition next => { view with lifecycle := transitioned next view.lifecycle }
  | .advanceGeneration => { view with generation := view.generation + 1 }
  | .addCredential credentialRef => { view with key := some credentialRef }
  | .removeCredential credentialRef => { view with key := view.key.filter (· ≠ credentialRef) }
  | .store (.connection connection) => { view with stored := connection }
  | _ => view

variable {view : View} {command : Command}

lemma Shows.spared (hshows : view.Shows s) (hclosed : view.Closed) (hspares : Spares s t) :
    view.Shows t where
  connection := hspares.connection.trans hshows.connection
  agentId := hspares.agentId.trans hshows.agentId
  documentIdentity := hspares.documentIdentity.trans hshows.documentIdentity
  lifecycle := hspares.state_of (P := (· ∈ view.lifecycle)) hshows.lifecycle fun hcan => by
    refine hclosed s.state hshows.lifecycle ?_
    simp [closure, hcan]
  generation := hspares.generation.trans hshows.generation
  serverUrl := hspares.serverUrl.trans hshows.serverUrl
  key := fun credentialRef hkey => hspares.credentials ▸ hshows.key credentialRef hkey
  stored := fun connection hstored => hspares.stored.trans (hshows.stored connection hstored)

/-- What is known after a command stays known. -/
lemma Closed.after (hclosed : view.Closed) : (view.after command).Closed := by
  cases command with
  | transition next => exact hclosed.transitioned next
  | store setting => cases setting <;> exact hclosed
  | setConnection _ | setAgentId _ | setDocumentIdentity _ | setServerUrl _ | setConnectionState _
  | setConnectedService _ | setActiveErrors _ | advanceGeneration | addCredential _
  | removeCredential _ => exact hclosed

/-- A command that is performed. -/
lemma Shows.after (hshows : view.Shows s) (happly : command.apply s = some t) :
    (view.after command).Shows t := by
  obtain ⟨hconnection, hagent, hidentity, hlifecycle, hgeneration, hurl, hkey, hstored⟩ := hshows
  cases command with
  | transition next =>
      simp only [Command.apply] at happly
      split at happly
      · obtain rfl := Option.some.inj happly
        exact ⟨hconnection, hagent, hidentity, List.mem_append_left _ (mem_closure next),
          hgeneration, hurl, hkey, hstored⟩
      · cases happly
  | store setting =>
      cases setting with
      | connection value =>
          obtain rfl := Option.some.inj happly
          exact ⟨hconnection, hagent, hidentity, hlifecycle, hgeneration, hurl, hkey,
            fun _ hvalue => hvalue⟩
      | serverConfiguration _ | protocolNegotiation _ =>
          obtain rfl := Option.some.inj happly
          exact ⟨hconnection, hagent, hidentity, hlifecycle, hgeneration, hurl, hkey, hstored⟩
  | addCredential credentialRef =>
      obtain rfl := Option.some.inj happly
      refine ⟨hconnection, hagent, hidentity, hlifecycle, hgeneration, hurl, fun other hother => ?_,
        hstored⟩
      obtain rfl := Option.some.inj hother
      exact List.mem_cons_self
  | removeCredential credentialRef =>
      obtain rfl := Option.some.inj happly
      refine ⟨hconnection, hagent, hidentity, hlifecycle, hgeneration, hurl, fun other hother => ?_,
        hstored⟩
      obtain ⟨hknown, hother⟩ := Option.filter_eq_some_iff.mp hother
      exact List.mem_filter.mpr ⟨hkey other hknown, hother⟩
  | setConnection _ =>
      obtain rfl := Option.some.inj happly
      exact ⟨rfl, hagent, hidentity, hlifecycle, hgeneration, hurl, hkey, hstored⟩
  | setAgentId _ =>
      obtain rfl := Option.some.inj happly
      exact ⟨hconnection, rfl, hidentity, hlifecycle, hgeneration, hurl, hkey, hstored⟩
  | setDocumentIdentity _ =>
      obtain rfl := Option.some.inj happly
      exact ⟨hconnection, hagent, rfl, hlifecycle, hgeneration, hurl, hkey, hstored⟩
  | setServerUrl _ =>
      obtain rfl := Option.some.inj happly
      exact ⟨hconnection, hagent, hidentity, hlifecycle, hgeneration, rfl, hkey, hstored⟩
  | advanceGeneration =>
      obtain rfl := Option.some.inj happly
      refine ⟨hconnection, hagent, hidentity, hlifecycle, ?_, hurl, hkey, hstored⟩
      show s.providerGeneration + 1 = view.generation + 1
      rw [hgeneration]
  | setConnectionState _ | setConnectedService _ | setActiveErrors _ =>
      obtain rfl := Option.some.inj happly
      exact ⟨hconnection, hagent, hidentity, hlifecycle, hgeneration, hurl, hkey, hstored⟩

/-- A command that is refused is a transition. -/
lemma Shows.refused (hshows : view.Shows s) (happly : command.apply s = none) :
    (view.after command).Shows s := by
  cases command with
  | transition next =>
      simp only [Command.apply] at happly
      split at happly
      · cases happly
      · rename_i hrefused
        refine { hshows with lifecycle := ?_ }
        exact List.mem_append_right _ (List.mem_filter.mpr ⟨hshows.lifecycle, by simpa using hrefused⟩)
  | store setting => cases setting <;> cases happly
  | setConnection _ | setAgentId _ | setDocumentIdentity _ | setServerUrl _ | setConnectionState _
  | setConnectedService _ | setActiveErrors _ | advanceGeneration | addCredential _
  | removeCredential _ => cases happly

/-- Less can be known. -/
lemma Shows.weaken (hshows : view.Shows s) {lifecycle : List AgentState}
    (hlifecycle : view.lifecycle ⊆ lifecycle) : { view with lifecycle := lifecycle }.Shows s :=
  { hshows with lifecycle := hlifecycle hshows.lifecycle }

end View

/-! ## The rules -/

/-- An operation that finds a pairing and forgets it can delete the key and clear the stored
connection. -/
def ForgetsCleanly (since : DesktopService) : (question : Question) → question.Answer → Prop
  | .deleteCredential _, answer => since.connection.isSome → answer = .ok ()
  | .setSetting (.connection none), answer => since.connection.isSome → answer = .ok ()
  | _, _ => True

/-- What a task with the lock lives with. -/
def calm (since : DesktopService) : Script.Context DesktopService Command Question.Answer where
  apply command service := command.apply service
  rely := Spares
  rely_refl := Spares.refl
  rely_trans := Spares.trans
  may := ForgetsCleanly since

section Rules

variable {since : DesktopService} {guar : DesktopService → DesktopService → Prop}
  (hguar : ∀ s t, guar s t) {view : View}

lemma View.stable (hclosed : view.Closed) : (calm since).Stable view.Shows :=
  fun _ _ hspares hshows => hshows.spared hclosed hspares

lemma keeps_return {β : Type} {result : β} {S : β → DesktopService → Prop} (hshows : view.Shows s)
    (hclosed : view.Closed) (hresult : ∀ t, view.Shows t → S result t) :
    (Script.done result : Routine β).Keeps (calm since) guar S s :=
  keeps_done (View.stable hclosed) hshows hresult

include hguar

/-- **A command** takes what is known to what is known after it. -/
lemma keeps_command (command : Command) (hshows : view.Shows s) (hclosed : view.Closed) :
    (perform command : Routine Unit).Keeps (calm since) guar
      (fun _ t => (view.after command).Shows t) s :=
  keeps_perform (View.stable hclosed) (View.stable hclosed.after)
    (fun _ _ hbefore happly => ⟨hguar _ _, hbefore.after happly⟩)
    (fun _ hbefore happly => hbefore.refused happly) hshows

/-- A transition that is possible in every state the lifecycle may be in. -/
lemma keeps_transition {next : AgentState} (hshows : view.Shows s) (hclosed : view.Closed)
    (hcan : ∀ state ∈ view.lifecycle, canTransition state next = true) :
    (attempt (.transition next) : Routine Bool).Keeps (calm since) guar
      (fun performed t => performed = true ∧ (view.after (.transition next)).Shows t) s := by
  refine keeps_attempt (View.stable hclosed) (fun performed => ?_) (fun t u hbefore happly => ?_)
    (fun t hbefore happly => ?_) hshows
  · exact fun _ _ hspares hshows => ⟨hshows.1, hshows.2.spared hclosed.after hspares⟩
  · exact ⟨hguar _ _, rfl, hbefore.after happly⟩
  · simp only [calm, Command.apply, hcan t.state hbefore.lifecycle, if_true] at happly
    cases happly

omit hguar in
lemma keeps_put (question : Question) (hshows : view.Shows s) (hclosed : view.Closed) :
    (question.put).Keeps (calm since) guar
      (fun answer t => view.Shows t ∧ ForgetsCleanly since question answer) s :=
  keeps_inquire (View.stable hclosed) hshows

omit hguar in
lemma keeps_read (hshows : view.Shows s) (hclosed : view.Closed) :
    (get : Routine DesktopService).Keeps (calm since) guar
      (fun seen t => view.Shows seen ∧ Spares seen t) s :=
  keeps_get (View.stable hclosed) hshows

/-- A setting is written, or not. -/
lemma keeps_setSetting (setting : Setting) (hshows : view.Shows s) (hclosed : view.Closed) :
    (DesktopService.setSetting setting).Keeps (calm since) guar
      (fun result t => ForgetsCleanly since (.setSetting setting) result ∧
        match result with
        | .ok () => (view.after (.store setting)).Shows t
        | .error _ => view.Shows t) s := by
  refine keeps_bind (keeps_put (.setSetting setting) hshows hclosed) fun result t ht => ?_
  obtain ⟨hshows, hmay⟩ := ht
  match result with
  | .ok () =>
      refine keeps_bind (keeps_command hguar (.store setting) hshows hclosed) fun _ u hu => ?_
      exact keeps_return hu hclosed.after fun _ hafter => ⟨hmay, hafter⟩
  | .error text => exact keeps_return hshows hclosed fun _ hafter => ⟨hmay, hafter⟩

/-- A key is deleted, or not. -/
lemma keeps_deleteCredential (credentialRef : String) (hshows : view.Shows s)
    (hclosed : view.Closed) :
    (DesktopService.deleteCredential credentialRef).Keeps (calm since) guar
      (fun result t => ForgetsCleanly since (.deleteCredential credentialRef) result ∧
        { view with key := none }.Shows t) s := by
  have hless : ∀ {t}, view.Shows t → { view with key := none }.Shows t :=
    fun hshows => { hshows with key := by simp }
  refine keeps_bind (keeps_put (.deleteCredential credentialRef) hshows hclosed) fun result t ht => ?_
  obtain ⟨hshows, hmay⟩ := ht
  match result with
  | .ok () =>
      refine keeps_bind (keeps_command hguar (.removeCredential credentialRef) hshows hclosed)
        fun _ u hu => ?_
      exact keeps_return hu hclosed.after fun _ hafter =>
        ⟨hmay, { hafter with key := by simp }⟩
  | .error text =>
      exact keeps_return hshows hclosed fun _ hafter => ⟨hmay, hless hafter⟩

/-- A key is generated, or not. -/
lemma keeps_generateKey (serverId : String) (hshows : view.Shows s) (hclosed : view.Closed) :
    (DesktopService.generateKey serverId).Keeps (calm since) guar
      (fun result t =>
        match result with
        | .ok generated => { view with key := some generated.credentialRef }.Shows t
        | .error _ => view.Shows t) s := by
  refine keeps_bind (keeps_put (.generate serverId) hshows hclosed) fun result t ht => ?_
  match result with
  | .ok generated =>
      refine keeps_bind (keeps_command hguar (.addCredential generated.credentialRef) ht.1 hclosed)
        fun _ u hu => ?_
      exact keeps_return hu hclosed.after fun _ hafter => hafter
  | .error text => exact keeps_return ht.1 hclosed fun _ hafter => hafter

end Rules

end Oppa.Desktop
