import Oppa.Desktop.Coherence

/-!
# The pairing after every operation

Each operation has several returns, after some of its changes and before others.

* `keeps_forgetConnection`, `keeps_pairing`, `keeps_applyServerConfiguration` — what each operation
  makes of a coherent service, at each of its returns.
* `keeps_guarded` — what the supervisor does with the lock.
* `pairingContract` — both as one contract.
* **`pairing_coherent`** — in every run in which a pairing that is forgotten can be forgotten, the
  service is coherent after every operation.
* `forget_leaves_half` — a key that cannot be deleted leaves half of the pairing behind, and no
  server can be paired any more.
-/

namespace Oppa.Desktop

open Foundation History Script

section Operations

variable {since s t u : DesktopService} {guar : DesktopService → DesktopService → Prop}
  (hguar : ∀ s t, guar s t) {view : View} {connection : OpenPrinterConnection} {β : Type}

include hguar

/-! ## The parts of operations -/

omit hguar in
/-- A condition on what is read. -/
lemma keeps_choice {condition : Prop} [Decidable condition] {script other : Routine β}
    {S : β → DesktopService → Prop}
    (hscript : condition → script.Keeps (calm since) guar S s)
    (hother : ¬ condition → other.Keeps (calm since) guar S s) :
    (if condition then script else other : Routine β).Keeps (calm since) guar S s := by
  split
  · exact hscript ‹_›
  · exact hother ‹_›

/-- Every state but the last. -/
def runningStates : List AgentState :=
  [.unconfigured, .pairing, .disconnected, .connecting, .connected, .degraded]

/-- **`force_unconfigured_with_errors`** takes every lifecycle that is not over to its start. -/
lemma keeps_forceUnconfigured (errors : List String) (hshows : view.Shows s)
    (hclosed : view.Closed) (hrunning : view.lifecycle ⊆ runningStates) :
    (DesktopService.forceUnconfiguredWithErrors errors).Keeps (calm since) guar
      (fun _ t => { view with agentId := none, lifecycle := [.unconfigured] }.Shows t) s := by
  let running : View := { view with agentId := none, lifecycle := runningStates }
  have hopen : running.Closed := (by decide : DisconnectClosed runningStates)
  have hsettled : ({ running with lifecycle := [.unconfigured] } : View).Closed :=
    (by decide : DisconnectClosed [.unconfigured])
  refine keeps_bind (keeps_command hguar (.setAgentId none) hshows hclosed) fun _ t ht => ?_
  have ht : running.Shows t := ht.weaken hrunning
  refine keeps_bind (keeps_command hguar (.setConnectedService none) ht hopen) fun _ t ht => ?_
  refine keeps_bind (keeps_read ht hopen) fun current t ht => ?_
  have ht := ht.1.spared hopen ht.2
  -- the first transition may leave any state that the lifecycle can be in
  refine keeps_bind (S := fun _ t => running.Shows t) (keeps_choice (fun _ => ?_) fun _ => ?_)
    fun _ t ht => ?_
  · refine (keeps_command hguar (.transition .disconnected) ht hopen).mono fun _ t ht => ?_
    exact ht.weaken (by decide : transitioned .disconnected runningStates ⊆ runningStates)
  · exact keeps_return ht hopen fun _ hafter => hafter
  refine keeps_bind (keeps_read ht hopen) fun current t hread => ?_
  have ht := hread.1.spared hopen hread.2
  refine keeps_bind (S := fun _ t => { running with lifecycle := [.unconfigured] }.Shows t)
    (keeps_choice (fun _ => ?_) fun hstart => ?_) fun _ t ht => ?_
  · exact keeps_command hguar (.transition .unconfigured) ht hopen
  · -- a lifecycle that is at its start stays there
    have hstart : ({ running with lifecycle := [.unconfigured] } : View).Shows current :=
      { hread.1 with lifecycle := by simpa using hstart }
    exact keeps_return (hstart.spared hsettled hread.2) hsettled fun _ hafter => hafter
  · exact keeps_command hguar (.setActiveErrors errors) ht hsettled

/-- There is no pairing. -/
def View.emptied (serverUrl : String) (generation : ℕ) : View where
  connection := none
  agentId := none
  documentIdentity := none
  lifecycle := [.unconfigured]
  generation := generation
  serverUrl := serverUrl
  key := none
  stored := none

omit hguar in
/-- What a coherent service shows. -/
lemma PairingCoherent.shows (hcoherent : PairingCoherent s) : ∃ view : View, view.Shows s ∧ view.Closed ∧
    view.lifecycle ⊆ runningStates ∧
      (s.connection = none → view.agentId = none ∧ view.lifecycle = [.unconfigured]) := by
  cases hconnection : s.connection with
  | none =>
      have hemptied := hcoherent.emptied hconnection
      refine ⟨.emptied s.serverUrl s.providerGeneration, ⟨hconnection, hemptied.agentId,
        hemptied.documentIdentity, by simp [hemptied.state, View.emptied], rfl, rfl,
        by simp [View.emptied], by simp [View.emptied]⟩, ?_, ?_, fun _ => ⟨rfl, rfl⟩⟩
      · exact (by decide : DisconnectClosed [.unconfigured])
      · exact (by decide : [AgentState.unconfigured] ⊆ runningStates)
  | some connection =>
      have husable := hcoherent.usable hconnection
      let paired : List AgentState := [.disconnected, .connecting, .connected, .degraded]
      let view : View := ⟨some connection, s.agentId, s.documentIdentity, paired,
        s.providerGeneration, s.serverUrl, none, none⟩
      refine ⟨view, ⟨hconnection, rfl, rfl, ?_, rfl, rfl, by simp [view], by simp [view]⟩, ?_, ?_,
        fun hnone => by cases hnone⟩
      · have hstate := husable.state
        show s.state ∈ paired
        revert hstate
        cases s.state <;> decide
      · exact (by decide : DisconnectClosed paired)
      · exact (by decide : paired ⊆ runningStates)

omit hguar in
/-- What is left when there is nothing that could fail to be forgotten. -/
lemma View.Shows.to_emptied (hshows : view.Shows s) (hconnection : view.connection = none)
    (hagent : view.agentId = none) (hidentity : view.documentIdentity = none)
    (hlifecycle : view.lifecycle = [.unconfigured]) :
    (View.emptied view.serverUrl view.generation).Shows s where
  connection := hshows.connection.trans hconnection
  agentId := hshows.agentId.trans hagent
  documentIdentity := hshows.documentIdentity.trans hidentity
  lifecycle := by simpa only [hlifecycle, View.emptied] using hshows.lifecycle
  generation := hshows.generation
  serverUrl := hshows.serverUrl
  key := by simp [View.emptied]
  stored := by simp [View.emptied]

/-- `forget_connection`, once the key is deleted. -/
lemma keeps_clearConnection (hshows : view.Shows s) (hclosed : view.Closed)
    (hrunning : view.lifecycle ⊆ runningStates) (hconnection : view.connection = none) (hidentity : view.documentIdentity = none)
    (hunpaired : since.connection = none →
      view.agentId = none ∧ view.lifecycle = [.unconfigured]) :
    (DesktopService.clearConnection).Keeps (calm since) guar
      (fun result t => (View.emptied view.serverUrl view.generation).Shows t ∧
        ∀ e, result = .error e → since.connection = none) s := by
  refine keeps_bind (keeps_setSetting hguar (.connection none) hshows hclosed) fun result t ht => ?_
  obtain ⟨hmay, ht⟩ := ht
  match result with
  | .error text =>
      -- the setting is cleared whenever there was a pairing
      have hnone : since.connection = none := by
        by_contra hsome
        cases hmay (Option.isSome_iff_ne_none.mpr hsome)
      obtain ⟨hagent, hlifecycle⟩ := hunpaired hnone
      exact keeps_return ht hclosed fun _ hafter =>
        ⟨hafter.to_emptied hconnection hagent hidentity hlifecycle, fun _ _ => hnone⟩
  | .ok () =>
      refine keeps_bind (keeps_command hguar (.setConnectionState .unpaired) ht hclosed.after)
        fun _ t ht => ?_
      refine keeps_bind (keeps_forceUnconfigured hguar [] ht hclosed.after.after hrunning)
        fun _ t ht => ?_
      refine keeps_return ht (by decide : DisconnectClosed [.unconfigured]) fun _ hafter => ?_
      exact ⟨hafter.to_emptied hconnection rfl hidentity rfl, fun _ herror => by cases herror⟩

/-- The key of the pairing that is there can be deleted. -/
lemma keeps_deleteTaken (hshows : view.Shows s) (hclosed : view.Closed) :
    (DesktopService.deleteTaken since.connection).Keeps (calm since) guar
      (fun result t => result = .ok () ∧ { view with key := none }.Shows t) s := by
  cases hpaired : since.connection with
  | none =>
      exact keeps_return hshows hclosed fun _ hafter =>
        ⟨rfl, { hafter with key := by simp }⟩
  | some connection =>
      refine (keeps_deleteCredential hguar connection.credentialRef hshows hclosed).mono
        fun result t ht => ?_
      exact ⟨ht.1 (by simp [hpaired]), ht.2⟩

/-- **`forget_connection`** leaves no pairing; it fails only when there was none. -/
lemma keeps_forgetConnection (hcoherent : PairingCoherent s) (hsince : since.connection = s.connection) :
    (DesktopService.forgetConnection).Keeps (calm since) guar
      (fun result t => (View.emptied s.serverUrl s.providerGeneration).Shows t ∧
        ∀ e, result = .error e → since.connection = none) s := by
  obtain ⟨view, hshows, hclosed, hrunning, hunpaired⟩ := hcoherent.shows
  rw [← hsince] at hunpaired
  rw [hshows.serverUrl, hshows.generation]
  refine keeps_bind (keeps_command hguar (.setDocumentIdentity none) hshows hclosed)
    fun _ t ht => ?_
  refine keeps_bind (keeps_read ht hclosed.after) fun taken t ht => ?_
  have htaken : taken.connection = since.connection :=
    ht.1.connection.trans (hshows.connection.symm.trans hsince.symm)
  have ht := ht.1.spared hclosed.after ht.2
  refine keeps_bind (keeps_command hguar (.setConnection none) ht hclosed.after) fun _ t ht => ?_
  rw [htaken]
  refine keeps_bind (keeps_deleteTaken hguar ht hclosed) fun result t ht => ?_
  obtain ⟨rfl, ht⟩ := ht
  have hcleared := keeps_clearConnection hguar ht hclosed hrunning rfl rfl hunpaired
  exact hcleared

/-! ## The operations -/

/-- What an operation leaves: no pairing, or the pairing it has found or made. -/
structure Concludes (since : DesktopService) (next : Task) (after : DesktopService) : Prop where
  coherent : PairingCoherent after
  counted : since.providerGeneration ≤ after.providerGeneration
  kept : since.providerGeneration = after.providerGeneration →
    ∀ connection, since.connection = some connection → after.connection = some connection
  returned : ∃ result, next = .returned result
  failed : ∀ e, next = .returned (.error e) →
    after.connection = since.connection ∨ after.connection = none

omit hguar in
/-- An operation that returns without a pairing, when there was none or it is counted. -/
lemma View.Shows.concludes {serverUrl : String} {generation : ℕ} {result : Except CommandError Unit}
    (hshows : (View.emptied serverUrl generation).Shows t)
    (hcounted : since.providerGeneration < generation ∨
      since.providerGeneration = generation ∧ since.connection = none) :
    Concludes since (.returned result) t where
  coherent := Emptied.isCoherent ⟨hshows.connection, hshows.agentId, hshows.documentIdentity,
    by simpa [View.emptied] using hshows.lifecycle⟩
  counted := by
    have := hshows.generation
    simp only [View.emptied] at this
    omega
  kept := by
    intro hsame connection hconnection
    have := hshows.generation
    simp only [View.emptied] at this
    rcases hcounted with hless | ⟨-, hnone⟩
    · omega
    · rw [hnone] at hconnection
      cases hconnection
  returned := ⟨result, rfl⟩
  failed := fun _ _ => .inr hshows.connection

omit hguar in
lemma View.closed_emptied (serverUrl : String) (generation : ℕ) :
    (View.emptied serverUrl generation).Closed :=
  (by decide : DisconnectClosed [.unconfigured])

/-- **`forget_server`** leaves no pairing. -/
lemma keeps_forgetServer (hcoherent : PairingCoherent since) :
    (DesktopService.forgetServer).Keeps (calm since) guar (Concludes since) since := by
  have hclosed := View.closed_emptied since.serverUrl since.providerGeneration
  refine keeps_bind (keeps_forgetConnection hguar hcoherent rfl) fun result t ht => ?_
  obtain ⟨ht, hfailed⟩ := ht
  match result with
  | .error e =>
      exact keeps_return ht hclosed fun _ hafter =>
        hafter.concludes (.inr ⟨rfl, hfailed e rfl⟩)
  | .ok () =>
      refine keeps_bind (keeps_command hguar .advanceGeneration ht hclosed) fun _ t ht => ?_
      refine keeps_bind (keeps_put (.send .configurationChanged) ht hclosed) fun _ t ht => ?_
      exact keeps_return ht.1 (View.closed_emptied _ _) fun _ hafter =>
        hafter.concludes (.inl (Nat.lt_succ_self _))

omit hguar in
/-- An operation that returns without having changed anything. -/
lemma keeps_unchanged (hcoherent : PairingCoherent since) (hsame : Spares since s)
    {result : Except CommandError Unit} :
    (Script.done (.returned result) : Routine Task).Keeps (calm since) guar (Concludes since) s := by
  intro t ht
  have hspares := hsame.trans ht
  exact
    { coherent := hcoherent.spared hspares
      counted := hspares.generation.ge
      kept := fun _ connection hconnection => hspares.connection.trans hconnection
      returned := ⟨result, rfl⟩
      failed := fun _ _ => .inl hspares.connection }

/-- **`apply_server_configuration`** leaves no pairing, unless there is nothing to change. -/
lemma keeps_applyServerConfiguration (hcoherent : PairingCoherent since) (serverUrl : String) :
    (DesktopService.applyServerConfiguration serverUrl).Keeps (calm since) guar (Concludes since)
      since := by
  intro s hs
  refine keeps_choice (fun _ => keeps_unchanged hcoherent hs) fun _ => ?_
  refine keeps_bind (keeps_forgetConnection hguar (hcoherent.spared hs) hs.connection.symm)
    fun result t ht => ?_
  have hclosed := View.closed_emptied s.serverUrl s.providerGeneration
  have hgeneration := hs.generation
  obtain ⟨ht, hfailed⟩ := ht
  match result with
  | .error e =>
      exact keeps_return ht hclosed fun _ hafter =>
        hafter.concludes (.inr ⟨hgeneration.symm, hfailed e rfl⟩)
  | .ok () =>
      have hcounted : since.providerGeneration < s.providerGeneration + 1 := by omega
      refine keeps_bind (keeps_setSetting hguar (.serverConfiguration serverUrl) ht hclosed)
        fun result t ht => ?_
      match result with
      | .error text =>
          refine keeps_bind (keeps_command hguar .advanceGeneration ht.2 hclosed) fun _ t ht => ?_
          refine keeps_bind (keeps_forceUnconfigured hguar _ ht hclosed ?_) fun _ t ht => ?_
          · exact (by decide : [AgentState.unconfigured] ⊆ runningStates)
          refine keeps_bind (keeps_put (.send .configurationChanged) ht hclosed) fun _ t ht => ?_
          exact keeps_return ht.1 (View.closed_emptied _ _) fun _ hafter =>
            hafter.concludes (.inl hcounted)
      | .ok () =>
          refine keeps_bind (keeps_command hguar (.setServerUrl serverUrl) ht.2 hclosed)
            fun _ t ht => ?_
          refine keeps_bind (keeps_command hguar .advanceGeneration ht hclosed) fun _ t ht => ?_
          refine keeps_bind (keeps_forceUnconfigured hguar _ ht hclosed ?_) fun _ t ht => ?_
          · exact (by decide : [AgentState.unconfigured] ⊆ runningStates)
          refine keeps_bind (keeps_put (.send .configurationChanged) ht hclosed)
            fun sent t ht => ?_
          refine keeps_choice (fun _ => ?_) fun _ => ?_ <;>
            exact keeps_return ht.1 (View.closed_emptied _ _) fun _ hafter =>
              hafter.concludes (.inl hcounted)

/-- A pairing is under way. -/
def View.midway (serverUrl : String) (generation : ℕ) : View :=
  { View.emptied serverUrl generation with lifecycle := [.pairing, .disconnected] }

omit hguar in
lemma pair_emptied : ∀ state ∈ [AgentState.unconfigured], canTransition state .pairing = true := by
  decide

omit hguar in
lemma disconnect_midway : ∀ state ∈ [AgentState.pairing, .disconnected],
    canTransition state .disconnected = true := by
  decide

omit hguar in
lemma closed_midway : DisconnectClosed [.pairing, .disconnected] := by decide

/-- **A pairing that is given up** leaves none. -/
lemma keeps_abandonPairing (connectionState : OpenPrinterConnectionState) (code message : String)
    (hunpaired : since.connection = none)
    (hshows : (View.midway since.serverUrl since.providerGeneration).Shows s) :
    (DesktopService.abandonPairing connectionState code message).Keeps (calm since) guar
      (Concludes since) s := by
  refine keeps_bind (keeps_command hguar (.transition .unconfigured) hshows closed_midway)
    fun _ t ht => ?_
  have ht : (View.emptied since.serverUrl since.providerGeneration).Shows t := ht
  have hclosed := View.closed_emptied since.serverUrl since.providerGeneration
  refine keeps_bind (keeps_command hguar (.setConnectionState connectionState) ht hclosed)
    fun _ t ht => ?_
  exact keeps_return ht hclosed fun _ hafter => hafter.concludes (.inr ⟨rfl, hunpaired⟩)

/-- **A connection that is saved** becomes the pairing. -/
lemma keeps_adoptConnection (hunpaired : since.connection = none)
    (hurl : connection.serverUrl = since.serverUrl)
    (hshows : ({ View.midway since.serverUrl since.providerGeneration with
      key := some connection.credentialRef
      stored := some connection } : View).Shows s) :
    (DesktopService.adoptConnection connection).Keeps (calm since) guar (Concludes since) s := by
  refine keeps_bind (keeps_command hguar (.setAgentId (some connection.agentId)) hshows
    closed_midway) fun _ t ht => ?_
  refine keeps_bind (keeps_command hguar (.setDocumentIdentity (some connection.identity)) ht
    closed_midway) fun _ t ht => ?_
  refine keeps_bind (keeps_command hguar (.setConnection (some connection)) ht closed_midway)
    fun _ t ht => ?_
  refine keeps_bind (keeps_command hguar (.setConnectionState .paired) ht closed_midway)
    fun _ t ht => ?_
  refine keeps_bind (keeps_command hguar (.setActiveErrors []) ht closed_midway) fun _ t ht => ?_
  refine keeps_bind (keeps_transition hguar ht closed_midway disconnect_midway)
    fun transitioned t ht => ?_
  obtain ⟨rfl, ht⟩ := ht
  have hclosed := closed_midway.transitioned .disconnected
  refine keeps_bind (keeps_put (.send .reconnect) ht hclosed) fun _ t ht => ?_
  refine keeps_return ht.1 hclosed fun u hafter => ?_
  have hstate : u.state = .disconnected := by
    have hlifecycle : u.state ∈ [AgentState.disconnected, .disconnected] := hafter.lifecycle
    simpa using hlifecycle
  have husable : Usable connection u :=
    { present := hafter.connection
      agentId := hafter.agentId
      documentIdentity := hafter.documentIdentity
      serverUrl := hurl.trans hafter.serverUrl.symm
      credential := hafter.key _ rfl
      stored := hafter.stored _ rfl
      state := hstate ▸ rfl }
  exact
    { coherent := husable.isCoherent
      counted := hafter.generation.ge
      kept := fun _ _ hconnection => by
        rw [hunpaired] at hconnection
        cases hconnection
      returned := ⟨_, rfl⟩
      failed := fun _ herror => by cases herror }

/-- `pair_server`, once the server is discovered. -/
lemma keeps_pairDiscovered (code agentName : String) {serverUrl : String}
    (hunpaired : since.connection = none) (hurl : serverUrl = since.serverUrl)
    (discovered : DiscoveredServer)
    (hshows : (View.midway since.serverUrl since.providerGeneration).Shows s) :
    (DesktopService.pairDiscovered code agentName serverUrl discovered).Keeps (calm since) guar
      (Concludes since) s := by
  refine keeps_bind (keeps_generateKey hguar discovered.id hshows closed_midway)
    fun result t ht => ?_
  match result with
  | .error text => exact keeps_abandonPairing hguar _ _ _ hunpaired ht
  | .ok generated =>
      refine keeps_bind (keeps_put (.pair discovered code agentName generated.publicKey) ht
        closed_midway) fun answer t ht => ?_
      obtain ⟨ht, -⟩ := ht
      match answer with
      | .error text =>
          refine keeps_bind (keeps_deleteCredential hguar generated.credentialRef ht closed_midway)
            fun _ t ht => ?_
          exact keeps_abandonPairing hguar _ _ _ hunpaired ht.2
      | .ok paired =>
          let connection : OpenPrinterConnection :=
            ⟨serverUrl, paired.serverId, paired.agentId, paired.keyId, generated.credentialRef⟩
          refine keeps_bind (keeps_setSetting hguar (.connection (some connection)) ht closed_midway)
            fun result t ht => ?_
          match result with
          | .error text =>
              refine keeps_bind (keeps_deleteCredential hguar connection.credentialRef ht.2
                closed_midway) fun _ t ht => ?_
              exact keeps_abandonPairing hguar _ _ _ hunpaired ht.2
          | .ok () => exact keeps_adoptConnection hguar hunpaired hurl ht.2

/-- **`pair_server`** with the lock makes a pairing, or leaves the service without one. -/
lemma keeps_pairing (hcoherent : PairingCoherent since) (code agentName : String) :
    (DesktopService.pairing code agentName).Keeps (calm since) guar (Concludes since) since := by
  intro s hs
  refine keeps_choice (fun _ => keeps_unchanged hcoherent hs) fun hunpaired => ?_
  have hnone : s.connection = none := by simpa using hunpaired
  have hunpaired : since.connection = none := hs.connection.symm.trans hnone
  have hemptied := (hcoherent.spared hs).emptied hnone
  have hshows : (View.emptied since.serverUrl since.providerGeneration).Shows s :=
    ⟨hnone, hemptied.agentId, hemptied.documentIdentity, by simp [hemptied.state, View.emptied],
      hs.generation, hs.serverUrl, by simp [View.emptied], by simp [View.emptied]⟩
  have hclosed := View.closed_emptied since.serverUrl since.providerGeneration
  refine keeps_bind (keeps_transition hguar hshows hclosed pair_emptied) fun transitioned t ht => ?_
  obtain ⟨rfl, ht⟩ := ht
  have ht : (View.midway since.serverUrl since.providerGeneration).Shows t :=
    ht.weaken (by decide : [AgentState.pairing, .disconnected] ⊆ [.pairing, .disconnected])
  refine keeps_bind (keeps_command hguar (.setConnectionState .pairing) ht closed_midway)
    fun _ t ht => ?_
  refine keeps_bind (keeps_read ht closed_midway) fun seen t ht => ?_
  obtain ⟨hseen, hspares⟩ := ht
  have ht := hseen.spared closed_midway hspares
  refine keeps_bind (keeps_put (.discover seen.serverUrl) ht closed_midway) fun answer t ht => ?_
  match answer with
  | .error text => exact keeps_abandonPairing hguar _ _ _ hunpaired ht.1
  | .ok discovered =>
      exact keeps_pairDiscovered hguar code agentName hunpaired hseen.serverUrl discovered ht.1

/-! ## The supervisor -/

omit hguar in
/-- What belongs to the attempt of the pairing keeps the pairing. -/
lemma Usable.attempting {attempt : ConnectionAttempt} {command : Command}
    (hattempting : command.Attempting attempt) (husable : Usable attempt.connection s)
    (happly : command.apply s = some t) :
    Usable attempt.connection t ∧ t.providerGeneration = s.providerGeneration := by
  obtain ⟨hpresent, hagent, hidentity, hurl, hcredential, hstored, hstate⟩ := husable
  cases command with
  | setAgentId agentId =>
      obtain rfl := Option.some.inj happly
      exact ⟨⟨hpresent, hattempting, hidentity, hurl, hcredential, hstored, hstate⟩, rfl⟩
  | setConnectedService _ | setConnectionState _ | setActiveErrors _ =>
      obtain rfl := Option.some.inj happly
      exact ⟨⟨hpresent, hagent, hidentity, hurl, hcredential, hstored, hstate⟩, rfl⟩
  | transition next =>
      have hpaired : next.isPaired = true := by
        revert hattempting
        cases next <;> simp [Command.Attempting, AgentState.isPaired]
      simp only [Command.apply] at happly
      split at happly
      · obtain rfl := Option.some.inj happly
        exact ⟨⟨hpresent, hagent, hidentity, hurl, hcredential, hstored, hpaired⟩, rfl⟩
      · cases happly
  | setConnection | setDocumentIdentity | setServerUrl | advanceGeneration | addCredential
  | removeCredential | store => exact hattempting.elim

/-- **The supervisor with the lock** leaves the pairing as it is. -/
lemma keeps_guarded {attempt : ConnectionAttempt} {script : Routine Task}
    (hguarded : Guarded attempt script) (hcoherent : PairingCoherent since)
    (hfits : attempt.providerGeneration = since.providerGeneration →
      since.connection = some attempt.connection) :
    script.Keeps (calm since) guar (fun next t => StaysWith attempt next ∧ PairingCoherent t ∧
      t.providerGeneration = since.providerGeneration ∧ t.connection = since.connection) since := by
  obtain ⟨hotherwise, hbody⟩ := hguarded
  intro s hs
  refine keeps_choice (fun hcurrent => ?_) fun _ t ht => ?_
  · have hpresent := hfits (hcurrent.symm.trans hs.generation)
    have husable : Usable attempt.connection s := (hcoherent.usable hpresent).spared hs
    refine (keeps_of_only (I := fun t => Usable attempt.connection t ∧
      t.providerGeneration = since.providerGeneration) ?_ ?_ hbody
      ⟨husable, hs.generation⟩).mono fun next t ht => ?_
    · exact fun _ _ hspares hbefore =>
        ⟨hbefore.1.spared hspares, hspares.generation.trans hbefore.2⟩
    · intro command hattempting u v hbefore happly
      obtain ⟨hafter, hsame⟩ := hbefore.1.attempting hattempting happly
      exact ⟨hguar u v, hafter, hsame.trans hbefore.2⟩
    · exact ⟨ht.2, ht.1.1.isCoherent, ht.1.2, ht.1.1.present.trans hpresent.symm⟩
  · have hspares := hs.trans ht
    exact ⟨hotherwise, hcoherent.spared hspares, hspares.generation, hspares.connection⟩

end Operations

/-! ## The contract -/

variable {s t : DesktopService}

/-- What the supervisor knows of the pairing while it makes an attempt. -/
def Fits (task : Task) (service : DesktopService) : Prop :=
  ∀ attempt ∈ task.attempt, attempt.providerGeneration ≤ service.providerGeneration ∧
    (attempt.providerGeneration = service.providerGeneration →
      service.connection = some attempt.connection)

/-- A pairing goes only when the generation goes on. -/
def Counted (before after : DesktopService) : Prop :=
  before.providerGeneration ≤ after.providerGeneration ∧
    (before.providerGeneration = after.providerGeneration →
      ∀ connection, before.connection = some connection → after.connection = some connection)

lemma Spares.counted (hspares : Spares s t) : Counted s t :=
  ⟨hspares.generation.ge, fun _ _ hconnection => hspares.connection.trans hconnection⟩

lemma Fits.counted {task : Task} (hcounted : Counted s t) (hfits : Fits task s) : Fits task t := by
  intro attempt hattempt
  obtain ⟨hle, hsame⟩ := hfits attempt hattempt
  refine ⟨hle.trans hcounted.1, fun hcurrent => ?_⟩
  have hbefore : attempt.providerGeneration = s.providerGeneration := by
    have := hcounted.1
    omega
  exact hcounted.2 (hbefore.symm.trans hcurrent) _ (hsame hbefore)

lemma Fits.follows {task next : Task} (hfollows : next.Follows task.attempt)
    (hfits : Fits task s) : Fits next s :=
  fun attempt hattempt => hfits attempt (hfollows attempt hattempt)

lemma fits_of_none {task : Task} (hnone : task.attempt = none) : Fits task s := by
  simp [Fits, hnone]

/-- What is issued without the lock spares the pairing. -/
lemma Spares.of_loose {command : Command} (hloose : command.Loose)
    (happly : command.apply s = some t) : Spares s t := by
  cases command with
  | setConnectionState _ | setActiveErrors _ =>
      obtain rfl := Option.some.inj happly
      exact ⟨rfl, rfl, rfl, rfl, rfl, rfl, rfl, .inl rfl⟩
  | transition next =>
      simp only [Command.apply] at happly
      split at happly
      · rename_i hcan
        obtain rfl := Option.some.inj happly
        cases next with
        | disconnected => exact ⟨rfl, rfl, rfl, rfl, rfl, rfl, rfl, .inr ⟨rfl, hcan⟩⟩
        | unconfigured | pairing | connecting | connected | degraded | shuttingDown =>
            exact hloose.elim
      · cases happly
  | store setting =>
      cases setting with
      | protocolNegotiation _ =>
          obtain rfl := Option.some.inj happly
          exact ⟨rfl, rfl, rfl, rfl, rfl, rfl, rfl, .inl rfl⟩
      | connection _ | serverConfiguration _ => exact hloose.elim
  | setConnection | setAgentId | setDocumentIdentity | setServerUrl | setConnectedService
  | advanceGeneration | addCredential | removeCredential => exact hloose.elim

/-- What a task with the lock leaves. -/
def Leaves (since : DesktopService) (next : Task) (after : DesktopService) : Prop :=
  PairingCoherent after ∧ Fits next after ∧ Counted since after ∧
    ∀ e, next = .returned (.error e) →
      after.connection = since.connection ∨ after.connection = none

section Locked

variable {since t : DesktopService} {guar : DesktopService → DesktopService → Prop} {task : Task}

lemma Concludes.leaves {next : Task} (hconcludes : Concludes since next t) :
    Leaves since next t := by
  obtain ⟨result, rfl⟩ := hconcludes.returned
  exact ⟨hconcludes.coherent, fits_of_none rfl, ⟨hconcludes.counted, hconcludes.kept⟩,
    hconcludes.failed⟩

/-- The supervisor captures the pairing that is there. -/
lemma keeps_planning (hcoherent : PairingCoherent since) :
    (DesktopService.planning).Keeps (calm since) guar (Leaves since) since := by
  intro configured hconfigured paired hpaired counted hcounted
  have hread := (hconfigured.trans hpaired).trans hcounted
  have hleaves : ∀ {t next}, Spares counted t → Fits next t → (∀ e, next ≠ .returned (.error e)) →
      Leaves since next t := by
    intro t next ht hfits hreturned
    have hspares := hread.trans ht
    exact ⟨hcoherent.spared hspares, hfits, hspares.counted, fun e he => absurd he (hreturned e)⟩
  split
  · rename_i connection hconnection
    refine fun t ht => hleaves ht (fun attempt hattempt => ?_) fun e he => by cases he
    obtain rfl := Option.some.inj hattempt
    exact ⟨ht.generation.ge, fun _ => (hcounted.trans ht).connection.trans hconnection⟩
  · exact fun t ht => hleaves ht (fits_of_none rfl) fun e he => by cases he

/-- **What every task with the lock makes of a coherent service.** -/
lemma keeps_locked (hguar : ∀ s t, guar s t) (hlocked : task.locked = true)
    (hcoherent : PairingCoherent since) (hfits : Fits task since) :
    task.body.Keeps (calm since) guar (Leaves since) since := by
  cases hattempt : task.attempt with
  | some attempt =>
      refine (keeps_guarded hguar (Task.guarded hlocked hattempt) hcoherent
        fun hsame => (hfits attempt hattempt).2 hsame).mono fun next t ht => ?_
      obtain ⟨hstays, hafter, hgeneration, hconnection⟩ := ht
      have hcounted : Counted since t :=
        ⟨hgeneration.ge, fun _ _ hbefore => hconnection.trans hbefore⟩
      refine ⟨hafter, ?_, hcounted, fun e he => absurd he (hstays.returned _)⟩
      exact (hfits.counted hcounted).follows (by rw [hattempt]; exact hstays.follows)
  | none =>
      cases task with
      | pairing code agentName =>
          exact (keeps_pairing hguar hcoherent code agentName).mono fun _ _ ht => ht.leaves
      | forgetServer => exact (keeps_forgetServer hguar hcoherent).mono fun _ _ ht => ht.leaves
      | applyServerConfiguration serverUrl =>
          exact (keeps_applyServerConfiguration hguar hcoherent serverUrl).mono
            fun _ _ ht => ht.leaves
      | planning => exact keeps_planning hcoherent
      | pairServer | setServerConfiguration | resetServerConfiguration | discoverServer | returned
      | waiting | stopped => cases hlocked
      | discovering | connecting | opening | disconnecting | connected | authenticating | greeting
      | session | helloTimedOut | publishing | reporting | message | receiveFailed | recording
      | ended => cases hattempt

end Locked

/-- **The contract of the service**: it is coherent while nobody has the lock. -/
def pairingContract : Contract desktop where
  rely := Spares
  rely_refl := Spares.refl
  rely_trans := Spares.trans
  may _ since := ForgetsCleanly since
  allow _ _ _ := True
  free := PairingCoherent
  fits := Fits
  bond := Counted
  guar task before after := task.locked = false → Spares before after
  post _ since next after := ∀ e, next = .returned (.error e) →
    after.connection = since.connection ∨ after.connection = none
  free_rely _ _ hspares hcoherent := hcoherent.spared hspares
  fits_rely _ _ _ hspares hfits := hfits.counted hspares.counted
  fits_bond _ _ _ hcounted hfits := hfits.counted hcounted
  fits_entry task _ hentry := fits_of_none (by cases task <;> first | rfl | cases hentry)
  keeps_locked _ _ hlocked hcoherent hfits :=
    Desktop.keeps_locked (fun _ _ hunlocked => absurd (hunlocked.symm.trans hlocked) (by decide))
      hlocked hcoherent hfits
  only_unlocked task hunlocked :=
    (Task.only_unlocked hunlocked).mono
      (fun _ hloose _ _ _ happly => ⟨.of_loose hloose happly, fun _ => .of_loose hloose happly⟩)
      fun _ hfollows _ hfits => hfits.follows hfollows

/-! ## Whole runs -/

/-- The condition on a run: an operation that finds a pairing and forgets it can delete the key and
clear the stored connection. -/
def forgettable : StepCondition (Pool DesktopService Command Question.Answer Task Party)
    (ThreadAction Question.Answer Task Party) (ThreadEvent DesktopService Task Party) :=
  fun _ pool action =>
    match action with
    | .answer name question answer => ∀ task since script,
        pool.threads name = some (.running task since script) → task.locked →
          ForgetsCleanly since question answer
    | _ => True

/-- What is right of an event: an operation returns to a coherent service, and one that fails has
left the pairing as it was or leaves none; without a pairing a server can be paired; what is done
without the lock spares the pairing. -/
def Orderly : ThreadEvent DesktopService Task Party → Prop
  | .left _ task since after (.returned result) => task.locked →
      PairingCoherent after ∧ (after.connection = none → canTransition after.state .pairing = true) ∧
        (result.isOk = false → after.connection = since.connection ∨ after.connection = none)
  | .changed _ task before after => task.locked = false → Spares before after
  | _ => True

/-- **The pairing is coherent after every operation**, when no operation that finds a pairing fails
to delete its key or to clear the stored connection: for every start, every interleaving with the
supervisor, and every other failure. -/
theorem pairing_coherent (startup : Startup)
    {history : List (ThreadEvent DesktopService Task Party)}
    {pool : Pool DesktopService Command Question.Answer Task Party}
    (hrun : desktop.system.Runs forgettable startup.pool history pool) :
    (pool.holder = none → PairingCoherent pool.shared ∧
      (pool.shared.connection = none → canTransition pool.shared.state .pairing = true)) ∧
      ∀ event ∈ history, Orderly event := by
  have hallowed : desktop.system.Runs (fun _ pool action => pairingContract.Allowed pool action)
      startup.pool history pool := by
    refine hrun.weaken fun _ pool action hforgettable => ?_
    cases action with
    | answer name question answer => exact hforgettable
    | advance name => exact fun _ _ _ _ _ _ => trivial
    | call _ _ | enter _ => trivial
  have hinit : pairingContract.Invariant startup.pool := by
    refine .start (coherent_initialized startup) fun name thread hthread => ?_
    cases name with
    | supervisor => exact ⟨.planning, (Option.some.inj hthread).symm, fits_of_none rfl⟩
    | caller n => cases hthread
  obtain ⟨hfree, hlawful⟩ := Contract.lawful hinit hallowed
  refine ⟨fun hnobody => ⟨hfree hnobody, (hfree hnobody).can_pair⟩, fun event hevent => ?_⟩
  have hevent := hlawful event hevent
  cases event with
  | changed name task before after => exact hevent
  | left name task since after next =>
      cases next with
      | returned result =>
          intro hlocked
          obtain ⟨hcoherent, hfailed⟩ := hevent hlocked
          refine ⟨hcoherent, hcoherent.can_pair, fun herror => ?_⟩
          cases result with
          | error e => exact hfailed e rfl
          | ok => cases herror
      | _ => trivial

instance (since : DesktopService) : (question : Question) → (answer : question.Answer) →
    Decidable (ForgetsCleanly since question answer)
  | .deleteCredential _, answer => inferInstanceAs (Decidable (_ → answer = .ok ()))
  | .setSetting (.connection none), answer => inferInstanceAs (Decidable (_ → answer = .ok ()))
  | .setSetting (.connection (some _)), _ | .setSetting (.serverConfiguration _), _
  | .setSetting (.protocolNegotiation _), _ | .discover _, _ | .generate _, _ | .pair _ _ _ _, _
  | .send _, _ | .newTransport _, _ | .connect _, _ | .receiveAuthentication, _
  | .signChallenge _ _, _ | .sendAuthenticationResponse _, _ | .plan _, _ | .sendHello _ _, _
  | .turn, _ | .transmit _, _ | .learn _, _ => .isTrue trivial

instance (history : List (ThreadEvent DesktopService Task Party))
    (pool : Pool DesktopService Command Question.Answer Task Party) :
    (action : ThreadAction Question.Answer Task Party) →
      Decidable (forgettable history pool action)
  | .answer name question answer =>
      match hthread : pool.threads name with
      | some (.running task since script) =>
          decidable_of_iff (task.locked = true → ForgetsCleanly since question answer)
            ⟨fun hclean task' since' script' hthread' => by
              rw [hthread, Option.some.injEq, Thread.running.injEq] at hthread'
              obtain ⟨rfl, rfl, -⟩ := hthread'
              exact hclean,
            fun hclean => hclean task since script hthread⟩
      | some (.resting task) => .isTrue fun _ _ _ hthread' => by
          rw [hthread] at hthread'
          cases hthread'
      | none => .isTrue fun _ _ _ hthread' => by
          rw [hthread] at hthread'
          cases hthread'
  | .call _ _ | .enter _ | .advance _ => .isTrue trivial

/-- A server that is forgotten while an attempt is under way. -/
theorem pairing_coherent_forgotten :
    let run := desktop.system.run (fun history pool action => forgettable history pool action)
      Sample.start.pool (Sample.planned ++ Sample.forgetBegun ++ Sample.forgetDone)
    run.2.shared.providerGeneration = 1 ∧
      (run.2.holder = none → PairingCoherent run.2.shared ∧
        (run.2.shared.connection = none →
          canTransition run.2.shared.state .pairing = true)) ∧
      ∀ event ∈ run.1, Orderly event :=
  ⟨by decide +kernel, pairing_coherent Sample.start
    (System.runs_run (fun _ _ _ => of_decide_eq_true) _)⟩

/-- A server is to be forgotten, and its key cannot be deleted. -/
def Sample.undeletable : List (ThreadAction Question.Answer Task Party) :=
  Sample.forgetBegun ++
    .answer (.caller 1) (.deleteCredential "key-1") (.error "locked") :: accesses (.caller 1) 1

/-- **A key that cannot be deleted** leaves the agent without a connection and still with an agent
id, and in a state in which no server can be paired. -/
theorem forget_leaves_half :
    ¬ ∀ (startup : Startup) (history : List (ThreadEvent DesktopService Task Party))
      (pool : Pool DesktopService Command Question.Answer Task Party),
      desktop.system.Runs anyStep startup.pool history pool →
        (pool.holder = none → PairingCoherent pool.shared ∧
          (pool.shared.connection = none →
            canTransition pool.shared.state .pairing = true)) ∧
          ∀ event ∈ history, Orderly event := by
  intro hall
  let run := desktop.system.run (fun _ _ _ => true) Sample.start.pool Sample.undeletable
  have hrun : desktop.system.Runs anyStep Sample.start.pool run.1 run.2 :=
    System.runs_run (fun _ _ _ _ => trivial) Sample.undeletable
  have hfree := (hall Sample.start run.1 run.2 hrun).1 (by decide +kernel)
  have hpair := hfree.2 (by decide +kernel)
  exact absurd hpair (by decide +kernel)

end Oppa.Desktop
