import Oppa.Desktop.Attempts

/-!
# Attempts that have become stale

Forgetting a server or changing the configuration advances the generation, while an attempt with the
old connection may still be under way.  With the lock the supervisor compares the generations before
it writes.  Without the lock it does not.

* `DesktopService.observed` — what an attempt can be seen by.
* `AwareOutside` — the condition: outside the lock, nothing is written for a stale attempt.
* `staleContract` — what the supervisor guarantees with the lock.
* **`stale_attempts_inert`** — under the condition no attempt is seen any more once it is stale.
* `stale_discovery_seen` — an attempt that fails to discover its server after that was forgotten.
-/

namespace Oppa.Desktop

open Foundation History Script

/-- What an attempt changes: the agent id, the connected service, the connection state, the active
errors, the lifecycle and the record of the negotiation. -/
def DesktopService.observed (service : DesktopService) :
    Option String × Option ConnectedServiceSummary × OpenPrinterConnectionState × List String ×
      AgentState × Option StoredNegotiation :=
  (service.agentId, service.connectedService, service.connectionState, service.activeErrors,
    service.state, service.storedNegotiation)

/-- The generation has advanced past the one that the attempt has captured. -/
def ConnectionAttempt.Stale (attempt : ConnectionAttempt) (service : DesktopService) : Prop :=
  attempt.providerGeneration < service.providerGeneration

instance (attempt : ConnectionAttempt) (service : DesktopService) :
    Decidable (attempt.Stale service) :=
  inferInstanceAs (Decidable (_ < _))

/-- A change is not one of a stale attempt, or it cannot be seen. -/
def Inert (task : Task) (before after : DesktopService) : Prop :=
  ∀ attempt ∈ task.attempt, attempt.Stale before → after.observed = before.observed

variable {s t : DesktopService} {command : Command} {task : Task} {attempt : ConnectionAttempt}

/-- The supervisor does not advance the generation. -/
lemma generation_of_attempting (hattempting : command.Attempting attempt)
    (happly : command.apply s = some t) : t.providerGeneration = s.providerGeneration := by
  cases command with
  | transition next =>
      simp only [Command.apply] at happly
      split at happly
      · obtain rfl := Option.some.inj happly
        rfl
      · cases happly
  | setAgentId | setConnectedService | setConnectionState | setActiveErrors =>
      obtain rfl := Option.some.inj happly
      rfl
  | setConnection | setDocumentIdentity | setServerUrl | advanceGeneration | addCredential
  | removeCredential | store => exact hattempting.elim

lemma generation_of_loose (hloose : command.Loose) (happly : command.apply s = some t) :
    t.providerGeneration = s.providerGeneration := by
  cases command with
  | transition next =>
      simp only [Command.apply] at happly
      split at happly
      · obtain rfl := Option.some.inj happly
        rfl
      · cases happly
  | store setting => cases setting <;> (obtain rfl := Option.some.inj happly; rfl)
  | setConnectionState | setActiveErrors =>
      obtain rfl := Option.some.inj happly
      rfl
  | setConnection | setAgentId | setDocumentIdentity | setServerUrl | setConnectedService
  | advanceGeneration | addCredential | removeCredential => exact hloose.elim

/-- What the others leave alone: only a task with the lock advances the generation. -/
def sameGeneration : Script.Context DesktopService Command Question.Answer where
  apply command service := command.apply service
  rely before after := after.providerGeneration = before.providerGeneration
  rely_refl _ := rfl
  rely_trans hst htu := htu.trans hst
  may _ _ := True

/-- **With the lock** a stale attempt writes nothing. -/
lemma inert_guarded {script : Routine Task} (hattempt : task.attempt = some attempt)
    (hguarded : Guarded attempt script) :
    script.Keeps sameGeneration (Inert task) (fun _ _ => True) s := by
  obtain ⟨-, hbody⟩ := hguarded
  intro t ht
  by_cases hcurrent : t.providerGeneration = attempt.providerGeneration
  · show Keeps _ _ _ (if t.providerGeneration = attempt.providerGeneration then _ else _) t
    rw [if_pos hcurrent]
    have hstable : sameGeneration.Stable
        fun u => u.providerGeneration = attempt.providerGeneration :=
      fun u v hsame hbefore => Eq.trans hsame hbefore
    refine (keeps_of_only hstable ?_ hbody hcurrent).mono fun _ _ _ => trivial
    intro command hattempting u v hbefore happly
    have hafter := (generation_of_attempting hattempting happly).trans hbefore
    refine ⟨fun other hother hstale => ?_, hafter⟩
    -- the attempt is current, so it is not stale
    obtain rfl := Option.some.inj (hattempt.symm.trans hother)
    exact absurd hbefore (Nat.ne_of_gt hstale)
  · show Keeps _ _ _ (if t.providerGeneration = attempt.providerGeneration then _ else _) t
    rw [if_neg hcurrent]
    exact fun _ _ => trivial

/-- A task that belongs to no attempt is not one of a stale attempt. -/
lemma inert_none {script : Routine Task} (hnone : task.attempt = none) :
    script.Keeps sameGeneration (Inert task) (fun _ _ => True) s := by
  have hguar : ∀ t u, Inert task t u := fun t u attempt hattempt => by
    rw [hnone] at hattempt
    cases hattempt
  have hstable : sameGeneration.Stable fun _ => True := fun _ _ _ _ => trivial
  refine (keeps_of_only hstable ?_ (only_trivial script) trivial).mono fun _ _ _ => trivial
  exact fun _ _ t u _ _ => ⟨hguar t u, trivial⟩

/-- **The contract of the supervisor**: a stale attempt writes nothing, with the lock because it
looks, and without the lock where it is not allowed to. -/
def staleContract : Contract desktop where
  rely := sameGeneration.rely
  rely_refl := sameGeneration.rely_refl
  rely_trans := sameGeneration.rely_trans
  may _ _ _ _ := True
  allow task service _ := ∀ attempt ∈ task.attempt, ¬ attempt.Stale service
  free _ := True
  fits _ _ := True
  bond _ _ := True
  guar := Inert
  post _ _ _ _ := True
  free_rely _ _ _ _ := trivial
  fits_rely _ _ _ _ _ := trivial
  fits_bond _ _ _ _ _ := trivial
  fits_entry _ _ _ := trivial
  keeps_locked task service hlocked _ _ := by
    have hinert : task.body.Keeps sameGeneration (Inert task) (fun _ _ => True) service := by
      cases hattempt : task.attempt with
      | none => exact inert_none hattempt
      | some attempt => exact inert_guarded hattempt (Task.guarded hlocked hattempt)
    exact hinert.mono fun _ _ _ => ⟨trivial, trivial, trivial, trivial⟩
  only_unlocked task hunlocked :=
    (Task.only_unlocked hunlocked).mono
      (fun _ hloose _ _ hallowed happly => ⟨generation_of_loose hloose happly,
        fun attempt hattempt hstale => absurd hstale (hallowed attempt hattempt)⟩)
      fun _ _ _ _ => trivial

/-! ## Whole runs -/

/-- The condition on a run: where the supervisor writes without the lock, its attempt is not stale. -/
def awareOutside : StepCondition (Pool DesktopService Command Question.Answer Task Party)
    (ThreadAction Question.Answer Task Party) (ThreadEvent DesktopService Task Party) :=
  fun _ pool action =>
    match action with
    | .advance name => ∀ task since command next,
        pool.threads name = some (.running task since (.exec command next)) →
          task.locked = false → ∀ attempt ∈ task.attempt, ¬ attempt.Stale pool.shared
    | _ => True

/-- What is right of an event: no change of a stale attempt is seen. -/
def Unseen : ThreadEvent DesktopService Task Party → Prop
  | .changed _ task before after => Inert task before after
  | .left _ _ _ _ _ => True

/-- **Stale attempts are inert**, when outside the lock nothing is written for a stale attempt: for
every start and every interleaving of the supervisor with the operations. -/
theorem stale_attempts_inert (startup : Startup)
    {history : List (ThreadEvent DesktopService Task Party)}
    {pool : Pool DesktopService Command Question.Answer Task Party}
    (hrun : desktop.system.Runs awareOutside startup.pool history pool) :
    ∀ event ∈ history, Unseen event := by
  have hallowed : desktop.system.Runs (fun _ pool action => staleContract.Allowed pool action)
      startup.pool history pool := by
    refine hrun.weaken fun _ pool action haware => ?_
    cases action with
    | answer name question answer => exact fun _ _ _ _ _ => trivial
    | advance name => exact haware
    | call _ _ | enter _ => trivial
  have hinit : staleContract.Invariant startup.pool := by
    refine .start trivial fun name thread hthread => ?_
    cases name with
    | supervisor => exact ⟨.planning, (Option.some.inj hthread).symm, trivial⟩
    | caller n => cases hthread
  intro event hevent
  have hlawful := (Contract.lawful hinit hallowed).2 event hevent
  cases event with
  | changed name task before after => exact hlawful
  | left => trivial

instance (history : List (ThreadEvent DesktopService Task Party))
    (pool : Pool DesktopService Command Question.Answer Task Party) :
    (action : ThreadAction Question.Answer Task Party) →
      Decidable (awareOutside history pool action)
  | .advance name =>
      match hthread : pool.threads name with
      | some (.running task since (.exec command next)) =>
          decidable_of_iff
            (task.locked = false → ∀ attempt ∈ task.attempt, ¬ attempt.Stale pool.shared)
            ⟨fun haware task' since' command' next' hthread' => by
              rw [hthread, Option.some.injEq, Thread.running.injEq] at hthread'
              obtain ⟨rfl, -, -⟩ := hthread'
              exact haware,
            fun haware => haware task since command next hthread⟩
      | some (.running _ _ (.done _)) | some (.running _ _ (.read _))
      | some (.running _ _ (.ask _ _)) | some (.resting _) | none =>
          .isTrue fun _ _ _ _ hthread' => by
            rw [hthread] at hthread'
            cases hthread'
  | .call _ _ | .enter _ | .answer _ _ _ => .isTrue trivial

/-- Discovery succeeds after the server was forgotten, and the next check ends the attempt. -/
def Sample.noticed : List (ThreadAction Question.Answer Task Party) :=
  Sample.planned ++ Sample.forgetBegun ++ Sample.forgetDone ++
    [.answer .supervisor (.discover "http://127.0.0.1:8787/")
      (.ok ⟨"Server", "server-1", "1.0.0", "http://127.0.0.1:8787/pair",
        "ws://127.0.0.1:8787/gateway"⟩),
      .advance .supervisor, .enter .supervisor, .advance .supervisor, .advance .supervisor]

theorem stale_attempts_inert_noticed :
    let run := desktop.system.run (fun history pool action => awareOutside history pool action)
      Sample.start.pool Sample.noticed
    run.2.shared.providerGeneration = 1 ∧ ∀ event ∈ run.1, Unseen event :=
  ⟨by decide +kernel, stale_attempts_inert Sample.start
    (System.runs_run (fun _ _ _ => of_decide_eq_true) _)⟩

/-- Discovery fails after the server was forgotten. -/
def Sample.unnoticed : List (ThreadAction Question.Answer Task Party) :=
  Sample.planned ++ Sample.forgetBegun ++ Sample.forgetDone ++
    [.answer .supervisor (.discover "http://127.0.0.1:8787/") (.error "connection refused"),
      .advance .supervisor]

/-- The connection state that a task of an attempt writes over another one, once it is stale. -/
def staleState : ThreadEvent DesktopService Task Party → Option OpenPrinterConnectionState
  | .changed _ task before after =>
      match task.attempt with
      | some attempt =>
          if attempt.Stale before ∧ after.observed ≠ before.observed then
            some after.connectionState
          else none
      | none => none
  | .left _ _ _ _ _ => none

/-- **A discovery that fails after its server was forgotten** still tells the user so. -/
theorem stale_discovery_seen :
    ¬ ∀ (startup : Startup) (history : List (ThreadEvent DesktopService Task Party))
      (pool : Pool DesktopService Command Question.Answer Task Party),
      desktop.system.Runs anyStep startup.pool history pool → ∀ event ∈ history, Unseen event := by
  intro hall
  let run := desktop.system.run (fun _ _ _ => true) Sample.start.pool Sample.unnoticed
  have hrun : desktop.system.Runs anyStep Sample.start.pool run.1 run.2 :=
    System.runs_run (fun _ _ _ _ => trivial) Sample.unnoticed
  have hunseen := hall Sample.start run.1 run.2 hrun
  have hseen : run.1.findSome? staleState = some .discoveryFailed := by decide +kernel
  obtain ⟨event, hevent, hstate⟩ := List.exists_of_findSome?_eq_some hseen
  have hinert := hunseen event hevent
  cases event with
  | left => cases hstate
  | changed name task before after =>
      simp only [staleState] at hstate
      split at hstate
      · rename_i attempt hattempt
        split at hstate
        · rename_i hstale
          exact hstale.2 (hinert attempt hattempt hstale.1)
        · cases hstate
      · cases hstate

end Oppa.Desktop
