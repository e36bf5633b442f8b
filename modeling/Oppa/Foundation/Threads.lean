import Oppa.Foundation.History
import Oppa.Foundation.Script
import Mathlib.Logic.Function.Basic

/-!
# Threads and a lock

A thread goes from stage to stage.  Each stage is a script, and some stages hold the one lock of the
program from their first step to their last.  The steps of different threads interleave freely.

* `Program` — the stages, their scripts, and which of them take the lock.
* `Pool`, `Pool.step`, `Program.system` — the threads over their shared state, as a system; what can
  be told of a run are the changes that are made and the stages that are left.
* `Contract` — what holds while nobody has the lock, what a stage knows, what a stage does to what
  the others know, and what each change guarantees; with one obligation for each kind of stage.
* **`Contract.lawful`** — in every run in which the environment answers as it may, and stages without
  the lock issue only what they are allowed to, every change meets its guarantee and every stage
  that had the lock leaves what it promises.
-/

namespace Foundation

open History

variable {σ γ ι κ τ : Type} {A : ι → Type}

/-- The stages of the threads. -/
structure Program (σ γ : Type) {ι : Type} (A : ι → Type) (κ : Type) where
  /-- Performs a command; `none` when it is refused. -/
  apply : γ → σ → Option σ
  /-- What a stage does, up to the stage that follows. -/
  body : κ → Script σ γ A κ
  /-- Whether a stage holds the lock. -/
  locked : κ → Bool
  /-- Whether a new thread can begin with a stage. -/
  entry : κ → Bool

/-- A thread: before a stage, or within one that began in the state `since`. -/
inductive Thread (σ γ : Type) {ι : Type} (A : ι → Type) (κ : Type)
  | resting (stage : κ)
  | running (stage : κ) (since : σ) (script : Script σ γ A κ)

/-- The threads, the state that they share, and who has the lock. -/
structure Pool (σ γ : Type) {ι : Type} (A : ι → Type) (κ τ : Type) where
  shared : σ
  threads : τ → Option (Thread σ γ A κ)
  holder : Option τ

/-- What happens next. -/
inductive ThreadAction {ι : Type} (A : ι → Type) (κ τ : Type)
  /-- A new thread. -/
  | call (name : τ) (stage : κ)
  /-- A thread begins its stage, with the lock if the stage holds it. -/
  | enter (name : τ)
  /-- A thread makes its next access, or leaves its stage. -/
  | advance (name : τ)
  /-- The environment answers a thread. -/
  | answer (name : τ) (question : ι) (answer : A question)

/-- What can be told of a run. -/
inductive ThreadEvent (σ κ τ : Type)
  /-- A thread has changed the shared state. -/
  | changed (name : τ) (stage : κ) (before after : σ)
  /-- A thread has left a stage that began in the state `since`. -/
  | left (name : τ) (stage : κ) (since after : σ) (next : κ)

namespace Pool

variable [DecidableEq τ] (pool : Pool σ γ A κ τ)

/-- Moves a thread. -/
def goto (name : τ) (thread : Thread σ γ A κ) : Pool σ γ A κ τ :=
  { pool with threads := Function.update pool.threads name (some thread) }

variable (program : Program σ γ A κ)

/-- A thread begins a stage. -/
def begin (name : τ) (stage : κ) : Pool σ γ A κ τ :=
  { pool.goto name (.running stage pool.shared (program.body stage)) with
    holder := if program.locked stage then some name else pool.holder }

/-- A thread leaves a stage. -/
def leave (name : τ) (stage next : κ) : Pool σ γ A κ τ :=
  { pool.goto name (.resting next) with
    holder := if program.locked stage then none else pool.holder }

/-- The next access of a script. -/
def access (name : τ) (stage : κ) (since : σ) :
    Script σ γ A κ → Option (Pool σ γ A κ τ × List (ThreadEvent σ κ τ))
  | .done next =>
      some (pool.leave program name stage next, [.left name stage since pool.shared next])
  | .exec command next =>
      match program.apply command pool.shared with
      | some after =>
          some ({ pool.goto name (.running stage since (next true)) with shared := after },
            [.changed name stage pool.shared after])
      | none => some (pool.goto name (.running stage since (next false)), [])
  | .read next => some (pool.goto name (.running stage since (next pool.shared)), [])
  | .ask _ _ => none

variable [DecidableEq ι]

/-- A step of the threads. -/
def step : ThreadAction A κ τ → Option (Pool σ γ A κ τ × List (ThreadEvent σ κ τ))
  | .call name stage =>
      match pool.threads name with
      | none => if program.entry stage then some (pool.goto name (.resting stage), []) else none
      | some _ => none
  | .enter name =>
      match pool.threads name with
      | some (.resting stage) =>
          if program.locked stage ∧ pool.holder.isSome then none
          else some (pool.begin program name stage, [])
      | _ => none
  | .advance name =>
      match pool.threads name with
      | some (.running stage since script) => pool.access program name stage since script
      | _ => none
  | .answer name question answer =>
      match pool.threads name with
      | some (.running stage since (.ask asked next)) =>
          if h : question = asked then
            some (pool.goto name (.running stage since (next (h ▸ answer))), [])
          else none
      | _ => none

end Pool

/-- The threads as a system. -/
def Program.system [DecidableEq τ] [DecidableEq ι] (program : Program σ γ A κ) :
    System (Pool σ γ A κ τ) (ThreadAction A κ τ) (ThreadEvent σ κ τ) where
  step pool action := pool.step program action

/-! ## Contracts -/

/-- What the stages of a program promise each other. -/
structure Contract (program : Program σ γ A κ) where
  /-- What stages without the lock may change. -/
  rely : σ → σ → Prop
  rely_refl : ∀ s, rely s s
  rely_trans : ∀ {s t u}, rely s t → rely t u → rely s u
  /-- What the environment may answer a stage that began in a state. -/
  may : κ → σ → (question : ι) → A question → Prop
  /-- Which commands a stage without the lock is allowed to issue in a state. -/
  allow : κ → σ → γ → Prop
  /-- What holds while nobody has the lock. -/
  free : σ → Prop
  /-- What a stage knows of the state. -/
  fits : κ → σ → Prop
  /-- What a stage with the lock does to the state, from its first step to its last. -/
  bond : σ → σ → Prop
  /-- What a change of a stage guarantees. -/
  guar : κ → σ → σ → Prop
  /-- What a stage with the lock leaves, for the state it began in. -/
  post : κ → σ → κ → σ → Prop
  free_rely : ∀ s t, rely s t → free s → free t
  fits_rely : ∀ stage s t, rely s t → fits stage s → fits stage t
  fits_bond : ∀ stage s t, bond s t → fits stage s → fits stage t
  fits_entry : ∀ stage s, program.entry stage → fits stage s
  keeps_locked : ∀ stage s, program.locked stage → free s → fits stage s →
    (program.body stage).Keeps ⟨program.apply, rely, rely_refl, rely_trans, may stage s⟩ (guar stage)
      (fun next t => free t ∧ fits next t ∧ bond s t ∧ post stage s next t) s
  only_unlocked : ∀ stage, program.locked stage = false →
    (program.body stage).Only
      (fun command => ∀ s t, allow stage s command → program.apply command s = some t →
        rely s t ∧ guar stage s t)
      (fun next => ∀ s, fits stage s → fits next s)

namespace Contract

variable {program : Program σ γ A κ} (contract : Contract program)

/-- The context of a stage that began in a state. -/
def context (stage : κ) (since : σ) : Script.Context σ γ A :=
  ⟨program.apply, contract.rely, contract.rely_refl, contract.rely_trans, contract.may stage since⟩

/-- What a stage with the lock still has to keep. -/
def Keeps (stage : κ) (since shared : σ) (script : Script σ γ A κ) : Prop :=
  script.Keeps (contract.context stage since) (contract.guar stage)
    (fun next t => contract.free t ∧ contract.fits next t ∧ contract.bond since t ∧
      contract.post stage since next t) shared

/-- What a stage without the lock can still do. -/
def Bounded (stage : κ) (script : Script σ γ A κ) : Prop :=
  script.Only
    (fun command => ∀ s t, contract.allow stage s command → program.apply command s = some t →
      contract.rely s t ∧ contract.guar stage s t)
    (fun next => ∀ s, contract.fits stage s → contract.fits next s)

/-- What holds of a thread, when the stages fit the state `known`. -/
def Holds (holder : Option τ) (known shared : σ) (name : τ) : Thread σ γ A κ → Prop
  | .resting stage => contract.fits stage known
  | .running stage since script =>
      if program.locked stage then
        holder = some name ∧ since = known ∧ contract.Keeps stage since shared script
      else contract.fits stage known ∧ contract.Bounded stage script

/-- **The invariant of the threads.**  While a thread has the lock, the stages of the others fit the
state in which it took the lock. -/
structure Invariant (pool : Pool σ γ A κ τ) : Prop where
  holds : ∃ known, (pool.holder = none → known = pool.shared) ∧
    ∀ name thread, pool.threads name = some thread →
      contract.Holds pool.holder known pool.shared name thread
  free : pool.holder = none → contract.free pool.shared

variable [DecidableEq τ] [DecidableEq ι]

/-- The condition on the steps of a run: the environment answers stages with the lock as it may, and
stages without the lock issue only what they are allowed to. -/
def Allowed (pool : Pool σ γ A κ τ) : ThreadAction A κ τ → Prop
  | .answer name question answer => ∀ stage since script,
      pool.threads name = some (.running stage since script) → program.locked stage →
        contract.may stage since question answer
  | .advance name => ∀ stage since command next,
      pool.threads name = some (.running stage since (.exec command next)) →
        program.locked stage = false → contract.allow stage pool.shared command
  | _ => True

/-- What is right of an event. -/
def Lawful : ThreadEvent σ κ τ → Prop
  | .changed _ stage before after => contract.guar stage before after
  | .left _ stage since after next =>
      program.locked stage → contract.free after ∧ contract.post stage since next after

/-! ## One step -/

section Step

variable {contract} {pool pool' : Pool σ γ A κ τ} {holder holder' : Option τ}
  {known known' shared shared' : σ} {name : τ} {thread : Thread σ γ A κ}
  {events : List (ThreadEvent σ κ τ)}

omit [DecidableEq τ] [DecidableEq ι] in
/-- What the step of another thread leaves of a thread. -/
lemma Holds.transfer (hholds : contract.Holds holder known shared name thread)
    (hfits : ∀ stage, contract.fits stage known → contract.fits stage known')
    (hheld : holder = some name → holder' = holder ∧ known' = known ∧
      contract.rely shared shared') :
    contract.Holds holder' known' shared' name thread := by
  cases thread with
  | resting stage => exact hfits stage hholds
  | running stage since script =>
      simp only [Holds] at hholds ⊢
      split
      · rename_i hlocked
        rw [if_pos hlocked] at hholds
        obtain ⟨hholder, rfl, hkeeps⟩ := hholds
        obtain ⟨rfl, rfl, hrely⟩ := hheld hholder
        exact ⟨hholder, rfl, Script.Keeps.rely hkeeps hrely⟩
      · rename_i hunlocked
        rw [if_neg hunlocked] at hholds
        exact ⟨hfits stage hholds.1, hholds.2⟩

omit [DecidableEq ι] in
/-- One thread moves, and the others hold on. -/
lemma Invariant.goto (known' : σ) {thread' : Thread σ γ A κ}
    (hthreads : pool'.threads = Function.update pool.threads name (some thread'))
    (hself : contract.Holds pool'.holder known' pool'.shared name thread')
    (hothers : ∀ other thread, other ≠ name → pool.threads other = some thread →
      contract.Holds pool'.holder known' pool'.shared other thread)
    (hknown : pool'.holder = none → known' = pool'.shared)
    (hfree : pool'.holder = none → contract.free pool'.shared) : contract.Invariant pool' := by
  refine ⟨⟨known', hknown, fun other thread hthread => ?_⟩, hfree⟩
  rw [hthreads] at hthread
  by_cases hother : other = name
  · subst hother
    rw [Function.update_self] at hthread
    obtain rfl := Option.some.inj hthread
    exact hself
  · rw [Function.update_of_ne hother] at hthread
    exact hothers other thread hother hthread

omit [DecidableEq ι] in
/-- **An access of a thread without the lock** changes the state as the others rely on. -/
lemma Invariant.access_unlocked {stage : κ} {since : σ} {script : Script σ γ A κ}
    (hinv : contract.Invariant pool)
    (hthread : pool.threads name = some (.running stage since script))
    (hlocked : program.locked stage = false)
    (hallowed : ∀ command next, script = .exec command next →
      contract.allow stage pool.shared command)
    (hstep : pool.access program name stage since script = some (pool', events)) :
    contract.Invariant pool' ∧ ∀ event ∈ events, contract.Lawful event := by
  obtain ⟨⟨known, hknown, hholds⟩, hfree⟩ := hinv
  obtain ⟨hfits, hbounded⟩ : contract.fits stage known ∧ contract.Bounded stage script := by
    simpa [Holds, hlocked] using hholds name _ hthread
  have hrunning : ∀ shared script, contract.Bounded stage script →
      ∀ known, contract.fits stage known →
        contract.Holds pool.holder known shared name (.running stage since script) := by
    intro shared script hscript known hfits
    simp only [Holds, hlocked]
    exact ⟨hfits, hscript⟩
  cases script with
  | done next =>
      simp only [Pool.access, Option.some.injEq, Prod.mk.injEq] at hstep
      obtain ⟨rfl, rfl⟩ := hstep
      have hsame : (pool.leave program name stage next).holder = pool.holder := by
        simp [Pool.leave, hlocked]
      refine ⟨.goto known rfl (hbounded known hfits) ?_ ?_ ?_, ?_⟩
      · intro other thread _ hother
        rw [hsame]
        exact hholds other thread hother
      · rw [hsame]
        exact hknown
      · rw [hsame]
        exact hfree
      · simp [Lawful, hlocked]
  | exec command next =>
      obtain ⟨hcommand, hnext⟩ := hbounded
      simp only [Pool.access] at hstep
      cases happly : program.apply command pool.shared with
      | none =>
          simp only [happly, Option.some.injEq, Prod.mk.injEq] at hstep
          obtain ⟨rfl, rfl⟩ := hstep
          exact ⟨.goto known rfl (hrunning _ _ (hnext false) known hfits) (fun other thread _ =>
            hholds other thread) hknown hfree, by simp⟩
      | some after =>
          simp only [happly, Option.some.injEq, Prod.mk.injEq] at hstep
          obtain ⟨rfl, rfl⟩ := hstep
          obtain ⟨hrely, hguar⟩ :=
            hcommand pool.shared after (hallowed command next rfl) happly
          refine ⟨?_, by simpa [Lawful] using hguar⟩
          -- the stages fit the new state when nobody has the lock, and the old one otherwise
          by_cases hnobody : pool.holder = none
          · obtain rfl := hknown hnobody
            refine .goto after rfl (hrunning _ _ (hnext true) after (contract.fits_rely _ _ _ hrely hfits))
              (fun other thread _ hother => (hholds other thread hother).transfer
                (fun stage => contract.fits_rely stage _ _ hrely) fun hheld => ?_) (fun _ => rfl)
              (fun hnone => contract.free_rely _ _ hrely (hfree hnone))
            rw [hnobody] at hheld
            cases hheld
          · exact .goto known rfl (hrunning _ _ (hnext true) known hfits)
              (fun other thread _ hother => (hholds other thread hother).transfer
                (fun _ => id) fun _ => ⟨rfl, rfl, hrely⟩)
              (fun hnone => absurd hnone hnobody) (fun hnone => absurd hnone hnobody)
  | read next =>
      simp only [Pool.access, Option.some.injEq, Prod.mk.injEq] at hstep
      obtain ⟨rfl, rfl⟩ := hstep
      exact ⟨.goto known rfl (hrunning _ _ (hbounded pool.shared) known hfits) (fun other thread _ =>
        hholds other thread) hknown hfree, by simp⟩
  | ask question next => cases hstep

omit [DecidableEq ι] in
/-- **An access of the thread that has the lock** keeps what its stage has to keep. -/
lemma Invariant.access_locked {stage : κ} {since : σ} {script : Script σ γ A κ}
    (hinv : contract.Invariant pool)
    (hthread : pool.threads name = some (.running stage since script))
    (hlocked : program.locked stage)
    (hstep : pool.access program name stage since script = some (pool', events)) :
    contract.Invariant pool' ∧ ∀ event ∈ events, contract.Lawful event := by
  obtain ⟨⟨known, hknown, hholds⟩, hfree⟩ := hinv
  obtain ⟨hholder, rfl, hkeeps⟩ :
      pool.holder = some name ∧ since = known ∧
        contract.Keeps stage since pool.shared script := by
    simpa [Holds, hlocked] using hholds name _ hthread
  have hheld : pool.holder ≠ none := by simp [hholder]
  have hself : ∀ shared script, contract.Keeps stage since shared script →
      contract.Holds pool.holder since shared name (.running stage since script) := by
    intro shared script hscript
    simp only [Holds, hlocked, if_true]
    exact ⟨hholder, trivial, hscript⟩
  have hothers : ∀ shared other thread, other ≠ name → pool.threads other = some thread →
      contract.Holds pool.holder since shared other thread := by
    intro shared other thread hne hother
    refine (hholds other thread hother).transfer (fun _ => id) fun hother => ?_
    exact absurd (Option.some.inj (hother.symm.trans hholder)) hne
  cases script with
  | done next =>
      simp only [Pool.access, Option.some.injEq, Prod.mk.injEq] at hstep
      obtain ⟨rfl, rfl⟩ := hstep
      obtain ⟨hafter, hfits, hbond, hpost⟩ := hkeeps pool.shared (contract.rely_refl _)
      have hreleased : (pool.leave program name stage next).holder = none := by
        simp [Pool.leave, hlocked]
      refine ⟨.goto pool.shared rfl hfits ?_ (fun _ => rfl) fun _ => hafter, ?_⟩
      · intro other thread hne hother
        refine (hholds other thread hother).transfer
          (fun stage => contract.fits_bond stage _ _ hbond) fun hother => ?_
        exact absurd (Option.some.inj (hother.symm.trans hholder)) hne
      · simp [Lawful, hafter, hpost]
  | exec command next =>
      have hnext := hkeeps pool.shared (contract.rely_refl _)
      simp only [Pool.access] at hstep
      simp only [context] at hnext
      cases happly : program.apply command pool.shared with
      | none =>
          simp only [happly, Option.some.injEq, Prod.mk.injEq] at hstep hnext
          obtain ⟨rfl, rfl⟩ := hstep
          exact ⟨.goto since rfl (hself _ _ hnext) (hothers _) (fun hnone => absurd hnone hheld)
            (fun hnone => absurd hnone hheld), by simp⟩
      | some after =>
          simp only [happly, Option.some.injEq, Prod.mk.injEq] at hstep hnext
          obtain ⟨rfl, rfl⟩ := hstep
          exact ⟨.goto since rfl (hself _ _ hnext.2) (hothers _) (fun hnone => absurd hnone hheld)
            (fun hnone => absurd hnone hheld), by simpa [Lawful] using hnext.1⟩
  | read next =>
      simp only [Pool.access, Option.some.injEq, Prod.mk.injEq] at hstep
      obtain ⟨rfl, rfl⟩ := hstep
      exact ⟨.goto since rfl (hself _ _ (hkeeps pool.shared (contract.rely_refl _))) (hothers _)
        (fun hnone => absurd hnone hheld) (fun hnone => absurd hnone hheld), by simp⟩
  | ask question next => cases hstep

/-- **One step** keeps the invariant, and what it shows is right. -/
lemma Invariant.step {action : ThreadAction A κ τ} (hinv : contract.Invariant pool)
    (hallowed : contract.Allowed pool action)
    (hstep : pool.step program action = some (pool', events)) :
    contract.Invariant pool' ∧ ∀ event ∈ events, contract.Lawful event := by
  obtain ⟨⟨known, hknown, hholds⟩, hfree⟩ := id hinv
  cases action with
  | call name stage =>
      simp only [Pool.step] at hstep
      split at hstep
      · rename_i hnew
        split at hstep
        · rename_i hentry
          simp only [Option.some.injEq, Prod.mk.injEq] at hstep
          obtain ⟨rfl, rfl⟩ := hstep
          exact ⟨.goto known rfl (contract.fits_entry stage known hentry)
            (fun other thread _ => hholds other thread) hknown hfree, by simp⟩
        · cases hstep
      · cases hstep
  | enter name =>
      simp only [Pool.step] at hstep
      split at hstep
      · rename_i stage hthread
        split at hstep
        · cases hstep
        · rename_i hcan
          simp only [Option.some.injEq, Prod.mk.injEq] at hstep
          obtain ⟨rfl, rfl⟩ := hstep
          have hfits : contract.fits stage known := hholds name _ hthread
          refine ⟨?_, by simp⟩
          cases hlocked : program.locked stage with
          | true =>
              have hnobody : pool.holder = none := by simpa [hlocked] using hcan
              obtain rfl := hknown hnobody
              have htaken : (pool.begin program name stage).holder = some name := by
                simp [Pool.begin, hlocked]
              refine .goto pool.shared rfl ?_ ?_ (fun _ => rfl) (by simp [htaken])
              · simp only [Holds, hlocked, if_true]
                exact ⟨htaken, trivial, contract.keeps_locked stage _ hlocked (hfree hnobody) hfits⟩
              · intro other thread hne hother
                refine (hholds other thread hother).transfer (fun _ => id) fun hheld => ?_
                rw [hnobody] at hheld
                cases hheld
          | false =>
              have hsame : (pool.begin program name stage).holder = pool.holder := by
                simp [Pool.begin, hlocked]
              refine .goto known rfl ?_ ?_ (hsame ▸ hknown) (hsame ▸ hfree)
              · simp only [Holds, hlocked]
                exact ⟨hfits, contract.only_unlocked stage hlocked⟩
              · intro other thread _ hother
                rw [hsame]
                exact hholds other thread hother
      · cases hstep
  | advance name =>
      simp only [Pool.step] at hstep
      split at hstep
      · rename_i stage since script hthread
        cases hlocked : program.locked stage with
        | true => exact hinv.access_locked hthread hlocked hstep
        | false =>
            refine hinv.access_unlocked hthread hlocked (fun command next hscript => ?_) hstep
            subst hscript
            exact hallowed stage since command next hthread hlocked
      · cases hstep
  | answer name question answer =>
      simp only [Pool.step] at hstep
      split at hstep
      · rename_i stage since asked next hthread
        split at hstep
        · rename_i hquestion
          subst hquestion
          simp only [Option.some.injEq, Prod.mk.injEq] at hstep
          obtain ⟨rfl, rfl⟩ := hstep
          refine ⟨.goto known rfl ?_ (fun other thread _ => hholds other thread) hknown hfree,
            by simp⟩
          have hself := hholds name _ hthread
          simp only [Holds] at hself ⊢
          split
          · rename_i hlocked
            rw [if_pos hlocked] at hself
            exact ⟨hself.1, hself.2.1,
              hself.2.2 answer (hallowed stage since _ hthread hlocked)⟩
          · rename_i hunlocked
            rw [if_neg hunlocked] at hself
            exact ⟨hself.1, hself.2 answer⟩
        · cases hstep
      · cases hstep

end Step

/-! ## Whole runs -/

variable {contract}

/-- **The rule of the lock.**  In every run in which the environment answers as it may and stages
without the lock issue only what they are allowed to, what is promised while nobody has the lock
holds, and every event is right. -/
theorem lawful {init pool : Pool σ γ A κ τ} {history : List (ThreadEvent σ κ τ)}
    (hinit : contract.Invariant init)
    (hrun : program.system.Runs (fun _ pool action => contract.Allowed pool action) init
      history pool) :
    (pool.holder = none → contract.free pool.shared) ∧
      ∀ event ∈ history, contract.Lawful event := by
  have hkept := hrun.invariant
    (I := fun history pool => contract.Invariant pool ∧ ∀ event ∈ history, contract.Lawful event)
    ⟨hinit, by simp⟩ ?_
  · exact ⟨hkept.1.free, hkept.2⟩
  · rintro past pool action pool' events - ⟨hinv, hpast⟩ hallowed hstep
    obtain ⟨hinv', hevents⟩ := hinv.step hallowed hstep
    refine ⟨hinv', fun event hevent => ?_⟩
    rcases List.mem_append.mp hevent with hevent | hevent
    · exact hpast event hevent
    · exact hevents event hevent

omit [DecidableEq τ] [DecidableEq ι] in
/-- The invariant of threads that have not begun. -/
lemma Invariant.start {pool : Pool σ γ A κ τ}
    (hfree : contract.free pool.shared)
    (hthreads : ∀ name thread, pool.threads name = some thread →
      ∃ stage, thread = .resting stage ∧ contract.fits stage pool.shared) :
    contract.Invariant pool := by
  refine ⟨⟨pool.shared, fun _ => rfl, fun name thread hthread => ?_⟩, fun _ => hfree⟩
  obtain ⟨stage, rfl, hfits⟩ := hthreads name thread hthread
  exact hfits

end Contract

end Foundation
