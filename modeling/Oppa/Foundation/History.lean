import Mathlib.Data.List.Basic
import Mathlib.Data.List.Induction
import Mathlib.Tactic.Lemma

/-!
# Labelled systems and the histories of their runs

A `System` is a deterministic machine that answers each action with a new state and the list of
effects an observer sees; `none` means that the action is not enabled.  All nondeterminism
(scheduling, faults, the answers of the environment) is in the choice of the actions.

* `System.Runs ok init h s` — `s` is reached from `init` by steps that all meet `ok`, and `h` is the
  list of every effect produced on the way, oldest first.
* `System.Runs.invariant` — the induction rule: what holds at the start and is kept by one step
  holds after every run.
* `latest f h` — what the last effect of `h` that `f` reads says.
* `Standing a R h` — the effect `a` happened and nothing after it revoked it.
* `EachAfter P h` — every effect of `h` stands in the relation `P` to the effects before it.  Safety
  laws about runs ("no report after the acknowledgement") are statements of this form.

Nothing here knows what the states, actions and effects are.
-/

namespace History

variable {σ α ε : Type*}

/-- A machine that answers an action with a state and the effects it shows. -/
structure System (σ α ε : Type*) where
  step : σ → α → Option (σ × List ε)

/-- A condition on the steps of a run: it sees the history so far, the state and the action. -/
abbrev StepCondition (σ α ε : Type*) := List ε → σ → α → Prop

/-- The condition that every step meets. -/
def anyStep : StepCondition σ α ε := fun _ _ _ => True

namespace System

variable (sys : System σ α ε)

/-- The runs of a system whose every step meets `ok`, with the history they leave. -/
inductive Runs (ok : StepCondition σ α ε) (init : σ) : List ε → σ → Prop
  | start : Runs ok init [] init
  | step {h : List ε} {s s' : σ} {a : α} {es : List ε} :
      Runs ok init h s → ok h s a → sys.step s a = some (s', es) → Runs ok init (h ++ es) s'

variable {sys} {ok : StepCondition σ α ε} {init : σ}

/-- **The invariant rule.**  The step may use that the state it starts from is itself reached. -/
theorem Runs.invariant {I : List ε → σ → Prop} (hinit : I [] init)
    (hstep : ∀ h s a s' es, sys.Runs ok init h s → I h s → ok h s a →
      sys.step s a = some (s', es) → I (h ++ es) s')
    {h : List ε} {s : σ} (hrun : sys.Runs ok init h s) : I h s := by
  induction hrun with
  | start => exact hinit
  | step hrun hok hs ih => exact hstep _ _ _ _ _ hrun ih hok hs

/-- A run that meets a condition meets every weaker one. -/
theorem Runs.weaken {ok' : StepCondition σ α ε} (hw : ∀ h s a, ok h s a → ok' h s a)
    {h : List ε} {s : σ} (hrun : sys.Runs ok init h s) : sys.Runs ok' init h s := by
  induction hrun with
  | start => exact .start
  | step _ hok hs ih => exact ih.step (hw _ _ _ hok) hs

theorem Runs.toAny {h : List ε} {s : σ} (hrun : sys.Runs ok init h s) :
    sys.Runs anyStep init h s := hrun.weaken fun _ _ _ _ => trivial

/-- A run of a machine is one of every machine that takes its steps. -/
theorem Runs.mono {other : System σ α ε}
    (hsteps : ∀ s a result, sys.step s a = some result → other.step s a = some result)
    {h : List ε} {s : σ} (hrun : sys.Runs ok init h s) : other.Runs ok init h s := by
  induction hrun with
  | start => exact .start
  | step _ hok hs ih => exact ih.step hok (hsteps _ _ _ hs)

variable (sys)

/-- Executes a list of actions, checking each step; the history is threaded through. -/
def exec (check : List ε → σ → α → Bool) : List ε → σ → List α → Option (List ε × σ)
  | h, s, [] => some (h, s)
  | h, s, a :: as =>
    if check h s a then
      match sys.step s a with
      | some (s', es) => exec check (h ++ es) s' as
      | none => none
    else none

variable {sys}

/-- An execution that succeeds is a run. -/
theorem Runs.exec {check : List ε → σ → α → Bool} (hcheck : ∀ h s a, check h s a → ok h s a) :
    ∀ {as : List α} {h h' : List ε} {s s' : σ}, sys.Runs ok init h s →
      sys.exec check h s as = some (h', s') → sys.Runs ok init h' s'
  | [], h, h', s, s', hrun, he => by
      simp only [System.exec, Option.some.injEq, Prod.mk.injEq] at he
      obtain ⟨rfl, rfl⟩ := he
      exact hrun
  | a :: as, h, h', s, s', hrun, he => by
      simp only [System.exec] at he
      split at he
      · rename_i hc
        split at he
        · rename_i s₁ es hs
          exact Runs.exec hcheck (hrun.step (hcheck _ _ _ hc) hs) he
        · cases he
      · cases he

variable (sys)

/-- The history and the state after a list of actions, as far as all of them are performed. -/
def run (check : List ε → σ → α → Bool) (init : σ) (as : List α) : List ε × σ :=
  (sys.exec check [] init as).getD ([], init)

variable {sys}

/-- What a list of actions leads to is reached by a run. -/
theorem runs_run {check : List ε → σ → α → Bool} (hcheck : ∀ h s a, check h s a → ok h s a)
    (as : List α) : sys.Runs ok init (sys.run check init as).1 (sys.run check init as).2 := by
  unfold run
  cases hexec : sys.exec check [] init as with
  | none => exact .start
  | some r => exact Runs.exec hcheck .start hexec

end System

/-! ## Laws about every effect of a history and its past -/

/-- Every effect of `h` stands in the relation `P` to the effects before it. -/
def EachAfter (P : List ε → ε → Prop) (h : List ε) : Prop :=
  ∀ h₁ e h₂, h = h₁ ++ e :: h₂ → P h₁ e

@[simp] lemma eachAfter_nil (P : List ε → ε → Prop) : EachAfter P [] := by
  intro h₁ e h₂ h
  simp at h

lemma eachAfter_append {P : List ε → ε → Prop} {h es : List ε} :
    EachAfter P (h ++ es) ↔ EachAfter P h ∧ EachAfter (fun past e => P (h ++ past) e) es := by
  constructor
  · intro H
    refine ⟨fun h₁ e h₂ heq => H h₁ e (h₂ ++ es) (by simp [heq]), fun h₁ e h₂ heq => ?_⟩
    exact H (h ++ h₁) e h₂ (by simp [heq])
  · rintro ⟨H₁, H₂⟩ h₁ e h₂ heq
    -- the effect lies either in the old history or among the new effects
    rcases List.append_eq_append_iff.mp heq with ⟨mid, rfl, hes⟩ | ⟨mid, hh, hmid⟩
    · exact H₂ mid e h₂ hes
    · cases mid with
      | nil =>
          simp only [List.append_nil] at hh
          subst hh
          simpa using H₂ [] e h₂ (by simpa using hmid.symm)
      | cons x mid =>
          simp only [List.cons_append, List.cons.injEq] at hmid
          obtain ⟨rfl, -⟩ := hmid
          exact H₁ h₁ e mid hh

@[simp] lemma eachAfter_cons {P : List ε → ε → Prop} {x : ε} {es : List ε} :
    EachAfter P (x :: es) ↔ P [] x ∧ EachAfter (fun past e => P (x :: past) e) es := by
  constructor
  · intro H
    refine ⟨H [] x es rfl, fun h₁ e h₂ heq => H (x :: h₁) e h₂ (by simp [heq])⟩
  · rintro ⟨hx, H⟩ h₁ e h₂ heq
    cases h₁ with
    | nil =>
        simp only [List.nil_append, List.cons.injEq] at heq
        obtain ⟨rfl, -⟩ := heq
        exact hx
    | cons y h₁ =>
        simp only [List.cons_append, List.cons.injEq] at heq
        obtain ⟨rfl, rfl⟩ := heq
        exact H h₁ e h₂ rfl

lemma EachAfter.mono {P Q : List ε → ε → Prop} (hPQ : ∀ past e, P past e → Q past e)
    {h : List ε} (H : EachAfter P h) : EachAfter Q h :=
  fun h₁ e h₂ heq => hPQ _ _ (H h₁ e h₂ heq)

/-- A law about single effects can be checked on a history. -/
instance decidableEachAfter : {P : List ε → ε → Prop} → [∀ past e, Decidable (P past e)] →
    (h : List ε) → Decidable (EachAfter P h)
  | P, _, [] => isTrue (eachAfter_nil P)
  | P, _, x :: es =>
    have : Decidable (EachAfter (fun past e => P (x :: past) e) es) := decidableEachAfter es
    decidable_of_iff _ eachAfter_cons.symm

/-- Effects that a law does not speak about keep it. -/
lemma eachAfter_of_forall {P : List ε → ε → Prop} {es : List ε}
    (H : ∀ past, ∀ e ∈ es, P past e) : EachAfter P es := by
  intro h₁ e h₂ heq
  exact H h₁ e (by simp [heq])

/-- What a law allows only once is in a history only once. -/
lemma EachAfter.unique {P : List ε → ε → Prop} {q : ε → Prop} {h : List ε} (H : EachAfter P h)
    (hP : ∀ past e, P past e → q e → ∀ x ∈ past, ¬ q x) {x y : ε} (hx : x ∈ h) (hy : y ∈ h)
    (hqx : q x) (hqy : q y) : x = y := by
  rcases List.append_of_mem hx with ⟨before, after, rfl⟩
  rcases List.mem_append.mp hy with hearlier | hlater
  · exact absurd hqy (hP before x (H _ _ _ rfl) hqx y hearlier)
  · rcases List.mem_cons.mp hlater with rfl | hrest
    · rfl
    · rcases List.append_of_mem hrest with ⟨mid, last, rfl⟩
      refine absurd hqx (hP (before ++ x :: mid) y (H _ _ last ?_) hqy x (by simp))
      simp

/-! ## The last effect of a kind -/

/-- What `f` reads from the last effect of `h` that it reads anything from. -/
def latest {β : Type*} (f : ε → Option β) (h : List ε) : Option β := h.reverse.findSome? f

variable {β : Type*} {f : ε → Option β}

@[simp] lemma latest_nil : latest f [] = none := rfl

lemma latest_append {h es : List ε} :
    latest f (h ++ es) = (latest f es).or (latest f h) := by
  simp [latest, List.findSome?_append]

/-- Effects that `f` reads nothing from leave the last reading alone. -/
lemma latest_append_of_none {h es : List ε} (hes : ∀ e ∈ es, f e = none) :
    latest f (h ++ es) = latest f h := by
  have hnone : latest f es = none := by
    simpa [latest, List.findSome?_eq_none_iff] using hes
  rw [latest_append, hnone, Option.none_or]

/-- A reading that no later effect contradicts stays. -/
lemma latest_append_of_agree {h es : List ε} {b : β} (hb : latest f h = some b)
    (hes : ∀ e ∈ es, f e = none ∨ f e = some b) : latest f (h ++ es) = some b := by
  rw [latest_append]
  cases hlast : latest f es with
  | none => rw [Option.none_or, hb]
  | some b' =>
      obtain ⟨e, he, hread⟩ := List.exists_of_findSome?_eq_some hlast
      rcases hes e (List.mem_reverse.mp he) with hnone | hsome
      · rw [hnone] at hread
        cases hread
      · rw [hsome] at hread
        cases hread
        rfl

/-- A reading that no later effect makes was made before, and nothing was read since. -/
lemma latest_of_append {h es : List ε} {b : β} (hb : latest f (h ++ es) = some b)
    (hes : ∀ e ∈ es, f e ≠ some b) : latest f h = some b ∧ ∀ e ∈ es, f e = none := by
  rw [latest_append] at hb
  cases hlast : latest f es with
  | none =>
      rw [hlast, Option.none_or] at hb
      refine ⟨hb, fun e he => ?_⟩
      exact List.findSome?_eq_none_iff.mp hlast e (List.mem_reverse.mpr he)
  | some b' =>
      obtain ⟨e, he, hread⟩ := List.exists_of_findSome?_eq_some hlast
      rw [hlast, Option.some_or] at hb
      exact absurd (hread.trans hb) (hes e (List.mem_reverse.mp he))

@[simp] lemma latest_concat_of_some {h : List ε} {e : ε} {b : β} (hb : f e = some b) :
    latest f (h ++ [e]) = some b := by
  simp [latest, hb]

/-! ## Effects that still stand -/

/-- The effect `a` is in the history, with no effect after it that revokes it. -/
def Standing (a : ε) (revokes : ε → Prop) (h : List ε) : Prop :=
  ∃ h₁ h₂, h = h₁ ++ a :: h₂ ∧ ∀ e ∈ h₂, ¬ revokes e

variable {a : ε} {revokes : ε → Prop}

@[simp] lemma not_standing_nil : ¬ Standing a revokes [] := by
  rintro ⟨h₁, h₂, h, -⟩
  simp at h

/-- One more effect either is `a` itself, or has to leave what stood standing. -/
lemma standing_concat {h : List ε} {e : ε} :
    Standing a revokes (h ++ [e]) ↔ e = a ∨ (Standing a revokes h ∧ ¬ revokes e) := by
  constructor
  · rintro ⟨h₁, h₂, heq, hrev⟩
    rcases List.eq_nil_or_concat h₂ with rfl | ⟨h₂, last, rfl⟩
    · obtain ⟨-, he⟩ := List.append_inj' heq rfl
      exact Or.inl (List.cons.inj he).1
    · rw [List.concat_eq_append] at heq hrev
      rw [← List.cons_append, ← List.append_assoc] at heq
      obtain ⟨hh, he⟩ := List.append_inj' heq rfl
      obtain rfl := (List.cons.inj he).1
      exact Or.inr ⟨⟨h₁, h₂, hh, fun x hx => hrev x (List.mem_append_left _ hx)⟩,
        hrev e (by simp)⟩
  · rintro (rfl | ⟨⟨h₁, h₂, rfl, hrev⟩, he⟩)
    · exact ⟨h, [], by simp, by simp⟩
    · refine ⟨h₁, h₂ ++ [e], by simp, fun x hx => ?_⟩
      rcases List.mem_append.mp hx with hx | hx
      · exact hrev x hx
      · rwa [List.mem_singleton.mp hx]

/-- What stands at the end of a history happened at the end, or stood before and still does. -/
lemma mem_or_standing_of_append {h es : List ε} (hs : Standing a revokes (h ++ es)) :
    a ∈ es ∨ (Standing a revokes h ∧ ∀ e ∈ es, ¬ revokes e) := by
  induction es using List.reverseRecOn with
  | nil => exact Or.inr ⟨by simpa using hs, by simp⟩
  | append_singleton es e ih =>
      rw [← List.append_assoc, standing_concat] at hs
      rcases hs with rfl | ⟨hold, hnot⟩
      · exact Or.inl (by simp)
      · rcases ih hold with hmem | ⟨hh, hrev⟩
        · exact Or.inl (List.mem_append_left _ hmem)
        · refine Or.inr ⟨hh, fun x hx => ?_⟩
          rcases List.mem_append.mp hx with hx | hx
          · exact hrev x hx
          · rwa [List.mem_singleton.mp hx]

end History
