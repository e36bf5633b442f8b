import Mathlib.Tactic.Lemma

/-!
# Plans that are cut at the first failure

An action over a state makes calls one after another until one of them fails, and the state keeps a
log of the calls with their answers.  A plan is the list of calls the action makes when none fails.

* `Cut` — the entries that a plan leaves in a log, with the failure that cut it.
* `Follows` — the action makes the calls of a plan and reports the failure that cut it.
* `follows_pure`, `follows_bind`, `follows_forM`, `follows_of_entry` — the rules;
  `result_bind` is the rule for what is returned.

Nothing here knows what the calls are or what they do.
-/

namespace Foundation.Plan

variable {γ ε η τ α β ι : Type}

section

variable (call : η → γ) (failure : η → Option ε)

/-- The entries of a plan: all of its calls, or those up to the first that failed. -/
inductive Cut : List γ → List η → Option ε → Prop
  | finished : Cut [] [] none
  | failed {c : γ} {entry : η} {error : ε} {plan : List γ} :
      call entry = c → failure entry = some error → Cut (c :: plan) [entry] (some error)
  | went {c : γ} {entry : η} {plan : List γ} {made : List η} {outcome : Option ε} :
      call entry = c → failure entry = none → Cut plan made outcome →
        Cut (c :: plan) (entry :: made) outcome

end

variable {call : η → γ} {failure : η → Option ε}

/-- Nothing but calls of the plan is made, in its order. -/
lemma Cut.calls_prefix {plan : List γ} {made : List η} {outcome : Option ε}
    (hcut : Cut call failure plan made outcome) : made.map call <+: plan := by
  induction hcut with
  | finished => exact List.prefix_rfl
  | failed hcall => exact List.cons_prefix_cons.mpr ⟨hcall, List.nil_prefix⟩
  | went hcall _ _ ih => exact List.cons_prefix_cons.mpr ⟨hcall, ih⟩

/-- A plan that is not cut is carried out whole. -/
lemma Cut.calls_eq {plan : List γ} {made : List η} (hcut : Cut call failure plan made none) :
    made.map call = plan := by
  generalize houtcome : (none : Option ε) = outcome at hcut
  induction hcut with
  | finished => rfl
  | failed => cases houtcome
  | went hcall _ _ ih => rw [List.map_cons, hcall, ih houtcome]

/-- A plan is cut exactly when a call of it fails. -/
lemma Cut.outcome_eq_none_iff {plan : List γ} {made : List η} {outcome : Option ε}
    (hcut : Cut call failure plan made outcome) :
    outcome = none ↔ ∀ entry ∈ made, failure entry = none := by
  induction hcut with
  | finished => simp
  | failed _ hfailure => simp [hfailure]
  | went _ hwent _ ih => simp [hwent, ih]

/-- One plan after another. -/
lemma Cut.append {first rest : List γ} {made more : List η} {outcome : Option ε}
    (hfirst : Cut call failure first made none) (hrest : Cut call failure rest more outcome) :
    Cut call failure (first ++ rest) (made ++ more) outcome := by
  generalize hnone : (none : Option ε) = cut at hfirst
  induction hfirst with
  | finished => exact hrest
  | failed => cases hnone
  | went hcall hwent _ ih => exact .went hcall hwent (ih hnone)

/-- What would have come after the cut does not matter. -/
lemma Cut.of_cut {first : List γ} {made : List η} {error : ε}
    (hfirst : Cut call failure first made (some error)) (rest : List γ) :
    Cut call failure (first ++ rest) made (some error) := by
  generalize hsome : some error = cut at hfirst
  induction hfirst with
  | finished => cases hsome
  | failed hcall hfailure =>
      cases hsome
      exact .failed hcall hfailure
  | went hcall hwent _ ih => exact .went hcall hwent (ih hsome)

/-! ## Actions that follow a plan -/

/-- The failure of a result. -/
def errorOf : Except ε α → Option ε
  | .ok _ => none
  | .error error => some error

variable (log : τ → List η) (call failure)

/-- The action makes the calls of the plan until one fails, and then fails as that call did. -/
def Follows (plan : List γ) (action : ExceptT ε (StateM τ) α) : Prop :=
  ∀ t, ∃ made, log (action.run t).2 = log t ++ made ∧
    Cut call failure plan made (errorOf (action.run t).1)

variable {log call failure}

lemma follows_pure (a : α) : Follows call failure log [] (pure a : ExceptT ε (StateM τ) α) := by
  intro t
  exact ⟨[], (List.append_nil _).symm, .finished⟩

/-- An action that makes a single call. -/
lemma follows_of_entry {c : γ} {action : ExceptT ε (StateM τ) α} (entryOf : τ → η)
    (hcall : ∀ t, call (entryOf t) = c)
    (hlog : ∀ t, log (action.run t).2 = log t ++ [entryOf t])
    (hfailure : ∀ t, failure (entryOf t) = errorOf (action.run t).1) :
    Follows call failure log [c] action := by
  intro t
  refine ⟨[entryOf t], hlog t, ?_⟩
  rw [← hfailure t]
  cases hentry : failure (entryOf t) with
  | none => exact .went (hcall t) hentry .finished
  | some error => exact .failed (hcall t) hentry

/-- One action after another, in a state. -/
private lemma run_bind_apply (action : ExceptT ε (StateM τ) α) (next : α → ExceptT ε (StateM τ) β)
    (t : τ) :
    (action >>= next).run t = match action.run t with
      | (.ok a, u) => (next a).run u
      | (.error error, u) => (.error error, u) := by
  show ExceptT.bindCont next (action.run t).1 (action.run t).2 = _
  rcases action.run t with ⟨result, u⟩
  cases result <;> rfl

lemma follows_bind {first rest : List γ} {action : ExceptT ε (StateM τ) α}
    {next : α → ExceptT ε (StateM τ) β} (hfirst : Follows call failure log first action)
    (hrest : ∀ a, Follows call failure log rest (next a)) :
    Follows call failure log (first ++ rest) (action >>= next) := by
  intro t
  rcases hfirst t with ⟨made, hlog, hcut⟩
  rw [run_bind_apply]
  rcases hrun : action.run t with ⟨result, u⟩
  simp only [hrun] at hlog hcut
  cases result with
  | error error => exact ⟨made, hlog, hcut.of_cut rest⟩
  | ok a =>
      rcases hrest a u with ⟨more, hlog', hcut'⟩
      exact ⟨made ++ more, by rw [hlog', hlog, List.append_assoc], hcut.append hcut'⟩

/-- What an action returns is returned by its last part. -/
lemma result_bind {P : β → Prop} {action : ExceptT ε (StateM τ) α}
    {next : α → ExceptT ε (StateM τ) β} (hnext : ∀ a t b, ((next a).run t).1 = .ok b → P b)
    {t : τ} {b : β} (hrun : ((action >>= next).run t).1 = .ok b) : P b := by
  rw [run_bind_apply] at hrun
  rcases haction : action.run t with ⟨result, u⟩
  rw [haction] at hrun
  cases result with
  | error error => cases hrun
  | ok a => exact hnext a u b hrun

/-- A loop follows the plans of its rounds, one after another. -/
lemma follows_forM {items : List ι} {round : ι → List γ}
    {body : ι → ExceptT ε (StateM τ) PUnit}
    (hbody : ∀ item ∈ items, Follows call failure log (round item) (body item)) :
    Follows call failure log (items.flatMap round) (items.forM body) := by
  induction items with
  | nil => exact follows_pure _
  | cons item items ih =>
      rw [List.forall_mem_cons] at hbody
      exact follows_bind hbody.1 fun _ => ih hbody.2

end Foundation.Plan
