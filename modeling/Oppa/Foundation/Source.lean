import Oppa.Foundation.Result

/-!
# Steps that consume an input

A reader holds what is left of its input.  A step of it is local when its success depends on the
part of the input that it takes, and on nothing behind it.

* `Source` — states that hold an input; a pair holds the one of its second component.
* `Local` — the steps: they take a prefix, and succeed alike whatever is behind it.
* `Local.error`, `Local.pure`, `Local.bind`, `Local.beside`, `Local.ite` — such steps are closed
  under sequence and branching.
-/

/-- States that hold what is left of an input. -/
class Source (σ : Type) (β : outParam Type) where
  /-- What is left. -/
  rest : σ → List β
  /-- How much was taken before. -/
  position : σ → ℕ
  /-- The state with another input. -/
  leave : List β → σ → σ
  rest_leave : ∀ bs s, rest (leave bs s) = bs
  position_leave : ∀ bs s, position (leave bs s) = position s
  leave_leave : ∀ bs cs s, leave bs (leave cs s) = leave bs s
  leave_rest : ∀ s, leave (rest s) s = s

namespace Source

open Result

variable {σ τ υ α β ε : Type} [Source σ β] [Source τ β] [Source υ β]

attribute [simp] rest_leave position_leave leave_leave leave_rest

/-- A state beside a value. -/
instance beside : Source (α × σ) β where
  rest s := rest s.2
  position s := position s.2
  leave bs s := (s.1, leave bs s.2)
  rest_leave _ _ := rest_leave ..
  position_leave _ _ := position_leave ..
  leave_leave _ _ _ := by simp
  leave_rest _ := by simp

@[simp] lemma rest_mk {a : α} {s : σ} : rest (a, s) = rest s := rfl

@[simp] lemma position_mk {a : α} {s : σ} : position (a, s) = position s := rfl

@[simp] lemma leave_mk {bs : List β} {a : α} {s : σ} : leave bs (a, s) = (a, leave bs s) := rfl

/-- The state with more input behind the one it holds. -/
def append (bs : List β) (s : σ) : σ := leave (rest s ++ bs) s

@[simp] lemma rest_append {bs : List β} {s : σ} : rest (append bs s) = rest s ++ bs :=
  rest_leave ..

/-- **A step that depends on what it takes**: whatever is behind that stays behind it. -/
def Local (f : σ → Except ε τ) : Prop :=
  ∀ s t, f s = .ok t → ∃ taken, rest s = taken ++ rest t ∧
    position t = position s + taken.length ∧
    ∀ after, f (leave (taken ++ after) s) = .ok (leave after t)

/-! ## The steps that are local -/

lemma Local.error {failure : σ → ε} : Local (fun s : σ => (.error (failure s) : Except ε τ)) :=
  fun _ _ h => nomatch h

/-- A step that takes nothing and does not look at the input. -/
lemma Local.aside {f : σ → Except ε τ}
    (hstays : ∀ s t, f s = .ok t → rest t = rest s ∧ position t = position s)
    (hleave : ∀ bs s t, f s = .ok t → f (leave bs s) = .ok (leave bs t)) : Local f := by
  intro s t h
  exact ⟨[], (hstays s t h).1.symm, (hstays s t h).2, fun after => hleave after s t h⟩

lemma Local.pure {f : σ → τ} (hrest : ∀ s, rest (f s) = rest s)
    (hposition : ∀ s, position (f s) = position s)
    (hleave : ∀ bs s, f (leave bs s) = leave bs (f s)) :
    Local (fun s : σ => (.ok (f s) : Except ε τ)) := by
  refine .aside (fun s t h => ?_) (fun bs s t h => ?_) <;> cases h
  · exact ⟨hrest s, hposition s⟩
  · exact congrArg Except.ok (hleave bs s)

lemma Local.bind {f : σ → Except ε τ} {g : τ → Except ε υ} (hf : Local f) (hg : Local g) :
    Local fun s => f s >>= g := by
  intro s u h
  rcases bind_eq_ok.mp h with ⟨t, hst, htu⟩
  rcases hf s t hst with ⟨first, hfirst, hmoved, hfirst'⟩
  rcases hg t u htu with ⟨next, hnext, hmoved', hnext'⟩
  refine ⟨first ++ next, by rw [hfirst, hnext, List.append_assoc], ?_, fun after => ?_⟩
  · rw [hmoved', hmoved, List.length_append, Nat.add_assoc]
  · rw [List.append_assoc]
    exact bind_eq_ok.mpr ⟨_, hfirst' (next ++ after), by simpa using hnext' after⟩

/-- The value beside a state may decide what follows. -/
lemma Local.beside {g : α × σ → Except ε τ} (hg : ∀ a, Local fun s => g (a, s)) : Local g :=
  fun ⟨a, s⟩ t h => hg a s t h

lemma Local.ite {c : Prop} [Decidable c] {f g : σ → Except ε τ} (hf : Local f) (hg : Local g) :
    Local fun s => if c then f s else g s := by
  by_cases hc : c
  · simpa only [hc, if_true] using hf
  · simpa only [hc, if_false] using hg

end Source
