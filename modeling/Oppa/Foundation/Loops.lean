import Mathlib.Data.Set.Lattice
import Mathlib.Logic.Function.Iterate
import Oppa.Foundation.Result

/-!
# Loops of fallible steps

Rules for loops over a list whose turns may fail.

* `carry` — a turn of a loop that carries a counter.
* `Keeps` — steps that lead from good states to good ones, where they succeed.
* `Preserves` — runs that succeed from every good state, in a good state.
* `Accrues` — such runs that also add to the set that is seen in a state.
-/

namespace Loops

open Result Set

variable {σ ι ε α : Type}

/-- One turn of a loop that carries a counter beside its state. -/
def carry (step : σ → ℕ → ι → Except ε σ) (move : ℕ → ℕ) (at' : σ × ℕ) (i : ι) :
    Except ε (σ × ℕ) := do
  let s ← step at'.1 at'.2 i
  return (s, move at'.2)

lemma carry_eq_ok {step : σ → ℕ → ι → Except ε σ} {move : ℕ → ℕ} {s t : σ} {n m : ℕ} {i : ι} :
    carry step move (s, n) i = .ok (t, m) ↔ step s n i = .ok t ∧ move n = m := by
  simp only [carry, bind_eq_ok, pure_eq_ok, Prod.mk.injEq]
  constructor
  · rintro ⟨u, hu, rfl, rfl⟩
    exact ⟨hu, rfl⟩
  · rintro ⟨ht, rfl⟩
    exact ⟨t, ht, rfl, rfl⟩

/-! ## Steps that keep a property -/

section Keeps

variable {τ υ : Type} {good : σ → Prop} {good' : τ → Prop} {good'' : υ → Prop}

/-- **Where the step succeeds, it leads from good states to good ones.** -/
def Keeps (good : σ → Prop) (good' : τ → Prop) (step : σ → Except ε τ) : Prop :=
  ∀ s t, good s → step s = .ok t → good' t

lemma Keeps.error {failure : σ → ε} :
    Keeps good good' fun s => (.error (failure s) : Except ε τ) :=
  fun _ _ _ h => nomatch h

lemma Keeps.pure {move : σ → τ} (hmove : ∀ s, good s → good' (move s)) :
    Keeps good good' fun s => (.ok (move s) : Except ε τ) := by
  intro s t hs h
  cases h
  exact hmove s hs

lemma Keeps.bind {first : σ → Except ε τ} {next : τ → Except ε υ}
    (hfirst : Keeps good good' first) (hnext : Keeps good' good'' next) :
    Keeps good good'' fun s => first s >>= next := by
  intro s u hs h
  rcases (bind_eq_ok).mp h with ⟨t, ht, hu⟩
  exact hnext t u (hfirst s t hs ht) hu

/-- The value beside a state may decide what follows. -/
lemma Keeps.beside {next : α × σ → Except ε τ}
    (hnext : ∀ a, Keeps good good' fun s => next (a, s)) :
    Keeps (fun pair : α × σ => good pair.2) good' next :=
  fun ⟨a, s⟩ t hs h => hnext a s t hs h

lemma Keeps.ite {condition : Prop} [Decidable condition] {first next : σ → Except ε τ}
    (hfirst : Keeps good good' first) (hnext : Keeps good good' next) :
    Keeps good good' fun s => if condition then first s else next s := by
  intro s t hs h
  split at h
  · exact hfirst s t hs h
  · exact hnext s t hs h

end Keeps

/-! ## Runs that preserve a property -/

/-- **From every good state the run succeeds, in a good state.** -/
def Preserves (good : σ → Prop) (run : σ → Except ε σ) : Prop :=
  ∀ s, good s → ∃ t, run s = .ok t ∧ good t

variable {good : σ → Prop}

lemma Preserves.skip : Preserves good (fun s => (.ok s : Except ε σ)) := fun s hs => ⟨s, rfl, hs⟩

lemma Preserves.andThen {first next : σ → Except ε σ} (hfirst : Preserves good first)
    (hnext : Preserves good next) : Preserves good fun s => first s >>= next := by
  intro s hs
  obtain ⟨t, ht, hgood⟩ := hfirst s hs
  obtain ⟨u, hu, hgood'⟩ := hnext t hgood
  exact ⟨u, (bind_eq_ok).mpr ⟨t, ht, hu⟩, hgood'⟩

/-- A step that is taken under a condition. -/
lemma Preserves.when {run : σ → Except ε σ} {condition : Prop} [Decidable condition]
    (hrun : condition → Preserves good run) :
    Preserves good fun s => if condition then run s else .ok s := by
  intro s hs
  by_cases hcondition : condition
  · obtain ⟨t, ht, hgood⟩ := hrun hcondition s hs
    exact ⟨t, (if_pos hcondition).trans ht, hgood⟩
  · exact ⟨s, if_neg hcondition, hs⟩

/-- A loop whose turns preserve a property. -/
lemma Preserves.forEach {step : σ → ι → Except ε σ} {items : List ι}
    (hstep : ∀ i ∈ items, Preserves good fun s => step s i) :
    Preserves good fun s => items.foldlM step s := by
  induction items with
  | nil => exact Preserves.skip
  | cons i items ih =>
      rw [List.forall_mem_cons] at hstep
      intro s hs
      obtain ⟨next, hnext, hgood⟩ := hstep.1 s hs
      obtain ⟨t, ht, hgood'⟩ := ih hstep.2 next hgood
      exact ⟨t, (bind_eq_ok).mpr ⟨next, hnext, ht⟩, hgood'⟩

/-- A loop that carries a counter moves it once in every turn. -/
lemma Preserves.sweep {step : σ → ℕ → ι → Except ε σ} (move : ℕ → ℕ) {items : List ι}
    (hstep : ∀ n, ∀ i ∈ items, Preserves good fun s => step s n i) {s : σ} (start : ℕ)
    (hs : good s) :
    ∃ t, items.foldlM (carry step move) (s, start) = .ok (t, move^[items.length] start) ∧
      good t := by
  induction items generalizing s start with
  | nil => exact ⟨s, rfl, hs⟩
  | cons i items ih =>
      obtain ⟨next, hnext, hgood⟩ := hstep start i List.mem_cons_self s hs
      obtain ⟨t, ht, hgood'⟩ :=
        ih (fun n j hj => hstep n j (List.mem_cons_of_mem _ hj)) (move start) hgood
      refine ⟨t, ?_, hgood'⟩
      rw [List.foldlM_cons, bind_eq_ok]
      exact ⟨(next, move start), carry_eq_ok.mpr ⟨hnext, rfl⟩, ht⟩

/-! ## Runs that add to a set -/

/-- **From every good state the run succeeds, in a good state, and what is seen there is what was
seen before together with a given set.** -/
def Accrues (good : σ → Prop) (seen : σ → Set α) (more : Set α) (run : σ → Except ε σ) : Prop :=
  ∀ s, good s → ∃ t, run s = .ok t ∧ good t ∧ seen t = seen s ∪ more

variable {seen : σ → Set α} {more : Set α}

lemma Accrues.skip : Accrues good seen ∅ (fun s => (.ok s : Except ε σ)) := by
  intro s hs
  exact ⟨s, rfl, hs, (union_empty _).symm⟩

lemma Accrues.andThen {more' : Set α} {first next : σ → Except ε σ}
    (hfirst : Accrues good seen more first) (hnext : Accrues good seen more' next) :
    Accrues good seen (more ∪ more') fun s => first s >>= next := by
  intro s hs
  obtain ⟨t, ht, hgood, hseen⟩ := hfirst s hs
  obtain ⟨u, hu, hgood', hseen'⟩ := hnext t hgood
  exact ⟨u, (bind_eq_ok).mpr ⟨t, ht, hu⟩, hgood', by rw [hseen', hseen, union_assoc]⟩

/-- A step that is taken under a condition. -/
lemma Accrues.when {run : σ → Except ε σ} {condition : Prop} [Decidable condition]
    (hrun : condition → Accrues good seen more run) :
    Accrues good seen {a | condition ∧ a ∈ more} fun s => if condition then run s else .ok s := by
  intro s hs
  by_cases hcondition : condition
  · obtain ⟨t, ht, hgood, hseen⟩ := hrun hcondition s hs
    refine ⟨t, ?_, hgood, ?_⟩
    · show (if condition then run s else .ok s) = .ok t
      rw [if_pos hcondition, ht]
    · simp [hcondition, hseen]
  · refine ⟨s, if_neg hcondition, hs, ?_⟩
    simp [hcondition]

/-- A loop adds what its turns add. -/
lemma Accrues.forEach {step : σ → ι → Except ε σ} {added : ι → Set α} {items : List ι}
    (hstep : ∀ i ∈ items, Accrues good seen (added i) fun s => step s i) :
    Accrues good seen {a | ∃ i ∈ items, a ∈ added i} fun s => items.foldlM step s := by
  induction items with
  | nil =>
      intro s hs
      exact ⟨s, rfl, hs, by simp⟩
  | cons i items ih =>
      rw [List.forall_mem_cons] at hstep
      intro s hs
      obtain ⟨next, hnext, hgood, hseen⟩ := hstep.1 s hs
      obtain ⟨t, ht, hgood', hseen'⟩ := ih hstep.2 next hgood
      refine ⟨t, ?_, hgood', ?_⟩
      · exact (bind_eq_ok).mpr ⟨next, hnext, ht⟩
      · rw [hseen', hseen]
        ext a
        simp [or_assoc]

/-- A loop that carries a counter: turn `n` adds what it adds at the counter moved `n` times. -/
lemma Accrues.sweep {step : σ → ℕ → ι → Except ε σ} {move : ℕ → ℕ} {added : ℕ → ι → Set α}
    {items : List ι} {start : ℕ}
    (hstep : ∀ n (hn : n < items.length), Accrues good seen
      (added (move^[n] start) items[n]) fun s => step s (move^[n] start) items[n])
    {s : σ} (hs : good s) :
    ∃ t, items.foldlM (carry step move) (s, start) = .ok (t, move^[items.length] start) ∧ good t ∧
      seen t = seen s ∪ {a | ∃ n, ∃ hn : n < items.length, a ∈ added (move^[n] start) items[n]} := by
  induction items generalizing s start with
  | nil => exact ⟨s, rfl, hs, by simp⟩
  | cons i items ih =>
      obtain ⟨next, hnext, hgood, hseen⟩ := hstep 0 (Nat.zero_lt_succ _) s hs
      have hlater : ∀ n (hn : n < items.length), Accrues good seen
          (added (move^[n] (move start)) items[n]) fun s => step s (move^[n] (move start)) items[n] :=
        fun n hn => hstep (n + 1) (Nat.succ_lt_succ hn)
      obtain ⟨t, ht, hgood', hseen'⟩ := ih hlater hgood
      refine ⟨t, ?_, hgood', ?_⟩
      · rw [List.foldlM_cons, bind_eq_ok]
        exact ⟨(next, move start), carry_eq_ok.mpr ⟨hnext, rfl⟩, ht⟩
      · rw [hseen', hseen, union_assoc]
        congr 1
        ext a
        constructor
        · rintro (hfirst | ⟨n, hn, hlater⟩)
          · exact ⟨0, Nat.zero_lt_succ _, hfirst⟩
          · exact ⟨n + 1, Nat.succ_lt_succ hn, hlater⟩
        · rintro ⟨n, hn, ha⟩
          cases n with
          | zero => exact .inl ha
          | succ n => exact .inr ⟨n, Nat.lt_of_succ_lt_succ hn, ha⟩

/-- The same set in other words. -/
lemma Accrues.congr {more' : Set α} {run : σ → Except ε σ} (h : Accrues good seen more run)
    (heq : more = more') : Accrues good seen more' run := heq ▸ h

end Loops
