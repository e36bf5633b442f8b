import Mathlib.Data.List.Destutter
import Mathlib.Order.Lattice
import Mathlib.Tactic.Lemma

/-!
# Sorted lists

Orders that a list is sorted by, as tests of two of its entries.

* `IsOrder` — a transitive and total test.
* `byFirst` — the order by a value, and by another order where the values are the same.
* `IsOrder.mergeSort_mergeSort`, `IsOrder.mergeSort_destutter` — what is sorted, with or without
  entries left out, is not sorted again.
* **`IsOrder.pairwise_of_isChain`** — repetitions are next to each other once a list is sorted.
-/

namespace Sorting

variable {α β : Type}

/-- A transitive and total test. -/
structure IsOrder (le : α → α → Bool) : Prop where
  trans : ∀ a b c, le a b = true → le b c = true → le a c = true
  total : ∀ a b, (le a b || le b a) = true

/-- The order by a value, and by another order where the values are the same. -/
def byFirst [LinearOrder β] (value : α → β) (le : α → α → Bool) (a b : α) : Bool :=
  value a < value b || (value a = value b && le a b)

variable {le : α → α → Bool} {xs : List α}

lemma isOrder_le [LinearOrder β] (value : α → β) :
    IsOrder fun a b => decide (value a ≤ value b) where
  trans a b c hab hbc := by
    rw [decide_eq_true_eq] at hab hbc ⊢
    exact hab.trans hbc
  total a b := by
    rw [Bool.or_eq_true, decide_eq_true_eq, decide_eq_true_eq]
    exact le_total _ _

lemma IsOrder.byFirst [LinearOrder β] (value : α → β) (horder : IsOrder le) :
    IsOrder (byFirst value le) where
  trans a b c hab hbc := by
    simp only [Sorting.byFirst, Bool.or_eq_true, Bool.and_eq_true, decide_eq_true_eq] at hab hbc ⊢
    rcases hab with hab | ⟨hab, hle⟩
    · rcases hbc with hbc | ⟨hbc, _⟩
      · exact .inl (hab.trans hbc)
      · exact .inl (hbc ▸ hab)
    · rcases hbc with hbc | ⟨hbc, hle'⟩
      · exact .inl (hab ▸ hbc)
      · exact .inr ⟨hab.trans hbc, horder.trans a b c hle hle'⟩
  total a b := by
    have htotal := horder.total a b
    simp only [Sorting.byFirst, Bool.or_eq_true, Bool.and_eq_true, decide_eq_true_eq] at htotal ⊢
    rcases lt_trichotomy (value a) (value b) with hlt | heq | hgt
    · exact .inl (.inl hlt)
    · rcases htotal with hle | hle
      · exact .inl (.inr ⟨heq, hle⟩)
      · exact .inr (.inr ⟨heq.symm, hle⟩)
    · exact .inr (.inl hgt)

lemma IsOrder.mergeSort_mergeSort (horder : IsOrder le) :
    (xs.mergeSort le).mergeSort le = xs.mergeSort le :=
  List.mergeSort_of_pairwise (List.pairwise_mergeSort horder.trans horder.total xs)

/-- A sorted list without some of its entries is sorted. -/
lemma IsOrder.mergeSort_destutter (horder : IsOrder le) (R : α → α → Prop) [DecidableRel R] :
    ((xs.mergeSort le).destutter R).mergeSort le = (xs.mergeSort le).destutter R :=
  List.mergeSort_of_pairwise
    ((List.pairwise_mergeSort horder.trans horder.total xs).sublist (List.destutter_sublist _ _))

/-- Leaving out repetitions next to each other leaves no entry out. -/
lemma mem_destutter_ne [DecidableEq α] {x : α} : x ∈ xs.destutter (· ≠ ·) ↔ x ∈ xs := by
  refine ⟨fun hx => (List.destutter_sublist _ _).subset hx, ?_⟩
  cases xs with
  | nil => exact id
  | cons first xs =>
      rw [List.destutter_cons']
      induction xs generalizing first with
      | nil => exact id
      | cons second xs ih =>
          intro hx
          rw [List.destutter'_cons]
          split_ifs with hne
          · rcases List.mem_cons.mp hx with rfl | hx
            · exact List.mem_cons_self
            · exact List.mem_cons_of_mem _ (ih second hx)
          · rw [not_not] at hne
            refine ih first ?_
            rcases List.mem_cons.mp hx with rfl | hx
            · exact List.mem_cons_self
            · exact hne ▸ hx

/-- **A sorted list without repetitions next to each other has none at all.** -/
lemma IsOrder.pairwise_of_isChain (horder : IsOrder le) {same : α → α → Bool}
    (hsame : ∀ a b, same a b = true ↔ le a b = true ∧ le b a = true)
    (hsorted : xs.Pairwise fun a b => le a b = true)
    (hchain : xs.IsChain fun a b => same a b = false) :
    xs.Pairwise fun a b => same a b = false := by
  induction xs with
  | nil => exact List.Pairwise.nil
  | cons first xs ih =>
      have hrest := List.pairwise_cons.mp hsorted
      refine List.pairwise_cons.mpr ⟨?_, ih hrest.2 hchain.tail⟩
      intro later hlater
      cases xs with
      | nil => cases hlater
      | cons second xs =>
          have hnext := (List.isChain_cons_cons.mp hchain).1
          rw [← Bool.not_eq_true] at hnext ⊢
          rw [hsame] at hnext ⊢
          rintro ⟨_, hback⟩
          -- the entry in between would be the same as both
          refine hnext ⟨hrest.1 second List.mem_cons_self, ?_⟩
          rcases List.mem_cons.mp hlater with rfl | hlater
          · exact hback
          · exact horder.trans _ _ _ ((List.pairwise_cons.mp hrest.2).1 later hlater) hback

lemma IsOrder.pairwise_destutter (horder : IsOrder le) {same : α → α → Bool}
    (hsame : ∀ a b, same a b = true ↔ le a b = true ∧ le b a = true) :
    ((xs.mergeSort le).destutter fun a b => same a b = false).Pairwise
      fun a b => same a b = false :=
  horder.pairwise_of_isChain hsame
    ((List.pairwise_mergeSort horder.trans horder.total xs).sublist (List.destutter_sublist _ _))
    (List.isChain_destutter _ _)

end Sorting
