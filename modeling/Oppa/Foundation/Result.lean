import Mathlib.Data.List.Forall2
import Mathlib.Tactic.Lemma

/-!
# Sequences of fallible steps

When a computation in `Except` that consists of several steps succeeds.
-/

namespace Result

variable {α β ε δ : Type}

/-- Two steps in a row succeed when both do. -/
lemma bind_eq_ok {first : Except ε α} {next : α → Except ε β} {b : β} :
    (first >>= next) = .ok b ↔ ∃ a, first = .ok a ∧ next a = .ok b := by
  cases first <;> simp [bind, Except.bind]

lemma pure_eq_ok {a b : α} : (pure a : Except ε α) = .ok b ↔ a = b := by
  simp [pure, Except.pure]

/-- A failure that is described in another way is a failure still. -/
lemma mapError_eq_ok {result : Except ε α} {f : ε → δ} {a : α} :
    result.mapError f = .ok a ↔ result = .ok a := by
  cases result <;> simp [Except.mapError]

/-- A result that is described in another way. -/
lemma map_eq_ok {result : Except ε α} {f : α → β} {b : β} :
    result.map f = .ok b ↔ ∃ a, result = .ok a ∧ f a = b := by
  cases result <;> simp [Except.map]

/-- A list that is computed element by element. -/
lemma mapM_eq_ok {f : α → Except ε β} {as : List α} {bs : List β} :
    as.mapM f = .ok bs ↔ List.Forall₂ (fun a b => f a = .ok b) as bs := by
  induction as generalizing bs with
  | nil =>
      rw [List.mapM_nil, pure_eq_ok, List.forall₂_nil_left_iff]
      exact eq_comm
  | cons a as ih =>
      simp only [List.mapM_cons, bind_eq_ok, pure_eq_ok, List.forall₂_cons_left_iff]
      constructor
      · rintro ⟨b, hb, rest, hrest, rfl⟩
        exact ⟨b, rest, hb, ih.mp hrest, rfl⟩
      · rintro ⟨b, rest, hb, hrest, rfl⟩
        exact ⟨b, hb, rest, ih.mpr hrest, rfl⟩

/-- A list is computed when every element of it can be. -/
lemma exists_mapM_eq_ok {f : α → Except ε β} {as : List α} (hall : ∀ a ∈ as, ∃ b, f a = .ok b) :
    ∃ bs, as.mapM f = .ok bs := by
  induction as with
  | nil => exact ⟨[], rfl⟩
  | cons a as ih =>
      rw [List.forall_mem_cons] at hall
      rcases hall.1 with ⟨b, hb⟩
      rcases ih hall.2 with ⟨bs, hbs⟩
      refine ⟨b :: bs, ?_⟩
      rw [List.mapM_cons, hb, hbs]
      rfl

/-- Every result of such a list comes from an element of it. -/
lemma exists_of_forall₂ {R : α → β → Prop} {as : List α} {bs : List β}
    (hall : List.Forall₂ R as bs) {b : β} (hb : b ∈ bs) : ∃ a ∈ as, R a b := by
  induction hall with
  | nil => cases hb
  | cons hhead _ ih =>
      rcases List.mem_cons.mp hb with rfl | hrest
      · exact ⟨_, List.mem_cons_self, hhead⟩
      · rcases ih hrest with ⟨a, ha, hrel⟩
        exact ⟨a, List.mem_cons_of_mem _ ha, hrel⟩

/-- Every element of such a list has a result. -/
lemma exists_of_forall₂' {R : α → β → Prop} {as : List α} {bs : List β}
    (hall : List.Forall₂ R as bs) {a : α} (ha : a ∈ as) : ∃ b ∈ bs, R a b := by
  induction hall with
  | nil => cases ha
  | cons hhead _ ih =>
      rcases List.mem_cons.mp ha with rfl | hrest
      · exact ⟨_, List.mem_cons_self, hhead⟩
      · rcases ih hrest with ⟨b, hb, hrel⟩
        exact ⟨b, List.mem_cons_of_mem _ hb, hrel⟩

/-- The results around one element of such a list. -/
lemma forall₂_split {R : α → β → Prop} {before : List α} {a : α} {after : List α} {bs : List β}
    (hall : List.Forall₂ R (before ++ a :: after) bs) :
    ∃ first b last, bs = first ++ b :: last ∧ List.Forall₂ R before first ∧ R a b := by
  induction before generalizing bs with
  | nil =>
      cases hall with
      | cons hhead _ => exact ⟨[], _, _, rfl, .nil, hhead⟩
  | cons x before ih =>
      cases hall with
      | cons hhead htail =>
          rcases ih htail with ⟨first, b, last, rfl, hfirst, hb⟩
          exact ⟨_ :: first, b, last, rfl, .cons hhead hfirst, hb⟩

end Result
