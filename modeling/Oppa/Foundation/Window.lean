import Mathlib.Algebra.BigOperators.Group.List.Basic
import Mathlib.Algebra.Ring.Nat
import Mathlib.Data.List.Basic
import Mathlib.Tactic.Lemma

/-!
# Windows over a growing list

A store that keeps the latest entries of a list, within a number of entries and a total weight.  An
entry that exceeds the weight alone is kept all the same, as long as it is the latest.

* `Allowed` — a window within both limits.
* `Longest` — the longest such window at the end of a list.
* `trim` — the entries that are dropped, oldest first, to make room for another one.
* **`Longest.push`** — trimming keeps the longest window.
-/

namespace Window

variable {α : Type} (weight : α → ℕ) (count limit : ℕ)

/-- The weight of some entries. -/
def total (xs : List α) : ℕ := (xs.map weight).sum

/-- A window within both limits. -/
def Allowed (xs : List α) : Prop :=
  xs.length ≤ count ∧ (xs.length ≤ 1 ∨ total weight xs ≤ limit)

/-- **The longest window at the end of a list.** -/
structure Longest (recorded xs : List α) : Prop where
  latest : xs <:+ recorded
  allowed : Allowed weight count limit xs
  longest : ∀ ys, ys <:+ recorded → Allowed weight count limit ys → ys <:+ xs

/-- A window with room for another entry of some weight. -/
def Room (size : ℕ) (xs : List α) : Prop :=
  xs = [] ∨ xs.length < count ∧ total weight xs + size ≤ limit

instance {size : ℕ} : DecidablePred (Room weight count limit size) := fun xs =>
  inferInstanceAs (Decidable (xs = [] ∨ _ ∧ _))

/-- Drops entries, oldest first, until there is room. -/
def trim (size : ℕ) : List α → List α
  | [] => []
  | x :: xs => if Room weight count limit size (x :: xs) then x :: xs else trim size xs

variable {weight count limit} {size : ℕ} {recorded xs ys : List α} {new : α}

@[simp] lemma total_nil : total weight [] = 0 := rfl

@[simp] lemma total_cons {x : α} : total weight (x :: xs) = weight x + total weight xs := by
  simp [total]

@[simp] lemma total_append : total weight (xs ++ ys) = total weight xs + total weight ys := by
  simp [total]

lemma allowed_nil : Allowed weight count limit [] := ⟨Nat.zero_le _, Or.inl (Nat.zero_le _)⟩

lemma longest_nil : Longest weight count limit [] [] :=
  ⟨List.suffix_rfl, allowed_nil, fun _ h _ => h⟩

lemma trim_suffix : trim weight count limit size xs <:+ xs := by
  induction xs with
  | nil => exact List.suffix_rfl
  | cons x xs ih =>
      rw [trim]
      split
      · exact List.suffix_rfl
      · exact ih.trans (List.suffix_cons x xs)

lemma room_trim : Room weight count limit size (trim weight count limit size xs) := by
  induction xs with
  | nil => exact Or.inl rfl
  | cons x xs ih =>
      rw [trim]
      split
      · assumption
      · exact ih

/-- No window with room is longer than what trimming leaves. -/
lemma suffix_trim (hys : ys <:+ xs) (hroom : Room weight count limit size ys) :
    ys <:+ trim weight count limit size xs := by
  induction xs with
  | nil => exact hys
  | cons x xs ih =>
      rw [trim]
      split
      · exact hys
      · rename_i hfull
        rcases List.suffix_cons_iff.mp hys with rfl | hys
        · exact absurd hroom hfull
        · exact ih hys

/-- A window with room takes the entry. -/
lemma allowed_concat_iff (hcount : 0 < count) :
    Allowed weight count limit (xs ++ [new]) ↔ Room weight count limit (weight new) xs := by
  cases xs with
  | nil =>
      simp only [Allowed, Room, List.nil_append, List.length_singleton, true_or, iff_true]
      omega
  | cons x xs =>
      simp only [Allowed, Room, List.length_append, List.length_cons, List.length_nil, total_append,
        total_cons, total_nil, reduceCtorEq, false_or, add_zero]
      omega

lemma allowed_of_room (hroom : Room weight count limit size xs) :
    Allowed weight count limit xs := by
  rcases hroom with rfl | ⟨hlength, htotal⟩
  · exact allowed_nil
  · exact ⟨Nat.le_of_lt hlength, Or.inr (by omega)⟩

/-- **The longest window stays the longest** when it is trimmed for the next entry. -/
theorem Longest.push (hcount : 0 < count) (hlongest : Longest weight count limit recorded xs) :
    Longest weight count limit (recorded ++ [new])
      (trim weight count limit (weight new) xs ++ [new]) where
  latest := List.suffix_append_self_iff.mpr (trim_suffix.trans hlongest.latest)
  allowed := (allowed_concat_iff hcount).mpr room_trim
  longest ys hys hallowed := by
    rcases List.suffix_concat_iff.mp hys with rfl | ⟨zs, rfl, hzs⟩
    · exact List.nil_suffix
    · have hroom := (allowed_concat_iff hcount).mp hallowed
      have hkept := hlongest.longest zs hzs (allowed_of_room hroom)
      exact List.suffix_append_self_iff.mpr (suffix_trim hkept hroom)

/-- The latest entry is in the window. -/
lemma Longest.getLast? (hcount : 0 < count) (hlongest : Longest weight count limit recorded xs) :
    xs.getLast? = recorded.getLast? := by
  rcases List.eq_nil_or_concat recorded with rfl | ⟨before, last, rfl⟩
  · rw [List.suffix_nil.mp hlongest.latest]
  · rw [List.concat_eq_append] at hlongest ⊢
    have hlast : [last] <:+ xs := hlongest.longest [last] (List.suffix_append _ _)
      ⟨hcount, Or.inl (Nat.le_refl 1)⟩
    rcases hlast with ⟨older, rfl⟩
    rw [List.getLast?_concat, List.getLast?_concat]

end Window
