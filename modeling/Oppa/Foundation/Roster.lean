import Mathlib.Data.List.Nodup
import Mathlib.Tactic.Lemma

/-!
# Lists that are edited in place

What changing or removing one entry of a list leaves of it.

* `mem_modify`, `map_modify` — an entry is changed: every entry is an old one or the changed one,
  and a key that the change keeps stays where it was.
* `key_ne_of_mem_eraseIdx` — an entry is removed: its key is gone when no other entry has it.
-/

namespace Roster

variable {α κ : Type*} {entries : List α} {index : ℕ}

lemma mem_modify {f : α → α} {found : α} (hfound : found ∈ entries.modify index f) :
    found ∈ entries ∨ ∃ entry, entries[index]? = some entry ∧ found = f entry := by
  rcases List.mem_iff_getElem?.mp hfound with ⟨position, hposition⟩
  rw [List.getElem?_modify] at hposition
  rcases Option.map_eq_some_iff.mp hposition with ⟨entry, hentry, heq⟩
  split_ifs at heq with hindex
  · subst hindex
    exact .inr ⟨entry, hentry, heq.symm⟩
  · rw [← heq]
    exact .inl (List.mem_iff_getElem?.mpr ⟨position, hentry⟩)

/-- The changed entry is there. -/
lemma mem_modify_self {f : α → α} {entry : α} (hentry : entries[index]? = some entry) :
    f entry ∈ entries.modify index f := by
  refine List.mem_iff_getElem?.mpr ⟨index, ?_⟩
  rw [List.getElem?_modify, hentry]
  simp

/-- Every other entry is there still. -/
lemma mem_modify_of_ne {f : α → α} {entry other : α} (hentry : entries[index]? = some entry)
    (hother : other ∈ entries) (hne : other ≠ entry) : other ∈ entries.modify index f := by
  rcases List.mem_iff_getElem?.mp hother with ⟨position, hposition⟩
  refine List.mem_iff_getElem?.mpr ⟨position, ?_⟩
  have hindex : index ≠ position := by
    rintro rfl
    rw [hentry, Option.some.injEq] at hposition
    exact hne hposition.symm
  rw [List.getElem?_modify, hposition]
  simp [hindex]

/-- A key that the change keeps. -/
lemma map_modify {key : α → κ} {f : α → α}
    (hkey : ∀ entry, entries[index]? = some entry → key (f entry) = key entry) :
    (entries.modify index f).map key = entries.map key := by
  refine List.ext_getElem? fun position => ?_
  rw [List.getElem?_map, List.getElem?_map, List.getElem?_modify, Option.map_eq_map,
    Option.map_map]
  cases hentry : entries[position]? with
  | none => rfl
  | some entry =>
      simp only [Option.map_some, Function.comp_apply]
      split_ifs with hindex
      · rw [hkey entry (hindex ▸ hentry)]
      · rfl

/-- An entry that was found by a condition meets it. -/
lemma getElem?_of_findIdx? {p : α → Bool} (hindex : entries.findIdx? p = some index) :
    ∃ entry, entries[index]? = some entry ∧ entry ∈ entries ∧ p entry = true := by
  rcases List.findIdx?_eq_some_iff_getElem.mp hindex with ⟨hlt, hp, _⟩
  exact ⟨entries[index], List.getElem?_eq_getElem hlt, List.getElem_mem hlt, hp⟩

lemma nodup_eraseIdx {key : α → κ} (hnodup : (entries.map key).Nodup) :
    ((entries.eraseIdx index).map key).Nodup :=
  hnodup.sublist ((List.eraseIdx_sublist _ _).map key)

/-- The key of a removed entry is gone. -/
lemma key_ne_of_mem_eraseIdx {key : α → κ} (hnodup : (entries.map key).Nodup) {entry other : α}
    (hentry : entries[index]? = some entry) (hother : other ∈ entries.eraseIdx index) :
    key other ≠ key entry := by
  intro hkey
  rcases List.mem_eraseIdx_iff_getElem?.mp hother with ⟨position, hne, hposition⟩
  have hfirst : (entries.map key)[position]? = some (key entry) := by
    rw [List.getElem?_map, hposition, Option.map_some, hkey]
  have hsecond : (entries.map key)[index]? = some (key entry) := by
    rw [List.getElem?_map, hentry, Option.map_some]
  exact hne ((List.getElem?_inj (List.getElem?_eq_some_iff.mp hfirst).1 hnodup).mp
    (hfirst.trans hsecond.symm))

/-- What is left when an entry is removed. -/
lemma mem_eraseIdx_iff {key : α → κ} (hnodup : (entries.map key).Nodup) {entry other : α}
    (hentry : entries[index]? = some entry) :
    other ∈ entries.eraseIdx index ↔ other ∈ entries ∧ key other ≠ key entry := by
  constructor
  · intro hother
    exact ⟨List.mem_of_mem_eraseIdx hother, key_ne_of_mem_eraseIdx hnodup hentry hother⟩
  · rintro ⟨hother, hne⟩
    rcases List.getElem?_of_mem hother with ⟨position, hposition⟩
    refine List.mem_eraseIdx_iff_getElem?.mpr ⟨position, ?_, hposition⟩
    rintro rfl
    rw [hentry, Option.some.injEq] at hposition
    exact hne (congrArg key hposition.symm)

/-- The only entry with a key. -/
lemma filter_key {key : α → κ} [DecidableEq κ] (hnodup : (entries.map key).Nodup) {entry : α}
    (hentry : entry ∈ entries) :
    entries.filter (fun other => key other = key entry) = [entry] := by
  induction entries with
  | nil => cases hentry
  | cons first entries ih =>
      rw [List.map_cons, List.nodup_cons] at hnodup
      rw [List.filter_cons]
      rcases List.mem_cons.mp hentry with rfl | hrest
      · rw [if_pos (decide_eq_true rfl), List.filter_eq_nil_iff.mpr]
        intro other hother hkey
        exact hnodup.1 (of_decide_eq_true hkey ▸ List.mem_map_of_mem hother)
      · have hne : key first ≠ key entry := by
          intro hkey
          exact hnodup.1 (hkey ▸ List.mem_map_of_mem hrest)
        rw [if_neg (by simpa using hne)]
        exact ih hnodup.2 hrest

end Roster
