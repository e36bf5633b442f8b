import Mathlib.Data.List.Sort
import Mathlib.Data.List.Nodup
import Mathlib.Order.Defs.LinearOrder
import Mathlib.Tactic.Lemma

/-!
# Keyed tables

A table of a relational store is a list of rows with a key column.  The operations are the ones
SQL statements are made of: select a row by its key, update the row with a key, delete the rows
whose keys are in a list, and take the oldest rows of a selection.

* `UniqueBy key rows` — the primary-key constraint, and what each operation does to it.
* `lookup`, `updateWhere`, `dropKeys` — select by key, update a selection, delete by key.
* `orderBy rank rows`, `oldest rank n rows` — `ORDER BY rank`, with and without a `LIMIT n`.
  `rank_le_of_mem_oldest` says that it really takes the oldest rows, `length_oldest` how many.
* `countP_dropKeys` — what a deletion leaves of a selection.
-/

namespace Table

variable {ρ κ τ : Type*}

/-- The primary-key constraint: no two rows share a key. -/
def UniqueBy (key : ρ → κ) (rows : List ρ) : Prop := (rows.map key).Nodup

namespace UniqueBy

variable {key : ρ → κ} {rows : List ρ}

@[simp] lemma nil : UniqueBy key ([] : List ρ) := by simp [UniqueBy]

/-- Two rows of a keyed table with one key are the same row. -/
lemma eq_of_key_eq (h : UniqueBy key rows) {a b : ρ} (ha : a ∈ rows) (hb : b ∈ rows)
    (hk : key a = key b) : a = b := List.inj_on_of_nodup_map h ha hb hk

lemma filter (h : UniqueBy key rows) (p : ρ → Bool) : UniqueBy key (rows.filter p) :=
  h.sublist (List.filter_sublist.map key)

/-- Updates that keep the key column keep the constraint. -/
lemma map (h : UniqueBy key rows) {f : ρ → ρ} (hf : ∀ r, key (f r) = key r) :
    UniqueBy key (rows.map f) := by
  have hcomp : key ∘ f = key := funext hf
  simpa [UniqueBy, List.map_map, hcomp] using h

/-- A row with a new key can be appended. -/
lemma concat (h : UniqueBy key rows) {r : ρ} (hr : key r ∉ rows.map key) :
    UniqueBy key (rows ++ [r]) := by
  simp only [UniqueBy, List.map_append, List.map_cons, List.map_nil]
  refine List.nodup_append.mpr ⟨h, by simp, ?_⟩
  rintro a ha b hb rfl
  exact hr (List.mem_singleton.mp hb ▸ ha)

end UniqueBy

section Update

variable {p : ρ → Bool} {f : ρ → ρ} {rows : List ρ}

/-- `UPDATE … SET f WHERE p`. -/
def updateWhere (p : ρ → Bool) (f : ρ → ρ) (rows : List ρ) : List ρ :=
  rows.map fun r => if p r then f r else r

lemma mem_updateWhere {r : ρ} :
    r ∈ updateWhere p f rows ↔
      (r ∈ rows ∧ p r = false) ∨ ∃ r₀ ∈ rows, p r₀ = true ∧ r = f r₀ := by
  simp only [updateWhere, List.mem_map]
  constructor
  · rintro ⟨r₀, h₀, rfl⟩
    split_ifs with hp
    · exact Or.inr ⟨r₀, h₀, hp, rfl⟩
    · exact Or.inl ⟨h₀, by simpa using hp⟩
  · rintro (⟨hr, hp⟩ | ⟨r₀, h₀, hp, rfl⟩)
    · exact ⟨r, hr, by simp [hp]⟩
    · exact ⟨r₀, h₀, by simp [hp]⟩

/-- An update that keeps the key column keeps its constraint. -/
lemma UniqueBy.updateWhere {key : ρ → κ} (h : UniqueBy key rows)
    (hf : ∀ r, key (f r) = key r) : UniqueBy key (updateWhere p f rows) := by
  refine h.map fun r => ?_
  split_ifs
  · exact hf r
  · rfl

/-- An update that makes no row satisfy `q` that did not before cannot raise the count. -/
lemma countP_updateWhere_le {q : ρ → Bool}
    (hf : ∀ r ∈ rows, p r = true → q (f r) = true → q r = true) :
    (updateWhere p f rows).countP q ≤ rows.countP q := by
  rw [updateWhere, List.countP_map]
  refine List.countP_mono_left fun r hmem hr => ?_
  simp only [Function.comp_apply] at hr
  split_ifs at hr with hp
  · exact hf r hmem hp hr
  · exact hr

end Update

section Select

variable [DecidableEq κ] (key : ρ → κ)

/-- `SELECT … WHERE key = k`. -/
def lookup (k : κ) (rows : List ρ) : Option ρ := rows.find? fun r => key r = k

/-- `DELETE … WHERE key IN ks`. -/
def dropKeys (ks : List κ) (rows : List ρ) : List ρ := rows.filter fun r => key r ∉ ks

variable {key} {k : κ} {rows : List ρ}

lemma mem_of_lookup {r : ρ} (h : lookup key k rows = some r) : r ∈ rows :=
  List.mem_of_find?_eq_some h

lemma key_of_lookup {r : ρ} (h : lookup key k rows = some r) : key r = k := by
  simpa using List.find?_some h

lemma lookup_eq_none : lookup key k rows = none ↔ ∀ r ∈ rows, key r ≠ k := by
  simp [lookup]

/-- In a keyed table `lookup` finds exactly the row with the key. -/
lemma lookup_eq_some (hu : UniqueBy key rows) {r : ρ} :
    lookup key k rows = some r ↔ r ∈ rows ∧ key r = k := by
  refine ⟨fun h => ⟨mem_of_lookup h, key_of_lookup h⟩, ?_⟩
  rintro ⟨hr, hk⟩
  cases hl : lookup key k rows with
  | none => exact absurd hk (lookup_eq_none.mp hl r hr)
  | some r' =>
      have hkey : key r' = key r := (key_of_lookup hl).trans hk.symm
      rw [hu.eq_of_key_eq (mem_of_lookup hl) hr hkey]

@[simp] lemma mem_dropKeys {ks : List κ} {r : ρ} :
    r ∈ dropKeys key ks rows ↔ r ∈ rows ∧ key r ∉ ks := by
  simp [dropKeys]

lemma dropKeys_congr {ks ks' : List κ} (h : ∀ k, k ∈ ks ↔ k ∈ ks') :
    dropKeys key ks rows = dropKeys key ks' rows := by
  simp only [dropKeys, h]

@[simp] lemma dropKeys_nil : dropKeys key [] rows = rows := by simp [dropKeys]

/-- At most one row carries a given key. -/
lemma countP_key_le_one (hu : UniqueBy key rows) : rows.countP (fun r => key r = k) ≤ 1 := by
  have hcount : (rows.map key).countP (fun k' => decide (k' = k)) ≤ 1 := by
    simpa [List.count, beq_eq_decide] using List.nodup_iff_count_le_one.mp hu k
  simpa [List.countP_map, Function.comp_def] using hcount

/-- The rows whose keys are those of `gone` are the rows of `gone`. -/
lemma filter_key_mem_perm (hu : UniqueBy key rows) {gone : List ρ} (hgone : UniqueBy key gone)
    (hsub : ∀ r ∈ gone, r ∈ rows) :
    (rows.filter fun r => key r ∈ gone.map key).Perm gone := by
  have hnodup : (rows.filter fun r => key r ∈ gone.map key).Nodup := (List.Nodup.of_map _ hu).filter _
  refine (List.perm_ext_iff_of_nodup hnodup (List.Nodup.of_map _ hgone)).mpr fun r => ?_
  simp only [List.mem_filter, decide_eq_true_eq]
  constructor
  · rintro ⟨hr, hk⟩
    obtain ⟨r', hr', he⟩ := List.mem_map.mp hk
    rwa [← hu.eq_of_key_eq (hsub r' hr') hr he]
  · exact fun hr => ⟨hsub r hr, List.mem_map_of_mem hr⟩

/-- Deleting rows by their keys takes exactly those rows out of every selection. -/
lemma countP_dropKeys (hu : UniqueBy key rows) {gone : List ρ} (hgone : UniqueBy key gone)
    (hsub : ∀ r ∈ gone, r ∈ rows) (q : ρ → Bool) :
    (dropKeys key (gone.map key) rows).countP q + gone.countP q = rows.countP q := by
  have hsplit := List.countP_eq_countP_filter_add rows q fun r => decide (key r ∈ gone.map key)
  rw [(filter_key_mem_perm hu hgone hsub).countP_eq] at hsplit
  simp only [dropKeys, decide_not]
  omega

/-- Setting one key aside loses at most one row of a selection. -/
lemma countP_le_countP_ne_succ (hu : UniqueBy key rows) (p : ρ → Bool) :
    rows.countP p ≤ rows.countP (fun r => p r && decide (key r ≠ k)) + 1 := by
  have hone := countP_key_le_one (k := k) hu
  have hsplit := List.countP_eq_countP_filter_add rows p fun r => decide (key r = k)
  have hle : (rows.filter fun r => decide (key r = k)).countP p ≤ 1 :=
    le_trans List.countP_le_length (by rwa [← List.countP_eq_length_filter])
  have hrest : (rows.filter fun r => !decide (key r = k)).countP p
      = rows.countP (fun r => p r && decide (key r ≠ k)) := by
    simp [List.countP_filter]
  omega

end Select

/-! ## The oldest rows of a selection -/

section Oldest

variable [LinearOrder τ] (rank : ρ → τ)

/-- `ORDER BY rank`. -/
def orderBy (rows : List ρ) : List ρ := rows.insertionSort fun a b => rank a ≤ rank b

/-- `ORDER BY rank LIMIT n`. -/
def oldest (n : ℕ) (rows : List ρ) : List ρ := (orderBy rank rows).take n

variable {rank} {n : ℕ} {rows : List ρ}

lemma perm_orderBy : (orderBy rank rows).Perm rows := List.perm_insertionSort _ rows

@[simp] lemma mem_orderBy {r : ρ} : r ∈ orderBy rank rows ↔ r ∈ rows := perm_orderBy.mem_iff

lemma pairwise_orderBy : (orderBy rank rows).Pairwise fun a b => rank a ≤ rank b := by
  have : Std.Total fun a b : ρ => rank a ≤ rank b := ⟨fun a b => le_total _ _⟩
  have : IsTrans ρ fun a b => rank a ≤ rank b := ⟨fun _ _ _ => le_trans⟩
  exact List.pairwise_insertionSort _ rows

lemma UniqueBy.orderBy {key : ρ → κ} (h : UniqueBy key rows) : UniqueBy key (orderBy rank rows) :=
  (perm_orderBy.map key).nodup_iff.mpr h

lemma mem_of_mem_oldest {r : ρ} (h : r ∈ oldest rank n rows) : r ∈ rows :=
  mem_orderBy.mp (List.mem_of_mem_take h)

@[simp] lemma length_oldest : (oldest rank n rows).length = min n rows.length := by
  simp [oldest, perm_orderBy.length_eq]

/-- **What is taken is older than what is left.** -/
lemma rank_le_of_mem_oldest {a b : ρ} (ha : a ∈ oldest rank n rows) (hb : b ∈ rows)
    (hb' : b ∉ oldest rank n rows) : rank a ≤ rank b := by
  have hsorted := @pairwise_orderBy _ _ _ rank rows
  have hsplit := List.take_append_drop n (orderBy rank rows)
  have hdrop : b ∈ (orderBy rank rows).drop n := by
    have hmem := (@mem_orderBy _ _ _ rank _ _).mpr hb
    rw [← hsplit, List.mem_append] at hmem
    exact hmem.resolve_left hb'
  rw [← hsplit] at hsorted
  exact (List.pairwise_append.mp hsorted).2.2 a ha b hdrop

lemma UniqueBy.oldest {key : ρ → κ} (h : UniqueBy key rows) :
    UniqueBy key (oldest rank n rows) :=
  h.orderBy.sublist ((List.take_sublist n _).map key)

/-- Rows of different ranks are put into a strict order. -/
lemma pairwise_lt_oldest (h : UniqueBy rank rows) :
    (oldest rank n rows).Pairwise fun a b => rank a < rank b := by
  have hsorted := (@pairwise_orderBy _ _ _ rank rows).sublist (List.take_sublist n _)
  have hdistinct : (oldest rank n rows).Pairwise fun a b => rank a ≠ rank b :=
    List.pairwise_map.mp h.oldest
  refine (hsorted.and hdistinct).imp ?_
  rintro a b ⟨hle, hne⟩
  exact lt_of_le_of_ne hle hne

/-- Of rows of different ranks, those that are left are younger than every one that is taken. -/
lemma rank_lt_of_mem_oldest (h : UniqueBy rank rows) {a b : ρ} (ha : a ∈ oldest rank n rows)
    (hb : b ∈ rows) (hb' : b ∉ oldest rank n rows) : rank a < rank b := by
  refine lt_of_le_of_ne (rank_le_of_mem_oldest ha hb hb') fun hrank => ?_
  obtain rfl := h.eq_of_key_eq (mem_of_mem_oldest ha) hb hrank
  exact hb' ha

/-- A limit the rows do not reach leaves none behind. -/
lemma mem_oldest_of_length_lt (hfew : (oldest rank n rows).length < n) {a : ρ} (ha : a ∈ rows) :
    a ∈ oldest rank n rows := by
  rw [length_oldest] at hfew
  rw [oldest, List.take_of_length_le (by rw [perm_orderBy.length_eq]; omega)]
  exact mem_orderBy.mpr ha

end Oldest

end Table
