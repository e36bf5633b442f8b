import Mathlib.Data.List.FinRange
import Mathlib.Data.String.Basic
import Oppa.Discovery.Merging
import Oppa.Foundation.Clustering
import Oppa.Foundation.Sorting

/-!
# Which observations are merged

`deduplicate` puts each observation into the first printer it shares an identity key with.  A later
observation can share keys with two printers that are there already, and the keys of a printer
change as observations are merged into it.

* `joins`, `entry` — the loop of `deduplicate` on the positions of the observations.
* `Complete` — the printers of the result share no key, deduplicating them changes nothing, and
  which observations are merged does not depend on their order.
* `Distinguished` — sharing a key is transitive, merging keeps what is shared, and no two classes
  of observations are brought together by what they are merged to.
* **`complete_iff`** — deduplication is complete exactly then.
* `bridge_arrives_last` — two printers of the result with a common key.
-/

namespace Oppa.Discovery

open Printer Text Clustering Sorting

section Grouping

variable (lowercase : String → String) (printers : List DiscoveredPrinter)

/-! ## Groups of positions -/

/-- What the observations of a group are merged to. -/
def entry (group : Cluster (Fin printers.length)) : DiscoveredPrinter :=
  (group.others.map printers.get).foldl mergeObservation (printers.get group.first)

/-- Whether an observation shares a key with what a group is merged to. -/
def joins (i : Fin printers.length) (group : Cluster (Fin printers.length)) : Bool :=
  sharesKey lowercase (printers.get i) (entry printers group)

/-- All positions, in the order of the observations. -/
abbrev positions : List (Fin printers.length) := List.finRange printers.length

/-- What the observations that share a key with one of them are merged to, with that one, in the
order of the observations. -/
def whole (i : Fin printers.length) : DiscoveredPrinter :=
  match (positions printers).filter (Linked (joins lowercase printers) i ·) with
  | [] => printers.get i
  | first :: others => entry printers ⟨first, others⟩

/-- The printers of the loop of `deduplicate`, before they are sorted. -/
def mergedInOrder : List DiscoveredPrinter :=
  printers.foldl (fun merged printer => mergeInto lowercase printer merged) []

/-- **Deduplication is complete**: the printers that are left share no key, they are not merged any
further, and it does not depend on the order of the observations which of them are merged. -/
structure Complete : Prop where
  apart : (deduplicate lowercase printers).Pairwise fun a b => sharesKey lowercase a b = false
  stable : deduplicate lowercase (deduplicate lowercase printers) = deduplicate lowercase printers
  settled : Settled (joins lowercase printers) (positions printers)

/-- Observations whose keys tell them apart. -/
structure Distinguished : Prop where
  coherent : Coherent (joins lowercase printers) (positions printers)
  apart : ∀ i j, ¬ Linked (joins lowercase printers) i j →
    sharesKey lowercase (whole lowercase printers i) (whole lowercase printers j) = false

variable {lowercase printers}

lemma mergedInOrder_concat (printer : DiscoveredPrinter) :
    mergedInOrder lowercase (printers ++ [printer]) =
      mergeInto lowercase printer (mergedInOrder lowercase printers) := by
  rw [mergedInOrder, List.foldl_append]
  rfl

lemma entry_add (group : Cluster (Fin printers.length)) (i : Fin printers.length) :
    entry printers (group.add i) = mergeObservation (entry printers group) (printers.get i) := by
  rw [entry, entry, Cluster.add, List.map_append, List.foldl_append]
  rfl

lemma map_entry_place (i : Fin printers.length) (groups : List (Cluster (Fin printers.length))) :
    (place (joins lowercase printers) i groups).map (entry printers) =
      mergeInto lowercase (printers.get i) (groups.map (entry printers)) := by
  induction groups with
  | nil => rfl
  | cons group groups ih =>
      rw [place, List.map_cons, mergeInto, joins]
      split_ifs
      · rw [List.map_cons, entry_add]
      · rw [List.map_cons, ih]

/-- **The groups of positions are the printers of the loop**, for any order of the observations. -/
theorem map_entry_cluster (lowercase : String → String) (order : List (Fin printers.length)) :
    (cluster (joins lowercase printers) order).map (entry printers) =
      mergedInOrder lowercase (order.map printers.get) := by
  induction order using List.reverseRecOn with
  | nil => rfl
  | append_singleton order i ih =>
      rw [cluster_concat, map_entry_place, ih, List.map_append, List.map_singleton,
        mergedInOrder_concat]

lemma map_get_positions : (positions printers).map printers.get = printers :=
  List.map_get_finRange printers

/-! ## Printers without a common key -/

lemma sharesKey_comm (a b : DiscoveredPrinter) :
    sharesKey lowercase a b = sharesKey lowercase b a := by
  rw [Bool.eq_iff_iff, sharesKey, sharesKey, List.any_eq_true, List.any_eq_true]
  simp only [decide_eq_true_eq]
  constructor
  · rintro ⟨key, hkey, hshared⟩
    exact ⟨key, hshared, hkey⟩
  · rintro ⟨key, hkey, hshared⟩
    exact ⟨key, hshared, hkey⟩

lemma near_comm (lowercase : String → String) (i j : Fin printers.length) :
    near (joins lowercase printers) i j = near (joins lowercase printers) j i :=
  sharesKey_comm _ _

lemma isOrder_inventoryLe : IsOrder (inventoryLe lowercase) := by
  have horder := (isOrder_le (inventoryKey lowercase)).byFirst
    fun printer : DiscoveredPrinter => lowercase printer.name
  exact horder

lemma mergeInto_eq_append {printer : DiscoveredPrinter} {merged : List DiscoveredPrinter}
    (hapart : ∀ found ∈ merged, sharesKey lowercase printer found = false) :
    mergeInto lowercase printer merged = merged ++ [printer] := by
  induction merged with
  | nil => rfl
  | cons existing merged ih =>
      rw [mergeInto, hapart existing List.mem_cons_self]
      rw [ih fun found hfound => hapart found (List.mem_cons_of_mem _ hfound)]
      rfl

lemma mergedInOrder_eq_self {found : List DiscoveredPrinter}
    (hapart : found.Pairwise fun a b => sharesKey lowercase a b = false) :
    mergedInOrder lowercase found = found := by
  induction found using List.reverseRecOn with
  | nil => rfl
  | append_singleton found printer ih =>
      rw [List.pairwise_append] at hapart
      rw [mergedInOrder_concat, ih hapart.1]
      refine mergeInto_eq_append fun earlier hearlier => ?_
      rw [sharesKey_comm]
      exact hapart.2.2 earlier hearlier printer (List.mem_singleton_self printer)

/-- Printers without a common key are not merged any further. -/
lemma deduplicate_deduplicate
    (hapart : (deduplicate lowercase printers).Pairwise
      fun a b => sharesKey lowercase a b = false) :
    deduplicate lowercase (deduplicate lowercase printers) = deduplicate lowercase printers := by
  show (mergedInOrder lowercase (deduplicate lowercase printers)).mergeSort _ = _
  rw [mergedInOrder_eq_self hapart]
  exact isOrder_inventoryLe.mergeSort_mergeSort

instance : Std.Symm fun a b => sharesKey lowercase a b = false where
  symm a b hab := by
    rw [sharesKey_comm]
    exact hab

/-- Sorting does not change which printers share a key. -/
lemma pairwise_deduplicate :
    ((deduplicate lowercase printers).Pairwise fun a b => sharesKey lowercase a b = false) ↔
      (mergedInOrder lowercase printers).Pairwise fun a b => sharesKey lowercase a b = false :=
  (List.mergeSort_perm _ _).pairwise_iff fun {a b} hab => by rw [sharesKey_comm]; exact hab

lemma pairwise_deduplicate_iff :
    ((deduplicate lowercase printers).Pairwise fun a b => sharesKey lowercase a b = false) ↔
      (cluster (joins lowercase printers) (positions printers)).Pairwise fun group other =>
        sharesKey lowercase (entry printers group) (entry printers other) = false := by
  have hmap := map_entry_cluster lowercase (positions printers)
  rw [map_get_positions] at hmap
  rw [pairwise_deduplicate, ← hmap, List.pairwise_map]

/-! ## When deduplication is complete -/

lemma entry_eq_whole (hcoherent : Coherent (joins lowercase printers) (positions printers))
    {group : Cluster (Fin printers.length)}
    (hgroup : group ∈ cluster (joins lowercase printers) (positions printers))
    {i : Fin printers.length} (hi : i ∈ group.members) :
    entry printers group = whole lowercase printers i := by
  have hmembers := hcoherent.members_eq (List.nodup_finRange _) (near_comm lowercase) hgroup hi
  rw [whole, ← hmembers]
  rfl

/-- **Deduplication is complete exactly when the keys tell the observations apart.** -/
theorem complete_iff (lowercase : String → String) (printers : List DiscoveredPrinter) :
    Complete lowercase printers ↔ Distinguished lowercase printers := by
  have hnodup : (positions printers).Nodup := List.nodup_finRange _
  have hsettled := settled_iff_coherent hnodup (near_comm lowercase)
  constructor
  · intro hcomplete
    have hcoherent := hsettled.mp hcomplete.settled
    refine ⟨hcoherent, ?_⟩
    intro i j hnot
    rcases exists_group (joins lowercase printers) (List.mem_finRange i) with
      ⟨group, hgroup, hi⟩
    rcases exists_group (joins lowercase printers) (List.mem_finRange j) with
      ⟨other, hother, hj⟩
    have hne : group ≠ other := by
      rintro rfl
      have htogether := hcoherent.together_iff (i := i) (j := j) (near_comm lowercase) hnodup
        (List.Subset.refl _)
      exact hnot (htogether.mp ⟨group, hgroup, hi, hj⟩).2.2
    have hsymm : Std.Symm fun group other : Cluster (Fin printers.length) =>
        sharesKey lowercase (entry printers group) (entry printers other) = false :=
      ⟨fun _ _ hab => by rw [sharesKey_comm]; exact hab⟩
    rw [← entry_eq_whole hcoherent hgroup hi, ← entry_eq_whole hcoherent hother hj]
    exact (pairwise_deduplicate_iff.mp hcomplete.apart).forall hgroup hother hne
  · intro hdistinguished
    have hcoherent := hdistinguished.coherent
    have hsound := hcoherent.sound hnodup (List.Subset.refl _)
    have hapart : (deduplicate lowercase printers).Pairwise
        fun a b => sharesKey lowercase a b = false := by
      rw [pairwise_deduplicate_iff]
      refine (List.pairwise_map.mp hsound.apart).imp_of_mem ?_
      intro group other hgroup hother hnot
      rw [entry_eq_whole hcoherent hgroup group.first_mem,
        entry_eq_whole hcoherent hother other.first_mem, sharesKey_comm]
      exact hdistinguished.apart _ _ hnot
    exact ⟨hapart, deduplicate_deduplicate hapart, hsettled.mpr hcoherent⟩

end Grouping

/-! ## An observation between two printers -/

/-- A queue that is known by its name, and by the host of its printer where that is found out. -/
def queueAtHost (provider : String) (host : Option String) : DiscoveredPrinter where
  id := none
  name := "Receipt"
  kind := .unknown
  connection := .systemQueue "Receipt"
  fingerprint := { queueName := some "Receipt", host := host, port := host.map fun _ => 9100 }
  availability := .unknown
  capabilities := none
  providers := [⟨provider, none, []⟩]

/-- A printer at an address. -/
def printerAtHost (host : String) : DiscoveredPrinter where
  id := none
  name := "Counter"
  kind := .receipt
  connection := .network host 9100
  fingerprint := { host := some host, port := some 9100 }
  availability := .unknown
  capabilities := none
  providers := [⟨"manual", none, []⟩]

/-- The last of three observations shares a key with each of the two others, which share none. -/
def bridgedObservations : List DiscoveredPrinter :=
  [queueAtHost "system" none, printerAtHost "printer.local",
    queueAtHost "network" (some "printer.local")]

/-- It is merged into the first of them, which then shares a key with the second. -/
lemma bridge_arrives_last : ¬ ∀ printers : List DiscoveredPrinter,
    (∀ printer ∈ printers, normalizePrinter printer = .ok printer) →
    Complete lowercaseAscii printers := by
  intro hclaim
  have hcomplete := hclaim bridgedObservations (by decide +kernel)
  have hapart := pairwise_deduplicate.mp hcomplete.apart
  have hshared : ∃ a ∈ mergedInOrder lowercaseAscii bridgedObservations,
      ∃ b ∈ mergedInOrder lowercaseAscii bridgedObservations,
        a.connection ≠ b.connection ∧ sharesKey lowercaseAscii a b = true := by
    decide +kernel
  rcases hshared with ⟨a, ha, b, hb, hne, hshares⟩
  rw [hapart.forall ha hb fun heq => hne (heq ▸ rfl)] at hshares
  cases hshares

end Oppa.Discovery
