import Oppa.Discovery.Manager

/-!
# What becomes of an observation

`deduplicate` merges observations on positive evidence: an observation goes into the first printer
it shares an identity key with.  Each printer of the result is the merge of a group of observations.

* `Merges` — a group, each observation of which shares a key with what those before it were merged
  to.
* `Merges.head_or_joins`, `Merges.keeps_record` — the result of a group is connected as its first
  observation, and keeps the records of all of them.
* `Covers` — every observation is in the group of one of the printers.
* **`queue_kept_or_merged`** — no queue is lost but by positive evidence.
* `shared_uri_hides_queue` — two queues at one device, of which one is left.
-/

namespace Oppa.Discovery

open Printer Text

/-- Whether two names are names of one queue. -/
def SameQueue (lowercase : String → String) (name other : String) : Prop :=
  lowercase (trim name) = lowercase (trim other)

section Merging

variable {lowercase : String → String} {group : List DiscoveredPrinter}
  {printer observation entry existing : DiscoveredPrinter}

/-! ## Groups -/

/-- A group of observations and what it is merged to: each observation shares an identity key with
what those before it were merged to. -/
inductive Merges (lowercase : String → String) : List DiscoveredPrinter → DiscoveredPrinter → Prop
  | single (observation : DiscoveredPrinter) : Merges lowercase [observation] observation
  | join {group : List DiscoveredPrinter} {entry observation : DiscoveredPrinter}
      (hmerges : Merges lowercase group entry)
      (hshares : sharesKey lowercase observation entry = true) :
      Merges lowercase (group ++ [observation]) (mergeObservation entry observation)

/-- How an observation came into a group that others began: it shares a key with what those before
it were merged to, and the result is connected as that. -/
structure Joins (lowercase : String → String) (earlier : List DiscoveredPrinter)
    (joined observation entry : DiscoveredPrinter) : Prop where
  merges : Merges lowercase earlier joined
  shares : sharesKey lowercase observation joined = true
  connection : entry.connection = joined.connection

/-- **The result of a group is connected as its first observation**; every other one joined it. -/
lemma Merges.head_or_joins (hmerges : Merges lowercase group entry) (hmem : observation ∈ group) :
    entry.connection = observation.connection ∨
      ∃ earlier joined, List.Sublist (earlier ++ [observation]) group ∧
        Joins lowercase earlier joined observation entry := by
  induction hmerges with
  | single first =>
      rw [List.mem_singleton.mp hmem]
      exact .inl rfl
  | @join group entry last hmerges hshares ih =>
      rcases List.mem_append.mp hmem with hold | hlast
      · rcases ih hold with hhead | ⟨earlier, joined, hsublist, hjoins⟩
        · exact .inl hhead
        · exact .inr ⟨earlier, joined, hsublist.trans (List.sublist_append_left _ _),
            { hjoins with connection := hjoins.connection }⟩
      · rw [List.mem_singleton.mp hlast]
        exact .inr ⟨group, entry, List.Sublist.refl _, hmerges, hshares, rfl⟩

lemma any_sameProvider_mergeProviders {destination source : List ProviderMetadata}
    {metadata : ProviderMetadata}
    (hmem : destination.any (sameProvider · metadata) = true ∨ metadata ∈ source) :
    (mergeProviders destination source).any (sameProvider · metadata) = true := by
  have hfold : ∀ (source kept : List ProviderMetadata),
      kept.any (sameProvider · metadata) = true ∨ metadata ∈ source →
      (source.foldl (fun kept provider =>
        if kept.any (sameProvider · provider) then kept else kept ++ [provider]) kept).any
          (sameProvider · metadata) = true := by
    intro source
    induction source with
    | nil =>
        rintro kept (hkept | hnil)
        · exact hkept
        · cases hnil
    | cons provider source ih =>
        intro kept hmem
        rw [List.foldl_cons]
        refine ih _ ?_
        rcases hmem with hkept | hsource
        · refine .inl ?_
          split_ifs
          · exact hkept
          · rw [List.any_append, hkept, Bool.true_or]
        · rcases List.mem_cons.mp hsource with rfl | hrest
          · refine .inl ?_
            split_ifs with hknown
            · exact hknown
            · simp [sameProvider]
          · exact .inr hrest
  have hany := hfold source destination hmem
  rw [List.any_eq_true] at hany ⊢
  rcases hany with ⟨found, hfound, hsame⟩
  exact ⟨found, List.mem_mergeSort.mpr hfound, hsame⟩

/-- The result of a group keeps the records of all its observations. -/
lemma Merges.keeps_record (hmerges : Merges lowercase group entry) (hmem : observation ∈ group)
    {metadata : ProviderMetadata} (hmetadata : metadata ∈ observation.providers) :
    entry.providers.any (sameProvider · metadata) = true := by
  induction hmerges with
  | single first =>
      rw [List.mem_singleton.mp hmem] at hmetadata
      rw [List.any_eq_true]
      exact ⟨metadata, hmetadata, by simp [sameProvider]⟩
  | @join group entry last hmerges hshares ih =>
      refine any_sameProvider_mergeProviders ?_
      rcases List.mem_append.mp hmem with hold | hlast
      · exact .inl (ih hold)
      · rw [List.mem_singleton.mp hlast] at hmetadata
        exact .inr hmetadata

/-! ## Every observation is in a group -/

/-- The printers that observations were merged to, by the groups they come from. -/
structure Covers (lowercase : String → String) (seen : List DiscoveredPrinter)
    (groups : List (List DiscoveredPrinter)) (merged : List DiscoveredPrinter) : Prop where
  merges : List.Forall₂ (Merges lowercase) groups merged
  sublist : ∀ group ∈ groups, List.Sublist group seen
  covered : ∀ observation ∈ seen, ∃ group ∈ groups, observation ∈ group

/-- One more observation begins a group of its own or joins the first it shares a key with. -/
lemma exists_forall₂_mergeInto (printer : DiscoveredPrinter)
    {groups : List (List DiscoveredPrinter)} {merged : List DiscoveredPrinter}
    (hmerges : List.Forall₂ (Merges lowercase) groups merged) :
    ∃ next, List.Forall₂ (Merges lowercase) next (mergeInto lowercase printer merged) ∧
      (∀ group ∈ next, group ∈ groups ∨ group = [printer] ∨
        ∃ old ∈ groups, group = old ++ [printer]) ∧
      (∃ group ∈ next, printer ∈ group) ∧
      ∀ group ∈ groups, ∃ found ∈ next, group ⊆ found := by
  induction hmerges with
  | nil =>
      refine ⟨[[printer]], .cons (.single printer) .nil, ?_, ?_, ?_⟩
      · intro group hgroup
        exact .inr (.inl (List.mem_singleton.mp hgroup))
      · exact ⟨[printer], List.mem_cons_self, List.mem_cons_self⟩
      · intro group hgroup
        cases hgroup
  | @cons group entry groups merged hhead hrest ih =>
      rw [mergeInto]
      split_ifs with hshares
      · refine ⟨(group ++ [printer]) :: groups, .cons (.join hhead hshares) hrest, ?_, ?_, ?_⟩
        · intro found hfound
          rcases List.mem_cons.mp hfound with rfl | hold
          · exact .inr (.inr ⟨group, List.mem_cons_self, rfl⟩)
          · exact .inl (List.mem_cons_of_mem _ hold)
        · exact ⟨_, List.mem_cons_self, List.mem_append_right _ List.mem_cons_self⟩
        · intro found hfound
          rcases List.mem_cons.mp hfound with rfl | hold
          · exact ⟨_, List.mem_cons_self, List.subset_append_left _ _⟩
          · exact ⟨found, List.mem_cons_of_mem _ hold, List.Subset.refl _⟩
      · rcases ih with ⟨next, hnext, horigin, ⟨joined, hjoined, hprinter⟩, hkept⟩
        refine ⟨group :: next, .cons hhead hnext, ?_, ?_, ?_⟩
        · intro found hfound
          rcases List.mem_cons.mp hfound with rfl | hnew
          · exact .inl List.mem_cons_self
          · rcases horigin found hnew with hold | hsingle | ⟨old, hold, rfl⟩
            · exact .inl (List.mem_cons_of_mem _ hold)
            · exact .inr (.inl hsingle)
            · exact .inr (.inr ⟨old, List.mem_cons_of_mem _ hold, rfl⟩)
        · exact ⟨joined, List.mem_cons_of_mem _ hjoined, hprinter⟩
        · intro found hfound
          rcases List.mem_cons.mp hfound with rfl | hold
          · exact ⟨found, List.mem_cons_self, List.Subset.refl _⟩
          · rcases hkept found hold with ⟨kept, hmem, hsubset⟩
            exact ⟨kept, List.mem_cons_of_mem _ hmem, hsubset⟩

lemma Covers.mergeInto {seen merged : List DiscoveredPrinter}
    {groups : List (List DiscoveredPrinter)} (hcovers : Covers lowercase seen groups merged)
    (printer : DiscoveredPrinter) :
    ∃ next, Covers lowercase (seen ++ [printer]) next (mergeInto lowercase printer merged) := by
  rcases exists_forall₂_mergeInto printer hcovers.merges with
    ⟨next, hnext, horigin, hprinter, hkept⟩
  refine ⟨next, hnext, ?_, ?_⟩
  · intro group hgroup
    rcases horigin group hgroup with hold | rfl | ⟨old, hold, rfl⟩
    · exact (hcovers.sublist group hold).trans (List.sublist_append_left _ _)
    · exact List.sublist_append_right _ _
    · exact (hcovers.sublist old hold).append (List.Sublist.refl _)
  · intro observation hobservation
    rcases List.mem_append.mp hobservation with hold | hnew
    · rcases hcovers.covered observation hold with ⟨group, hgroup, hmem⟩
      rcases hkept group hgroup with ⟨found, hfound, hsubset⟩
      exact ⟨found, hfound, hsubset hmem⟩
    · rw [List.mem_singleton.mp hnew]
      exact hprinter

/-- **Deduplication merges groups**, and leaves no observation out. -/
theorem exists_covers (lowercase : String → String) (printers : List DiscoveredPrinter) :
    ∃ groups, Covers lowercase printers groups
      (printers.foldl (fun merged printer => mergeInto lowercase printer merged) []) := by
  induction printers using List.reverseRecOn with
  | nil => exact ⟨[], .nil, fun _ hgroup => absurd hgroup List.not_mem_nil,
      fun _ hobservation => absurd hobservation List.not_mem_nil⟩
  | append_singleton printers printer ih =>
      rcases ih with ⟨groups, hcovers⟩
      rw [List.foldl_append]
      exact hcovers.mergeInto printer

/-- **No queue is lost but by positive evidence.**  The queue of an observation is the connection of
a printer of the result, or the observation shares an identity key with what observations before it
were merged to, and it was merged into that printer, which keeps its records. -/
theorem queue_kept_or_merged {printers : List DiscoveredPrinter} (hmem : observation ∈ printers)
    {queueName : String} (hqueue : observation.connection = .systemQueue queueName) :
    (∃ output ∈ deduplicate lowercase printers, ∃ name,
      output.connection = .systemQueue name ∧ SameQueue lowercase name queueName) ∨
    ∃ output ∈ deduplicate lowercase printers, ∃ earlier joined,
      List.Sublist (earlier ++ [observation]) printers ∧
        Joins lowercase earlier joined observation output ∧
        ∀ metadata ∈ observation.providers,
          output.providers.any (sameProvider · metadata) = true := by
  rcases exists_covers lowercase printers with ⟨groups, hcovers⟩
  rcases hcovers.covered observation hmem with ⟨group, hgroup, hobservation⟩
  rcases Result.exists_of_forall₂' hcovers.merges hgroup with ⟨output, houtput, hmerges⟩
  have hresult : output ∈ deduplicate lowercase printers := List.mem_mergeSort.mpr houtput
  rcases hmerges.head_or_joins hobservation with hhead | ⟨earlier, joined, hsublist, hjoins⟩
  · rw [hqueue] at hhead
    exact .inl ⟨output, hresult, queueName, hhead, rfl⟩
  · refine .inr ⟨output, hresult, earlier, joined, ?_, hjoins, ?_⟩
    · exact hsublist.trans (hcovers.sublist group hgroup)
    · exact fun metadata => hmerges.keeps_record hobservation

end Merging

/-! ## Two queues at one device -/

/-- `str::to_lowercase` of a text in ASCII. -/
def lowercaseAscii (text : String) : String := String.ofList (toAsciiLowercase text.toList)

/-- A queue that `lpstat` lists at the address of a printer. -/
def queueAtDevice (name : String) : DiscoveredPrinter :=
  (QueueReport.cups name (some "socket://10.0.0.9") .online none).observation

lemma queue_kept_or_merged_twoQueues :
    (∃ output ∈ deduplicate lowercaseAscii [queueAtDevice "front", queueAtDevice "back"], ∃ name,
      output.connection = .systemQueue name ∧ SameQueue lowercaseAscii name "back") ∨
    ∃ output ∈ deduplicate lowercaseAscii [queueAtDevice "front", queueAtDevice "back"],
      ∃ earlier joined, List.Sublist (earlier ++ [queueAtDevice "back"])
          [queueAtDevice "front", queueAtDevice "back"] ∧
        Joins lowercaseAscii earlier joined (queueAtDevice "back") output ∧
        ∀ metadata ∈ (queueAtDevice "back").providers,
          output.providers.any (sameProvider · metadata) = true :=
  queue_kept_or_merged (List.mem_cons_of_mem _ List.mem_cons_self) rfl

/-- Both queues are normalised as they are, and only the first is left. -/
lemma shared_uri_hides_queue :
    ¬ ∀ printers : List DiscoveredPrinter,
      (∀ printer ∈ printers, normalizePrinter printer = .ok printer) →
      ∀ observation ∈ printers, ∀ queueName, observation.connection = .systemQueue queueName →
      ∃ output ∈ deduplicate lowercaseAscii printers, ∃ name,
        output.connection = .systemQueue name ∧ SameQueue lowercaseAscii name queueName := by
  intro hclaim
  rcases hclaim [queueAtDevice "front", queueAtDevice "back"] (by decide +kernel)
    (queueAtDevice "back") (List.mem_cons_of_mem _ List.mem_cons_self) "back" rfl with
    ⟨output, houtput, name, hconnection, hsame⟩
  have hleft : ∀ output ∈ deduplicate lowercaseAscii [queueAtDevice "front", queueAtDevice "back"],
      output.connection = .systemQueue "front" := by
    decide +kernel
  rw [hleft output houtput, PrinterConnection.systemQueue.injEq] at hconnection
  rw [← hconnection] at hsame
  exact absurd hsame (by simp only [SameQueue]; decide +kernel)

end Oppa.Discovery
