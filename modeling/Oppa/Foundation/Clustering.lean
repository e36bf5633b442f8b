import Mathlib.Data.List.Induction
import Mathlib.Data.List.Nodup
import Mathlib.Data.List.Pairwise
import Mathlib.Data.List.Perm.Subperm
import Mathlib.Tactic.Lemma

/-!
# Greedy clustering

Items come one after another, and each is put into the first group that it joins.  Whether an item
joins a group may depend on everything that is in the group.

* `cluster` — the groups of some items, in the order in which they come.
* `Together` — two items in one group.
* `Coherent` — being near is transitive, and an item joins a group when it is near the first item.
* **`settled_iff_coherent`** — the groups do not depend on the order of the items if and only if the
  items are coherent.
* `Coherent.members_eq` — what the groups of coherent items are.
-/

namespace Clustering

variable {ι : Type}

/-- The items of a group, in the order in which they came. -/
structure Cluster (ι : Type) where
  first : ι
  others : List ι

/-- All items of a group. -/
def Cluster.members (group : Cluster ι) : List ι := group.first :: group.others

/-- A group with one item more. -/
def Cluster.add (group : Cluster ι) (i : ι) : Cluster ι :=
  { group with others := group.others ++ [i] }

@[simp] lemma Cluster.first_add (group : Cluster ι) (i : ι) :
    (group.add i).first = group.first := rfl

@[simp] lemma Cluster.members_add (group : Cluster ι) (i : ι) :
    (group.add i).members = group.members ++ [i] := rfl

@[simp] lemma Cluster.members_single (i : ι) : (Cluster.mk i []).members = [i] := rfl

lemma Cluster.first_mem (group : Cluster ι) : group.first ∈ group.members := List.mem_cons_self

section Definitions

variable (joins : ι → Cluster ι → Bool)

/-- Puts an item into the first group that it joins, or into a group of its own. -/
def place (i : ι) : List (Cluster ι) → List (Cluster ι)
  | [] => [⟨i, []⟩]
  | group :: groups => if joins i group then group.add i :: groups else group :: place i groups

/-- The groups of some items. -/
def cluster (is : List ι) : List (Cluster ι) := is.foldl (fun groups i => place joins i groups) []

/-- Two items in one group. -/
def Together (is : List ι) (i j : ι) : Prop :=
  ∃ group ∈ cluster joins is, i ∈ group.members ∧ j ∈ group.members

/-- An item that joins another one alone. -/
def near (i j : ι) : Bool := joins i ⟨j, []⟩

/-- Two items that are the same or near each other. -/
def Linked (i j : ι) : Prop := i = j ∨ near joins i j = true

instance [DecidableEq ι] (i j : ι) : Decidable (Linked joins i j) :=
  inferInstanceAs (Decidable (i = j ∨ near joins i j = true))

/-- **Coherent items**: being near is transitive, and an item joins a group of items near the first
of them exactly when it is near the first item. -/
structure Coherent (all : List ι) : Prop where
  trans : ∀ i ∈ all, ∀ j ∈ all, ∀ k ∈ all, i ≠ k → near joins i j = true → near joins j k = true →
    near joins i k = true
  steady : ∀ first others i, (first :: others ++ [i]).Nodup → first :: others ++ [i] ⊆ all →
    (∀ k ∈ others, near joins k first = true) → joins i ⟨first, others⟩ = near joins i first

end Definitions

variable {joins : ι → Cluster ι → Bool} {groups : List (Cluster ι)} {all is js : List ι} {i j k : ι}

/-! ## One item more -/

/-- An item goes into the first group that it joins, or it joins none and is put behind them. -/
lemma place_cases (joins : ι → Cluster ι → Bool) (i : ι) (groups : List (Cluster ι)) :
    (∃ before group after, groups = before ++ group :: after ∧ joins i group = true ∧
      (∀ other ∈ before, joins i other = false) ∧
      place joins i groups = before ++ group.add i :: after) ∨
    ((∀ group ∈ groups, joins i group = false) ∧ place joins i groups = groups ++ [⟨i, []⟩]) := by
  induction groups with
  | nil => exact .inr ⟨fun _ hgroup => absurd hgroup List.not_mem_nil, rfl⟩
  | cons group groups ih =>
      rw [place]
      split_ifs with hjoins
      · exact .inl ⟨[], group, groups, rfl, hjoins,
          fun _ hother => absurd hother List.not_mem_nil, rfl⟩
      · rw [Bool.not_eq_true] at hjoins
        rcases ih with ⟨before, found, after, rfl, hfound, hbefore, hplace⟩ | ⟨hnone, hplace⟩
        · refine .inl ⟨group :: before, found, after, rfl, hfound, ?_, by rw [hplace]; rfl⟩
          intro other hother
          rcases List.mem_cons.mp hother with rfl | hother
          · exact hjoins
          · exact hbefore other hother
        · refine .inr ⟨?_, by rw [hplace]; rfl⟩
          intro other hother
          rcases List.mem_cons.mp hother with rfl | hother
          · exact hjoins
          · exact hnone other hother

@[simp] lemma cluster_nil : cluster joins [] = [] := rfl

lemma cluster_concat : cluster joins (is ++ [i]) = place joins i (cluster joins is) := by
  rw [cluster, List.foldl_append]
  rfl

lemma members_place_perm :
    ((place joins i groups).flatMap Cluster.members).Perm
      (groups.flatMap Cluster.members ++ [i]) := by
  rcases place_cases joins i groups with ⟨before, group, after, rfl, _, _, hplace⟩ | ⟨_, hplace⟩
  · rw [hplace]
    simp only [List.flatMap_append, List.flatMap_cons, Cluster.members_add, List.append_assoc]
    refine List.Perm.append_left _ (List.Perm.append_left _ ?_)
    exact List.perm_append_comm
  · rw [hplace, List.flatMap_append, List.flatMap_singleton, Cluster.members_single]

/-- The groups hold every item once. -/
lemma members_cluster_perm : ((cluster joins is).flatMap Cluster.members).Perm is := by
  induction is using List.reverseRecOn with
  | nil => exact List.Perm.refl _
  | append_singleton is i ih =>
      rw [cluster_concat]
      exact (members_place_perm).trans (ih.append_right [i])

lemma exists_group (joins : ι → Cluster ι → Bool) (hi : i ∈ is) : ∃ group ∈ cluster joins is, i ∈ group.members :=
  List.mem_flatMap.mp ((members_cluster_perm).mem_iff.mpr hi)

lemma mem_of_members {group : Cluster ι} (hgroup : group ∈ cluster joins is)
    (hi : i ∈ group.members) : i ∈ is :=
  (members_cluster_perm).mem_iff.mp (List.mem_flatMap.mpr ⟨group, hgroup, hi⟩)

/-- An item that comes once is in one group. -/
lemma group_unique (hnodup : is.Nodup) {group other : Cluster ι} (hgroup : group ∈ cluster joins is)
    (hother : other ∈ cluster joins is) (hi : i ∈ group.members) (hi' : i ∈ other.members) :
    group = other := by
  have hflat : ((cluster joins is).flatMap Cluster.members).Nodup :=
    (members_cluster_perm).nodup_iff.mpr hnodup
  have hsymm : Std.Symm (Function.onFun List.Disjoint (Cluster.members (ι := ι))) :=
    ⟨fun _ _ hdisjoint _ hother hmember => hdisjoint hmember hother⟩
  by_contra hne
  exact (List.nodup_flatMap.mp hflat).2.forall hgroup hother hne hi hi'

/-! ## Being together -/

lemma Together.symm (htogether : Together joins is i j) : Together joins is j i := by
  rcases htogether with ⟨group, hgroup, hi, hj⟩
  exact ⟨group, hgroup, hj, hi⟩

lemma Together.trans (hnodup : is.Nodup) (hfirst : Together joins is i j)
    (hsecond : Together joins is j k) : Together joins is i k := by
  rcases hfirst with ⟨group, hgroup, hi, hj⟩
  rcases hsecond with ⟨other, hother, hj', hk⟩
  rw [← group_unique hnodup hgroup hother hj hj'] at hk
  exact ⟨group, hgroup, hi, hk⟩

/-- An item that comes later parts no others and brings none together. -/
lemma together_concat (hi : i ≠ k) (hj : j ≠ k) :
    Together joins (is ++ [k]) i j ↔ Together joins is i j := by
  rw [Together, Together, cluster_concat]
  rcases place_cases joins k (cluster joins is) with
    ⟨before, group, after, hgroups, _, _, hplace⟩ | ⟨_, hplace⟩
  · rw [hplace, hgroups]
    constructor
    · rintro ⟨found, hfound, hif, hjf⟩
      rcases List.mem_append.mp hfound with hbefore | hfound
      · exact ⟨found, List.mem_append_left _ hbefore, hif, hjf⟩
      · rcases List.mem_cons.mp hfound with rfl | hafter
        · rw [Cluster.members_add, List.mem_append, List.mem_singleton, or_iff_left hi] at hif
          rw [Cluster.members_add, List.mem_append, List.mem_singleton, or_iff_left hj] at hjf
          exact ⟨group, List.mem_append_right _ List.mem_cons_self, hif, hjf⟩
        · exact ⟨found, List.mem_append_right _ (List.mem_cons_of_mem _ hafter), hif, hjf⟩
    · rintro ⟨found, hfound, hif, hjf⟩
      rcases List.mem_append.mp hfound with hbefore | hfound
      · exact ⟨found, List.mem_append_left _ hbefore, hif, hjf⟩
      · rcases List.mem_cons.mp hfound with rfl | hafter
        · exact ⟨found.add k, List.mem_append_right _ List.mem_cons_self,
            List.mem_append_left _ hif, List.mem_append_left _ hjf⟩
        · exact ⟨found, List.mem_append_right _ (List.mem_cons_of_mem _ hafter), hif, hjf⟩
  · rw [hplace]
    simp [Cluster.members, hi, hj]

lemma together_append (hnodup : (is ++ js).Nodup) (hi : i ∈ is) (hj : j ∈ is) :
    Together joins (is ++ js) i j ↔ Together joins is i j := by
  induction js using List.reverseRecOn with
  | nil => rw [List.append_nil]
  | append_singleton js k ih =>
      rw [← List.append_assoc] at hnodup ⊢
      have hnew : k ∉ is ++ js := fun hk =>
        List.disjoint_of_nodup_append hnodup hk (List.mem_singleton_self k)
      have hne : ∀ old ∈ is, old ≠ k := fun old hold heq =>
        hnew (List.mem_append_left _ (heq ▸ hold))
      rw [together_concat (hne i hi) (hne j hj)]
      exact ih (List.nodup_append.mp hnodup).1

/-- Two items alone are together when the later one joins the earlier one. -/
lemma together_pair (hne : i ≠ j) : Together joins [i, j] i j ↔ near joins j i = true := by
  have hcluster : cluster joins [i, j] = place joins j [⟨i, []⟩] := rfl
  rw [Together, hcluster, place, near]
  split_ifs with hjoins
  · simp [Cluster.members, Cluster.add, hjoins]
  · simp [Cluster.members, place, hne, hjoins, Ne.symm hne]

/-! ## Coherent items in groups -/

/-- What is known of the groups of coherent items: each is of items near its first one, in the order
in which they came, and no two first items are linked. -/
structure Sound (joins : ι → Cluster ι → Bool) (is : List ι) : Prop where
  sublist : ∀ group ∈ cluster joins is, group.members.Sublist is
  close : ∀ group ∈ cluster joins is, ∀ k ∈ group.others, near joins k group.first = true
  apart : ((cluster joins is).map Cluster.first).Pairwise fun i j => ¬ Linked joins j i

lemma Coherent.sound_concat (hcoherent : Coherent joins all) (hnodup : (is ++ [i]).Nodup)
    (hsubset : is ++ [i] ⊆ all) (hsound : Sound joins is) : Sound joins (is ++ [i]) := by
  have hnew : i ∉ is := fun hi =>
    List.disjoint_of_nodup_append hnodup hi (List.mem_singleton_self i)
  have hjoins : ∀ group ∈ cluster joins is, joins i group = near joins i group.first := by
    intro group hgroup
    have hmembers := (hsound.sublist group hgroup).append (List.Sublist.refl [i])
    exact hcoherent.steady group.first group.others i (hnodup.sublist hmembers)
      (fun k hk => hsubset (hmembers.subset hk)) (hsound.close group hgroup)
  have hold : ∀ group ∈ cluster joins is, group.members.Sublist (is ++ [i]) := fun group hgroup =>
    (hsound.sublist group hgroup).trans (List.sublist_append_left _ _)
  rcases place_cases joins i (cluster joins is) with
    ⟨before, group, after, hgroups, hjoined, _, hplace⟩ | ⟨hnone, hplace⟩
  · have hgroup : group ∈ cluster joins is := by
      rw [hgroups]
      exact List.mem_append_right _ List.mem_cons_self
    have hmem : ∀ found ∈ cluster joins (is ++ [i]),
        found = group.add i ∨ found ∈ cluster joins is := by
      intro found hfound
      rw [cluster_concat, hplace] at hfound
      rw [hgroups]
      rcases List.mem_append.mp hfound with hbefore | hfound
      · exact .inr (List.mem_append_left _ hbefore)
      · rcases List.mem_cons.mp hfound with rfl | hafter
        · exact .inl rfl
        · exact .inr (List.mem_append_right _ (List.mem_cons_of_mem _ hafter))
    refine ⟨?_, ?_, ?_⟩
    · intro found hfound
      rcases hmem found hfound with rfl | hfound
      · exact (hsound.sublist group hgroup).append (List.Sublist.refl [i])
      · exact hold found hfound
    · intro found hfound k hk
      rcases hmem found hfound with rfl | hfound
      · rcases List.mem_append.mp hk with hk | hk
        · exact hsound.close group hgroup k hk
        · rw [List.mem_singleton.mp hk, Cluster.first_add, ← hjoins group hgroup]
          exact hjoined
      · exact hsound.close found hfound k hk
    · have hapart := hsound.apart
      rw [hgroups] at hapart
      rw [cluster_concat, hplace]
      simpa only [List.map_append, List.map_cons, Cluster.first_add] using hapart
  · have hcluster : cluster joins (is ++ [i]) = cluster joins is ++ [⟨i, []⟩] := by
      rw [cluster_concat, hplace]
    refine ⟨?_, ?_, ?_⟩
    · intro found hfound
      rw [hcluster] at hfound
      rcases List.mem_append.mp hfound with hfound | hfound
      · exact hold found hfound
      · rw [List.mem_singleton.mp hfound]
        exact List.sublist_append_right _ _
    · intro found hfound k hk
      rw [hcluster] at hfound
      rcases List.mem_append.mp hfound with hfound | hfound
      · exact hsound.close found hfound k hk
      · rw [List.mem_singleton.mp hfound] at hk
        cases hk
    · rw [hcluster, List.map_append, List.map_singleton, List.pairwise_append]
      refine ⟨hsound.apart, List.pairwise_singleton _ _, ?_⟩
      intro first hfirst new hmem
      rw [List.mem_singleton.mp hmem]
      rcases List.mem_map.mp hfirst with ⟨group, hgroup, rfl⟩
      rintro (rfl | hnear)
      · exact hnew (mem_of_members hgroup group.first_mem)
      · rw [← hjoins group hgroup, hnone group hgroup] at hnear
        cases hnear

lemma Coherent.sound (hcoherent : Coherent joins all) (hnodup : is.Nodup) (hsubset : is ⊆ all) :
    Sound joins is := by
  induction is using List.reverseRecOn with
  | nil =>
      refine ⟨?_, ?_, List.Pairwise.nil⟩
      · intro group hgroup
        cases hgroup
      · intro group hgroup
        cases hgroup
  | append_singleton is i ih =>
      refine hcoherent.sound_concat hnodup hsubset (ih (List.nodup_append.mp hnodup).1 ?_)
      exact fun k hk => hsubset (List.mem_append_left _ hk)

lemma Coherent.linked_trans (hcoherent : Coherent joins all) (hi : i ∈ all) (hj : j ∈ all)
    (hk : k ∈ all) (hfirst : Linked joins i j) (hsecond : Linked joins j k) :
    Linked joins i k := by
  rcases hfirst with rfl | hfirst
  · exact hsecond
  · rcases hsecond with rfl | hsecond
    · exact .inr hfirst
    · by_cases heq : i = k
      · exact .inl heq
      · exact .inr (hcoherent.trans i hi j hj k hk heq hfirst hsecond)

lemma Sound.linked_first (hsound : Sound joins is) {group : Cluster ι}
    (hgroup : group ∈ cluster joins is) (hi : i ∈ group.members) : Linked joins i group.first := by
  rcases List.mem_cons.mp hi with rfl | hother
  · exact .inl rfl
  · exact .inr (hsound.close group hgroup i hother)

section Symmetric

variable (hsymm : ∀ i j, near joins i j = near joins j i)
include hsymm

lemma Linked.symm (hlinked : Linked joins i j) : Linked joins j i := by
  rcases hlinked with rfl | hnear
  · exact .inl rfl
  · exact .inr (hsymm i j ▸ hnear)

/-- **Coherent items are together when they are linked.** -/
theorem Coherent.together_iff (hcoherent : Coherent joins all) (hnodup : is.Nodup)
    (hsubset : is ⊆ all) : Together joins is i j ↔ i ∈ is ∧ j ∈ is ∧ Linked joins i j := by
  have hsound := hcoherent.sound hnodup hsubset
  have hmem : ∀ group ∈ cluster joins is, ∀ i ∈ group.members, i ∈ all := fun group hgroup i hi =>
    hsubset (mem_of_members hgroup hi)
  constructor
  · rintro ⟨group, hgroup, hi, hj⟩
    refine ⟨mem_of_members hgroup hi, mem_of_members hgroup hj, ?_⟩
    have hfirst := hmem group hgroup group.first group.first_mem
    exact hcoherent.linked_trans (hmem group hgroup i hi) hfirst (hmem group hgroup j hj)
      (hsound.linked_first hgroup hi) ((hsound.linked_first hgroup hj).symm hsymm)
  · rintro ⟨hi, hj, hlinked⟩
    rcases exists_group joins hi with ⟨group, hgroup, hig⟩
    rcases exists_group joins hj with ⟨other, hother, hjo⟩
    have hfirsts : Linked joins group.first other.first := by
      have hfirst := hmem group hgroup group.first group.first_mem
      have hsecond := hmem other hother other.first other.first_mem
      have hback := (hsound.linked_first hgroup hig).symm hsymm
      have hmiddle := hcoherent.linked_trans hfirst (hsubset hi) (hsubset hj) hback hlinked
      exact hcoherent.linked_trans hfirst (hsubset hj) hsecond hmiddle
        (hsound.linked_first hother hjo)
    have hapart := List.pairwise_map.mp hsound.apart
    have hstd : Std.Symm fun group other : Cluster ι => ¬ Linked joins other.first group.first :=
      ⟨fun _ _ hnot hlinked => hnot (hlinked.symm hsymm)⟩
    have heq : group = other := by
      by_contra hne
      exact hapart.forall hgroup hother hne (hfirsts.symm hsymm)
    rw [← heq] at hjo
    exact ⟨group, hgroup, hig, hjo⟩

end Symmetric

/-! ## Groups that do not depend on the order -/

/-- Which items are together does not depend on the order in which they come. -/
def Settled (joins : ι → Cluster ι → Bool) (all : List ι) : Prop :=
  ∀ is, is.Perm all → ∀ i j, Together joins is i j ↔ Together joins all i j

/-- Some of the items can come first. -/
lemma exists_append_perm (hnodup : is.Nodup) (hsubset : is ⊆ all) :
    ∃ rest, (is ++ rest).Perm all := by
  rcases List.subperm_of_subset hnodup hsubset with ⟨found, hperm, hsublist⟩
  rcases hsublist.exists_perm_append with ⟨rest, hrest⟩
  exact ⟨rest, (hperm.symm.append_right rest).trans hrest.symm⟩

lemma Settled.together_iff (hsettled : Settled joins all) (hall : all.Nodup) (hnodup : is.Nodup)
    (hsubset : is ⊆ all) (hi : i ∈ is) (hj : j ∈ is) :
    Together joins is i j ↔ Together joins all i j := by
  rcases exists_append_perm hnodup hsubset with ⟨rest, hperm⟩
  rw [← hsettled _ hperm]
  exact (together_append (hperm.nodup_iff.mpr hall) hi hj).symm

/-- Items are together when one joins the other. -/
lemma Settled.near_iff (hsettled : Settled joins all) (hall : all.Nodup) (hi : i ∈ all)
    (hj : j ∈ all) (hne : i ≠ j) : near joins i j = true ↔ Together joins all i j := by
  have hsubset : [j, i] ⊆ all := by
    intro k hk
    simp only [List.mem_cons, List.not_mem_nil, or_false] at hk
    rcases hk with rfl | rfl
    · exact hj
    · exact hi
  rw [← together_pair (Ne.symm hne), hsettled.together_iff hall (by simp [Ne.symm hne]) hsubset
    List.mem_cons_self (List.mem_cons_of_mem _ List.mem_cons_self)]
  exact ⟨Together.symm, Together.symm⟩

/-- An item joins a group that came first alone when it is near its first item. -/
lemma Settled.joins_eq (hsettled : Settled joins all) (hall : all.Nodup) {first : ι}
    {others : List ι} (hnodup : (first :: others ++ [i]).Nodup)
    (hsubset : first :: others ++ [i] ⊆ all)
    (hcluster : cluster joins (first :: others) = [⟨first, others⟩]) :
    joins i ⟨first, others⟩ = near joins i first := by
  have hnew : i ∉ first :: others := fun hi =>
    List.disjoint_of_nodup_append hnodup hi (List.mem_singleton_self i)
  have hi : i ∈ first :: others ++ [i] := List.mem_append_right _ (List.mem_singleton_self i)
  have hfirst : first ∈ first :: others ++ [i] := List.mem_append_left _ List.mem_cons_self
  have hne : i ≠ first := fun heq => hnew (heq ▸ List.mem_cons_self)
  have hnear := hsettled.near_iff hall (hsubset hi) (hsubset hfirst) hne
  rw [← hsettled.together_iff hall hnodup hsubset hi hfirst, Together, cluster_concat, hcluster,
    place] at hnear
  rw [Bool.eq_iff_iff, hnear]
  split_ifs with hjoins
  · simp [hjoins, Cluster.members, Cluster.add]
  · rw [List.mem_cons, not_or] at hnew
    simp [Cluster.members, place, hjoins, hnew.2, hne, Ne.symm hne]

lemma Settled.cluster_eq (hsettled : Settled joins all) (hall : all.Nodup) {first : ι}
    {others : List ι} (hnodup : (first :: others).Nodup) (hsubset : first :: others ⊆ all)
    (hnear : ∀ k ∈ others, near joins k first = true) :
    cluster joins (first :: others) = [⟨first, others⟩] := by
  induction others using List.reverseRecOn with
  | nil => rfl
  | append_singleton others k ih =>
      rw [← List.cons_append] at hnodup hsubset ⊢
      have hbefore := ih (List.nodup_append.mp hnodup).1
        (fun i hi => hsubset (List.mem_append_left _ hi))
        (fun i hi => hnear i (List.mem_append_left _ hi))
      have hjoins := hsettled.joins_eq hall hnodup hsubset hbefore
      rw [hnear k (List.mem_append_right _ (List.mem_singleton_self k))] at hjoins
      rw [cluster_concat, hbefore, place, if_pos hjoins]
      rfl

/-- **The groups do not depend on the order of the items if and only if the items are coherent.** -/
theorem settled_iff_coherent (hall : all.Nodup)
    (hsymm : ∀ i j, near joins i j = near joins j i) :
    Settled joins all ↔ Coherent joins all := by
  constructor
  · intro hsettled
    refine ⟨?_, ?_⟩
    · intro i hi j hj k hk hne hfirst hsecond
      by_cases hij : i = j
      · rw [hij]
        exact hsecond
      · by_cases hjk : j = k
        · rw [← hjk]
          exact hfirst
        · rw [hsettled.near_iff hall hi hj hij] at hfirst
          rw [hsettled.near_iff hall hj hk hjk] at hsecond
          rw [hsettled.near_iff hall hi hk hne]
          exact hfirst.trans hall hsecond
    · intro first others i hnodup hsubset hnear
      refine hsettled.joins_eq hall hnodup hsubset ?_
      exact hsettled.cluster_eq hall (List.nodup_append.mp hnodup).1
        (fun k hk => hsubset (List.mem_append_left _ hk)) hnear
  · intro hcoherent is hperm i j
    rw [hcoherent.together_iff hsymm (hperm.nodup_iff.mpr hall) hperm.subset,
      hcoherent.together_iff hsymm hall (List.Subset.refl _), hperm.mem_iff, hperm.mem_iff]

/-- **The groups of coherent items** are the items linked to each other, in their order. -/
lemma Coherent.members_eq [DecidableEq ι] (hcoherent : Coherent joins all) (hall : all.Nodup)
    (hsymm : ∀ i j, near joins i j = near joins j i) {group : Cluster ι}
    (hgroup : group ∈ cluster joins all) (hi : i ∈ group.members) :
    group.members = all.filter fun k => Linked joins i k := by
  have hsound := hcoherent.sound hall (List.Subset.refl _)
  have hmem : ∀ k ∈ all, k ∈ group.members ↔ Linked joins i k := by
    intro k hk
    have htogether := hcoherent.together_iff (i := i) (j := k) hsymm hall (List.Subset.refl _)
    constructor
    · intro hkg
      exact (htogether.mp ⟨group, hgroup, hi, hkg⟩).2.2
    · intro hlinked
      rcases htogether.mpr ⟨mem_of_members hgroup hi, hk, hlinked⟩ with ⟨other, hother, hio, hko⟩
      rw [group_unique hall hgroup hother hi hio]
      exact hko
  have hfilter : group.members.filter (fun k => Linked joins i k) = group.members := by
    rw [List.filter_eq_self]
    intro k hk
    exact decide_eq_true ((hmem k (mem_of_members hgroup hk)).mp hk)
  have hsublist := (hsound.sublist group hgroup).filter fun k => Linked joins i k
  rw [hfilter] at hsublist
  have hsubset : (all.filter fun k => Linked joins i k) ⊆ group.members := by
    intro k hk
    rw [List.mem_filter] at hk
    exact (hmem k hk.1).mpr (of_decide_eq_true hk.2)
  have hlength := (List.subperm_of_subset (hall.filter _) hsubset).length_le
  exact hsublist.eq_of_length_le hlength

end Clustering
