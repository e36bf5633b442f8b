import Mathlib.Data.List.Sort
import Oppa.Foundation.Json

/-!
# JSON trees

JSON values over any type of numbers and any type of strings: what a reader has in hand before it
knows which type a value is meant to have.  Programs in different languages keep numbers and strings
differently, and read the same text into different trees.

* `Tree` — the trees.  An object is a finite map: its members stand in the order of their keys, and
  the order in which a program wrote them is not kept.
* `Tree.map` — a change of the numbers and the strings.
* `Tree.Ordered` — every object is in order, so that no key stands twice.
* `Value.tree` — a serialized value as a tree.
-/

namespace Json

/-- JSON values over numbers `ν` and strings `σ`. -/
inductive Tree (ν σ : Type)
  | null
  | bool (b : Bool)
  | number (n : ν)
  | string (s : σ)
  | array (items : List (Tree ν σ))
  | object (members : List (σ × Tree ν σ))
  deriving Repr

namespace Tree

variable {ν σ ν' σ' : Type}

/-! ## Equality -/

section Equality

variable [DecidableEq ν] [DecidableEq σ]

mutual

/-- Whether two trees are the same. -/
def beq : Tree ν σ → Tree ν σ → Bool
  | .null, .null => true
  | .bool a, .bool b => a = b
  | .number m, .number n => m = n
  | .string s, .string t => s = t
  | .array as, .array bs => beqItems as bs
  | .object as, .object bs => beqMembers as bs
  | _, _ => false

/-- Whether two lists of trees are the same. -/
def beqItems : List (Tree ν σ) → List (Tree ν σ) → Bool
  | [], [] => true
  | a :: as, b :: bs => beq a b && beqItems as bs
  | _, _ => false

/-- Whether two lists of members are the same. -/
def beqMembers : List (σ × Tree ν σ) → List (σ × Tree ν σ) → Bool
  | [], [] => true
  | (k, a) :: as, (l, b) :: bs => k = l && beq a b && beqMembers as bs
  | _, _ => false

end

mutual

lemma beq_iff : ∀ a b : Tree ν σ, beq a b = true ↔ a = b
  | .null, b => by cases b <;> simp [beq]
  | .bool x, b => by cases b <;> simp [beq]
  | .number n, b => by cases b <;> simp [beq]
  | .string s, b => by cases b <;> simp [beq]
  | .array as, b => by
      cases b with
      | array bs => simpa [beq] using beqItems_iff as bs
      | _ => simp [beq]
  | .object as, b => by
      cases b with
      | object bs => simpa [beq] using beqMembers_iff as bs
      | _ => simp [beq]

lemma beqItems_iff : ∀ as bs : List (Tree ν σ), beqItems as bs = true ↔ as = bs
  | [], bs => by cases bs <;> simp [beqItems]
  | a :: as, [] => by simp [beqItems]
  | a :: as, b :: bs => by simp [beqItems, beq_iff a b, beqItems_iff as bs]

lemma beqMembers_iff : ∀ as bs : List (σ × Tree ν σ), beqMembers as bs = true ↔ as = bs
  | [], bs => by cases bs <;> simp [beqMembers]
  | a :: as, [] => by simp [beqMembers]
  | (k, a) :: as, (l, b) :: bs => by
      simp [beqMembers, beq_iff a b, beqMembers_iff as bs, and_assoc]

end

instance : DecidableEq (Tree ν σ) := fun a b => decidable_of_iff _ (beq_iff a b)

end Equality

/-! ## Changing numbers and strings -/

section Map

variable (f : ν → ν') (g : σ → σ')

mutual

/-- The tree with its numbers and its strings changed, keys included. -/
def map : Tree ν σ → Tree ν' σ'
  | .null => .null
  | .bool b => .bool b
  | .number n => .number (f n)
  | .string s => .string (g s)
  | .array items => .array (mapItems items)
  | .object members => .object (mapMembers members)

/-- The items of an array, changed. -/
def mapItems : List (Tree ν σ) → List (Tree ν' σ')
  | [] => []
  | item :: items => map item :: mapItems items

/-- The members of an object, changed. -/
def mapMembers : List (σ × Tree ν σ) → List (σ' × Tree ν' σ')
  | [] => []
  | (key, item) :: members => (g key, map item) :: mapMembers members

end

lemma mapItems_eq (items : List (Tree ν σ)) : mapItems f g items = items.map (map f g) := by
  induction items with
  | nil => rfl
  | cons item items ih => rw [mapItems, ih, List.map_cons]

lemma mapMembers_eq (members : List (σ × Tree ν σ)) :
    mapMembers f g members = members.map fun member => (g member.1, map f g member.2) := by
  induction members with
  | nil => rfl
  | cons member members ih => rw [mapMembers, ih, List.map_cons]

@[simp] lemma map_null : map f g .null = .null := rfl

@[simp] lemma map_bool (b : Bool) : map f g (.bool b) = .bool b := rfl

@[simp] lemma map_number (n : ν) : map f g (.number n) = .number (f n) := rfl

@[simp] lemma map_string (s : σ) : map f g (.string s) = .string (g s) := rfl

@[simp] lemma map_array (items : List (Tree ν σ)) :
    map f g (.array items) = .array (items.map (map f g)) := by
  rw [map, mapItems_eq]

@[simp] lemma map_object (members : List (σ × Tree ν σ)) :
    map f g (.object members) =
      .object (members.map fun member => (g member.1, map f g member.2)) := by
  rw [map, mapMembers_eq]

end Map

/-! ## Order of the members -/

section Order

variable {κ : Type} [LT κ] (key : σ → κ)

mutual

/-- The members of every object stand in the order of their keys. -/
def Ordered : Tree ν σ → Prop
  | .array items => OrderedItems items
  | .object members => (members.map fun member => key member.1).Pairwise (· < ·) ∧
      OrderedMembers members
  | _ => True

/-- The items of an array are in order. -/
def OrderedItems : List (Tree ν σ) → Prop
  | [] => True
  | item :: items => Ordered item ∧ OrderedItems items

/-- The members of an object are in order themselves. -/
def OrderedMembers : List (σ × Tree ν σ) → Prop
  | [] => True
  | (_, item) :: members => Ordered item ∧ OrderedMembers members

end

lemma orderedItems_iff (items : List (Tree ν σ)) :
    OrderedItems key items ↔ ∀ item ∈ items, Ordered key item := by
  induction items with
  | nil => simp [OrderedItems]
  | cons item items ih => simp [OrderedItems, ih]

lemma orderedMembers_iff (members : List (σ × Tree ν σ)) :
    OrderedMembers key members ↔ ∀ member ∈ members, Ordered key member.2 := by
  induction members with
  | nil => simp [OrderedMembers]
  | cons member members ih => simp [OrderedMembers, ih]

@[simp] lemma ordered_null : Ordered key (.null : Tree ν σ) := trivial

@[simp] lemma ordered_bool (b : Bool) : Ordered key (.bool b : Tree ν σ) := trivial

@[simp] lemma ordered_number (n : ν) : Ordered key (.number n : Tree ν σ) := trivial

@[simp] lemma ordered_string (s : σ) : Ordered key (.string s : Tree ν σ) := trivial

@[simp] lemma ordered_array {items : List (Tree ν σ)} :
    Ordered key (.array items) ↔ ∀ item ∈ items, Ordered key item := by
  rw [Ordered, orderedItems_iff]

@[simp] lemma ordered_object {members : List (σ × Tree ν σ)} :
    Ordered key (.object members) ↔
      (members.map fun member => key member.1).Pairwise (· < ·) ∧
        ∀ member ∈ members, Ordered key member.2 := by
  rw [Ordered, orderedMembers_iff]

end Order

end Tree

/-! ## Serialized values -/

namespace Value

variable {ν σ : Type} (f : ℤ → ν) (g : String → σ)

mutual

/-- A serialized value as a tree. -/
def tree : Value → Tree ν σ
  | .null => .null
  | .bool b => .bool b
  | .number n => .number (f n)
  | .string s => .string (g s)
  | .array items => .array (treeItems items)
  | .object members => .object (treeMembers members)

/-- The items of a serialized array. -/
def treeItems : List Value → List (Tree ν σ)
  | [] => []
  | item :: items => tree item :: treeItems items

/-- The members of a serialized object. -/
def treeMembers : List (String × Value) → List (σ × Tree ν σ)
  | [] => []
  | (key, item) :: members => (g key, tree item) :: treeMembers members

end

lemma treeItems_eq (items : List Value) : treeItems f g items = items.map (tree f g) := by
  induction items with
  | nil => rfl
  | cons item items ih => rw [treeItems, ih, List.map_cons]

lemma treeMembers_eq (members : List (String × Value)) :
    treeMembers f g members = members.map fun member => (g member.1, tree f g member.2) := by
  induction members with
  | nil => rfl
  | cons member members ih => rw [treeMembers, ih, List.map_cons]

@[simp] lemma tree_null : tree f g .null = .null := rfl

@[simp] lemma tree_bool (b : Bool) : tree f g (.bool b) = .bool b := rfl

@[simp] lemma tree_number (n : ℤ) : tree f g (.number n) = .number (f n) := rfl

@[simp] lemma tree_string (s : String) : tree f g (.string s) = .string (g s) := rfl

@[simp] lemma tree_array (items : List Value) :
    tree f g (.array items) = .array (items.map (tree f g)) := by
  rw [tree, treeItems_eq]

@[simp] lemma tree_object (members : List (String × Value)) :
    tree f g (.object members) =
      .object (members.map fun member => (g member.1, tree f g member.2)) := by
  rw [tree, treeMembers_eq]

end Value

end Json
