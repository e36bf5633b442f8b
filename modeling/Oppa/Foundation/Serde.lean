import Mathlib.Data.Rat.Defs
import Oppa.Foundation.Result
import Oppa.Foundation.Tree

/-!
# Derived deserializers

What the deserializers derived for a data type read, as functions on JSON trees.

* `Number`, `Content` — a JSON value as the reader of a text leaves it.
* `record`, `variant`, `tagged`, … — the readers: of a structure, of an enumeration without data, of
  an enumeration with its tag inside.  They take what the derived code takes: `null` for a field
  that may be absent, the fields of a structure in order instead of by name, a variant without data
  as the key of `null`, and any member beside the tag of such a variant.
* `uint16_read`, `nullable_content`, `array_content`, … — a reader finds again what was serialized.
-/

namespace Serde

open Json

/-- A JSON number: an integer literal of at most 64 bits, or a double. -/
inductive Number
  | int (n : ℤ)
  | float (q : ℚ)
  deriving DecidableEq

/-- A JSON value as the reader of a text leaves it. -/
abbrev Content := Tree Number String

/-- The reader of a type. -/
abbrev Decoder (α : Type) := Content → Option α

/-! ## Readers -/

/-- A truth value. -/
def bool : Decoder Bool
  | .bool b => some b
  | _ => none

/-- A text. -/
def string : Decoder String
  | .string s => some s
  | _ => none

/-- A natural number below a bound. -/
def natural (bound : ℕ) : Decoder ℕ
  | .number (.int (.ofNat n)) => if n < bound then some n else none
  | _ => none

/-- `u8`. -/
def uint8 : Decoder UInt8 := fun content => (natural (2 ^ 8) content).map UInt8.ofNat

/-- `u16`. -/
def uint16 : Decoder UInt16 := fun content => (natural (2 ^ 16) content).map UInt16.ofNat

/-- `u32`. -/
def uint32 : Decoder UInt32 := fun content => (natural (2 ^ 32) content).map UInt32.ofNat

/-- `u64`. -/
def uint64 : Decoder UInt64 := fun content => (natural (2 ^ 64) content).map UInt64.ofNat

/-- `Vec`. -/
def array {α : Type} (item : Decoder α) : Decoder (List α)
  | .array items => items.mapM item
  | _ => none

/-- `Option`: `null` is an absent value. -/
def nullable {α : Type} (value : Decoder α) : Decoder (Option α)
  | .null => some none
  | content => (value content).map some

/-- An enumeration whose variants carry nothing: the name of one, or an object with the name as its
only key. -/
def variant {α : Type} (names : List (String × α)) : Decoder α
  | .string name => names.lookup name
  | .object [(name, .null)] => names.lookup name
  | _ => none

/-- A field that must be there. -/
def required {α : Type} (members : List (String × Content)) (key : String) (field : Decoder α) :
    Option α :=
  (members.lookup key).bind field

/-- A field that may be left out. -/
def optional {α : Type} (members : List (String × Content)) (key : String) (field : Decoder α) :
    Option (Option α) :=
  match members.lookup key with
  | none => some none
  | some content => nullable field content

/-- A field with a default. -/
def defaulted {α : Type} (members : List (String × Content)) (key : String) (value : α)
    (field : Decoder α) : Option α :=
  match members.lookup key with
  | none => some value
  | some content => field content

/-- A structure that refuses unknown fields: its members by name, or its fields in order, of which
those behind `needed` may be left out. -/
def record {α : Type} (keys : List String) (needed : ℕ)
    (read : List (String × Content) → Option α) : Decoder α
  | .object members => if members.all fun member => member.1 ∈ keys then read members else none
  | .array items =>
      if needed ≤ items.length ∧ items.length ≤ keys.length then read (keys.zip items) else none
  | _ => none

/-- A variant without data of an enumeration with its tag inside: whatever stands beside the tag is
skipped. -/
def unit {α : Type} (value : α) : Decoder α
  | .object _ => some value
  | .array [] => some value
  | _ => none

/-- An enumeration with its tag inside: the tag names the variant, which is read from the other
members. -/
def tagged {α : Type} (tag : String) (variants : String → Decoder α) : Decoder α
  | .object members =>
      match members.lookup tag with
      | some (.string name) => variants name (.object (members.filter (·.1 ≠ tag)))
      | _ => none
  | .array (.string name :: items) => variants name (.array items)
  | _ => none

/-- An enumeration with its tag and its data beside each other. -/
def adjacent {α : Type} (tag data : String) (variants : String → Option Content → Option α) :
    Decoder α
  | .object members =>
      match members.lookup tag with
      | some (.string name) => variants name (members.lookup data)
      | _ => none
  | .array [.string name, item] => variants name (some item)
  | _ => none

/-- A map from texts to texts. -/
def textMap : Decoder (List (String × String))
  | .object members => members.mapM fun member => (string member.2).map fun value => (member.1, value)
  | _ => none

/-! ## What was serialized -/

/-- How an optional value is serialized that is not left out. -/
def nullValue {α : Type} (write : α → Value) : Option α → Value
  | none => .null
  | some value => write value

/-- How a map from texts to texts is serialized. -/
def textMapValue (entries : List (String × String)) : Value :=
  .object (entries.map fun entry => (entry.1, .string entry.2))

/-- A serialized value as its reader finds it. -/
abbrev content (value : Value) : Content := value.tree Number.int id

variable {α β : Type}

@[simp] lemma bool_read (b : Bool) : bool (.bool b) = some b := rfl

@[simp] lemma string_read (s : String) : string (.string s) = some s := rfl

lemma natural_read {bound n : ℕ} (hlt : n < bound) :
    natural bound (.number (.int n)) = some n := by
  show (if n < bound then some n else none) = some n
  rw [if_pos hlt]

@[simp] lemma uint8_read (n : UInt8) : uint8 (.number (.int n.toNat)) = some n := by
  rw [uint8, natural_read n.toNat_lt, Option.map_some, UInt8.ofNat_toNat]

@[simp] lemma uint16_read (n : UInt16) : uint16 (.number (.int n.toNat)) = some n := by
  rw [uint16, natural_read n.toNat_lt, Option.map_some, UInt16.ofNat_toNat]

@[simp] lemma uint32_read (n : UInt32) : uint32 (.number (.int n.toNat)) = some n := by
  rw [uint32, natural_read n.toNat_lt, Option.map_some, UInt32.ofNat_toNat]

@[simp] lemma uint64_read (n : UInt64) : uint64 (.number (.int n.toNat)) = some n := by
  rw [uint64, natural_read n.toNat_lt, Option.map_some, UInt64.ofNat_toNat]

/-- An optional value is read back when the value is. -/
lemma nullable_content {item : Decoder α} {write : α → Value} {value : Option α}
    (hnull : item .null = none)
    (hitem : ∀ found, value = some found → item (content (write found)) = some found) :
    nullable item (content (nullValue write value)) = some value := by
  cases value with
  | none => rfl
  | some found =>
      have hread := hitem found rfl
      rw [nullValue]
      generalize content (write found) = tree at hread
      cases tree with
      | null =>
          rw [hnull] at hread
          cases hread
      | _ => simp only [nullable, hread, Option.map_some]

@[simp] lemma textMap_content (entries : List (String × String)) :
    textMap (content (textMapValue entries)) = some entries := by
  simp only [textMapValue, content, Value.tree_object, List.map_map, textMap]
  induction entries with
  | nil => rfl
  | cons entry entries ih =>
      rw [List.map_cons, List.mapM_cons, ih]
      rfl

/-- The items of a list are read one by one. -/
lemma forall₂_of_array {item : Decoder α} {items : List Content} {values : List α}
    (hread : array item (.array items) = some values) :
    List.Forall₂ (fun found value => item found = some value) items values := by
  change items.mapM item = some values at hread
  induction items generalizing values with
  | nil =>
      cases hread
      exact .nil
  | cons found items ih =>
      simp only [List.mapM_cons, Option.bind_eq_bind, Option.bind_eq_some_iff] at hread
      obtain ⟨value, hvalue, rest, hrest, heq⟩ := hread
      cases heq
      exact .cons hvalue (ih hrest)

/-- A list is read back when its items are. -/
lemma array_content {item : Decoder α} (write : α → Value) {values : List α}
    (hitem : ∀ value ∈ values, item (content (write value)) = some value) :
    array item (.array (values.map fun value => content (write value))) = some values := by
  show (values.map fun value => content (write value)).mapM item = some values
  induction values with
  | nil => rfl
  | cons value values ih =>
      have hhead := hitem value List.mem_cons_self
      have htail := ih fun other hother => hitem other (List.mem_cons_of_mem _ hother)
      rw [List.map_cons, List.mapM_cons, hhead, htail]
      rfl

end Serde
