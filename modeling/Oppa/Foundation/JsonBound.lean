import Oppa.Foundation.Json

/-!
# How short the text of a value can be

`Value.floor` counts what the text of a value takes at least: the punctuation, one byte for each
character of a string, and the shortest texts of the other values.  Together with `Value.weight` it
bounds how many values of a kind a text of a given size can hold.

`bytes_print_object_le` adds up the members of an object, `utf8ByteSize_array_le_iff` the items of an
array, and `bytes_quote_of_plain` says how long a string is that needs no escapes.
-/

namespace Json

open Text

namespace Value

mutual

/-- What the text of a value takes at least, in bytes. -/
def floor : Value → ℕ
  | .null => 4
  | .bool _ => 4
  | .number _ => 1
  | .string s => 2 + s.toList.length
  | .array items => 2 + floorItems items
  | .object members => 2 + floorMembers members

/-- What the items of an array take at least. -/
def floorItems : List Value → ℕ
  | [] => 0
  | item :: items => floor item + floorItems items

/-- What the members of an object take at least. -/
def floorMembers : List (String × Value) → ℕ
  | [] => 0
  | (key, item) :: members => 3 + key.toList.length + floor item + floorMembers members

end

lemma floorMembers_append (members others : List (String × Value)) :
    floorMembers (members ++ others) = floorMembers members + floorMembers others := by
  induction members with
  | nil => simp [floorMembers]
  | cons member members ih =>
      simp only [List.cons_append, floorMembers, ih]
      omega

/-- So many items that take so much each. -/
lemma le_floorItems {α : Type*} {toValue : α → Value} {least : ℕ} {items : List α}
    (hleast : ∀ item ∈ items, least ≤ floor (toValue item)) :
    least * items.length ≤ floorItems (items.map toValue) := by
  induction items with
  | nil => simp
  | cons item items ih =>
      rw [List.forall_mem_cons] at hleast
      have hitems := ih hleast.2
      have hitem := hleast.1
      rw [List.map_cons, floorItems, List.length_cons, Nat.mul_succ]
      omega

/-- The keys of an object alone take so much. -/
lemma keys_le_floor {members : List (String × Value)} {lengths : List ℕ}
    (hlengths : (members.map Prod.fst).map (fun key => key.toList.length) = lengths) :
    2 + (lengths.map (3 + ·)).sum ≤ floor (.object members) := by
  subst hlengths
  have hmembers : (((members.map Prod.fst).map fun key => key.toList.length).map (3 + ·)).sum ≤
      floorMembers members := by
    induction members with
    | nil => simp
    | cons member members ih =>
        simp only [List.map_cons, List.sum_cons, floorMembers]
        omega
  rw [floor]
  omega

lemma one_le_bytes_of_ne_nil {cs : List Char} (hne : cs ≠ []) : 1 ≤ bytes cs := by
  cases cs with
  | nil => exact absurd rfl hne
  | cons c cs =>
      have hc := Char.utf8Size_pos c
      rw [bytes_cons]
      omega

lemma escape_ne_nil (c : Char) : escape c ≠ [] := by
  rw [escape]
  split_ifs <;> exact List.cons_ne_nil _ _

lemma le_bytes_quote (s : String) : 2 + s.toList.length ≤ bytes (quote s) := by
  have hchars : ∀ cs : List Char, cs.length ≤ bytes (cs.flatMap escape) := by
    intro cs
    induction cs with
    | nil => simp
    | cons c cs ih =>
        have hc := one_le_bytes_of_ne_nil (escape_ne_nil c)
        rw [List.flatMap_cons, bytes_append, List.length_cons]
        omega
  have htext := hchars s.toList
  have hquote : ('"' : Char).utf8Size = 1 := rfl
  simp only [quote, bytes_cons, bytes_append, bytes_nil, hquote]
  omega

mutual

lemma floor_le_bytes_print : ∀ v : Value, v.floor ≤ bytes v.print
  | .null => by decide
  | .bool true => by decide
  | .bool false => by decide
  | .number n => by
      rw [floor, print]
      refine one_le_bytes_of_ne_nil ?_
      show n.repr.toList ≠ []
      cases n <;> simp [Int.repr]
  | .string s => le_bytes_quote s
  | .array [] => by decide
  | .array (item :: items) => by
      have hitem := floor_le_bytes_print item
      have hitems := floorItems_le_bytes items
      have hopen : ('[' : Char).utf8Size = 1 := rfl
      have hclose : (']' : Char).utf8Size = 1 := rfl
      simp only [print, floor, floorItems, bytes_cons, bytes_append, bytes_nil, hopen, hclose]
      omega
  | .object [] => by decide
  | .object ((key, item) :: members) => by
      have hkey := le_bytes_quote key
      have hitem := floor_le_bytes_print item
      have hmembers := floorMembers_le_bytes members
      have hopen : ('{' : Char).utf8Size = 1 := rfl
      have hcolon : (':' : Char).utf8Size = 1 := rfl
      have hclose : ('}' : Char).utf8Size = 1 := rfl
      simp only [print, floor, floorMembers, bytes_cons, bytes_append, bytes_nil, hopen, hcolon,
        hclose]
      omega

lemma floorItems_le_bytes : ∀ items : List Value, floorItems items ≤ bytes (printItems items)
  | [] => by decide
  | item :: items => by
      have hitem := floor_le_bytes_print item
      have hitems := floorItems_le_bytes items
      simp only [printItems, floorItems, bytes_cons, bytes_append]
      omega

lemma floorMembers_le_bytes : ∀ members : List (String × Value),
    floorMembers members ≤ bytes (printMembers members)
  | [] => by decide
  | (key, item) :: members => by
      have hkey := le_bytes_quote key
      have hitem := floor_le_bytes_print item
      have hmembers := floorMembers_le_bytes members
      have hcolon : (':' : Char).utf8Size = 1 := rfl
      simp only [printMembers, floorMembers, bytes_cons, bytes_append, hcolon]
      omega

end

/-- **The text of a value takes at least its floor in bytes.** -/
theorem floor_le_utf8ByteSize_toString (v : Value) : v.floor ≤ v.toString.utf8ByteSize := by
  rw [toString, utf8ByteSize_ofList]
  exact floor_le_bytes_print v

/-! ## Member by member -/

/-- What the members of an object take, each with its comma and its colon. -/
def membersLength (members : List (String × Value)) : ℕ :=
  (members.map fun member => 2 + bytes (quote member.1) + bytes member.2.print).sum

@[simp] lemma membersLength_nil : membersLength [] = 0 := rfl

@[simp] lemma membersLength_cons (key : String) (item : Value) (members : List (String × Value)) :
    membersLength ((key, item) :: members) =
      2 + bytes (quote key) + bytes item.print + membersLength members := by
  simp [membersLength]

@[simp] lemma membersLength_append (members others : List (String × Value)) :
    membersLength (members ++ others) = membersLength members + membersLength others := by
  simp [membersLength]

lemma bytes_printMembers (members : List (String × Value)) :
    bytes (printMembers members) = membersLength members := by
  induction members with
  | nil => rfl
  | cons member members ih =>
      rcases member with ⟨key, item⟩
      have hcomma : (',' : Char).utf8Size = 1 := rfl
      have hcolon : (':' : Char).utf8Size = 1 := rfl
      rw [printMembers, membersLength_cons, ← ih]
      simp only [bytes_cons, bytes_append, hcomma, hcolon]
      omega

lemma bytes_print_object_le (members : List (String × Value)) :
    bytes (Value.object members).print ≤ 2 + membersLength members := by
  cases members with
  | nil => decide
  | cons member members =>
      rcases member with ⟨key, item⟩
      have hopen : ('{' : Char).utf8Size = 1 := rfl
      have hcolon : (':' : Char).utf8Size = 1 := rfl
      have hclose : ('}' : Char).utf8Size = 1 := rfl
      rw [print, membersLength_cons, ← bytes_printMembers]
      simp only [bytes_cons, bytes_append, bytes_nil, hopen, hcolon, hclose]
      omega

/-- What an object takes that has a member. -/
lemma bytes_print_object_cons (member : String × Value) (members : List (String × Value)) :
    bytes (Value.object (member :: members)).print = 1 + membersLength (member :: members) := by
  rcases member with ⟨key, item⟩
  have hopen : ('{' : Char).utf8Size = 1 := rfl
  have hcolon : (':' : Char).utf8Size = 1 := rfl
  have hclose : ('}' : Char).utf8Size = 1 := rfl
  rw [print, membersLength_cons, ← bytes_printMembers]
  simp only [bytes_cons, bytes_append, bytes_nil, hopen, hcolon, hclose]
  omega

/-- What the items of an array take, each with its comma. -/
def itemsLength (items : List Value) : ℕ := (items.map fun item => bytes item.print + 1).sum

lemma bytes_printItems (items : List Value) : bytes (printItems items) = itemsLength items := by
  induction items with
  | nil => rfl
  | cons item items ih =>
      have hcomma : (',' : Char).utf8Size = 1 := rfl
      rw [printItems, bytes_cons, bytes_append, ih, hcomma, itemsLength, itemsLength, List.map_cons,
        List.sum_cons]
      omega

/-- **When an array fits**, in a limit that leaves room for an empty one. -/
theorem utf8ByteSize_array_le_iff {items : List Value} {limit : ℕ} (hlimit : 2 ≤ limit) :
    (Value.array items).toString.utf8ByteSize ≤ limit ↔ 1 + itemsLength items ≤ limit := by
  rw [toString, utf8ByteSize_ofList]
  change bytes _ ≤ limit ↔ _
  cases items with
  | nil =>
      have hempty : bytes (Value.array []).print = 2 := rfl
      have hnone : itemsLength [] = 0 := rfl
      omega
  | cons item items =>
      have hopen : ('[' : Char).utf8Size = 1 := rfl
      have hclose : (']' : Char).utf8Size = 1 := rfl
      rw [print, itemsLength, List.map_cons, List.sum_cons, ← itemsLength, ← bytes_printItems]
      simp only [bytes_cons, bytes_append, bytes_nil, hopen, hclose]
      omega

/-- A character that is printed as it is, in one byte. -/
def IsPlain (c : Char) : Prop := 0x20 ≤ c.toNat ∧ c.toNat < 0x7f ∧ c ≠ '"' ∧ c ≠ '\\'

lemma escape_of_plain {c : Char} (hplain : IsPlain c) : escape c = [c] := by
  rcases hplain with ⟨hlow, _, hquote, hbackslash⟩
  rw [escape, if_neg hquote, if_neg hbackslash]
  repeat rw [if_neg (by omega)]

/-- The literal of a text that needs no escapes. -/
lemma bytes_quote_of_plain {s : String} (hplain : ∀ c ∈ s.toList, IsPlain c) :
    bytes (quote s) = 2 + s.toList.length := by
  have hchars : ∀ cs : List Char, (∀ c ∈ cs, IsPlain c) → bytes (cs.flatMap escape) = cs.length := by
    intro cs hcs
    induction cs with
    | nil => rfl
    | cons c cs ih =>
        rw [List.forall_mem_cons] at hcs
        have hone : c.utf8Size = 1 := by
          rw [utf8Size_eq, if_pos (by have := hcs.1.2.1; omega)]
        rw [List.flatMap_cons, bytes_append, escape_of_plain hcs.1, ih hcs.2, bytes_cons, bytes_nil,
          hone, List.length_cons]
        omega
  have hquote : ('"' : Char).utf8Size = 1 := rfl
  simp only [quote, bytes_cons, bytes_append, bytes_nil, hquote, hchars _ hplain]
  omega

end Value

end Json
