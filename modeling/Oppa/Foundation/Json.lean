import Mathlib.Tactic.IntervalCases
import Oppa.Foundation.Text

/-!
# JSON values and their compact text

JSON values with integer numbers, the text a compact printer writes for them, and a bound on how
long that text is.

* `Value` — values; an object keeps its members in a list, which a producer with ordered maps fills
  in key order.
* `Value.print`, `Value.toString` — the compact text: no white space, and only the escapes a reader
  cannot do without.
* **`utf8ByteSize_toString_le`** — the text takes at most `weight` bytes, and a string weighs at most
  six bytes for each UTF-16 code unit.
-/

namespace Json

open Text

/-- A JSON value whose numbers are integers. -/
inductive Value
  | null
  | bool (b : Bool)
  | number (n : ℤ)
  | string (s : String)
  | array (items : List Value)
  | object (members : List (String × Value))
  deriving Repr

/-- A member that a producer leaves out when it has no value. -/
def optionalMember (key : String) (value : Option Value) : List (String × Value) :=
  (value.map fun v => (key, v)).toList

namespace Value

/-! ## Equality -/

mutual

/-- Whether two values are the same. -/
def beq : Value → Value → Bool
  | .null, .null => true
  | .bool a, .bool b => a = b
  | .number m, .number n => m = n
  | .string s, .string t => s = t
  | .array as, .array bs => beqItems as bs
  | .object as, .object bs => beqMembers as bs
  | _, _ => false

/-- Whether two lists of values are the same. -/
def beqItems : List Value → List Value → Bool
  | [], [] => true
  | a :: as, b :: bs => beq a b && beqItems as bs
  | _, _ => false

/-- Whether two lists of members are the same. -/
def beqMembers : List (String × Value) → List (String × Value) → Bool
  | [], [] => true
  | (k, a) :: as, (l, b) :: bs => k = l && beq a b && beqMembers as bs
  | _, _ => false

end

mutual

lemma beq_iff : ∀ a b : Value, beq a b = true ↔ a = b
  | .null, b => by cases b <;> simp [beq]
  | .bool x, b => by cases b <;> simp [beq]
  | .number n, b => by cases b <;> simp [beq]
  | .string s, b => by cases b <;> simp [beq]
  | .array as, b => by
      cases b with
      | array bs => simpa [beq] using beqItems_iff as bs
      | _ => simp [beq]
  | .object as, b => by
      cases b with
      | object bs => simpa [beq] using beqMembers_iff as bs
      | _ => simp [beq]

lemma beqItems_iff : ∀ as bs : List Value, beqItems as bs = true ↔ as = bs
  | [], bs => by cases bs <;> simp [beqItems]
  | a :: as, [] => by simp [beqItems]
  | a :: as, b :: bs => by simp [beqItems, beq_iff a b, beqItems_iff as bs]

lemma beqMembers_iff : ∀ as bs : List (String × Value), beqMembers as bs = true ↔ as = bs
  | [], bs => by cases bs <;> simp [beqMembers]
  | a :: as, [] => by simp [beqMembers]
  | (k, a) :: as, (l, b) :: bs => by
      simp [beqMembers, beq_iff a b, beqMembers_iff as bs, and_assoc]

end

instance : DecidableEq Value := fun a b => decidable_of_iff _ (beq_iff a b)

/-! ## Printing -/

/-- A hexadecimal digit, in lower case. -/
def hexDigit (n : ℕ) : Char := (['0', '1', '2', '3', '4', '5', '6', '7', '8', '9', 'a', 'b', 'c',
  'd', 'e', 'f'] : List Char).getD n '0'

/-- A character inside a string literal. -/
def escape (c : Char) : List Char :=
  if c = '"' then ['\\', '"']
  else if c = '\\' then ['\\', '\\']
  else if c.toNat = 0x08 then ['\\', 'b']
  else if c.toNat = 0x0c then ['\\', 'f']
  else if c.toNat = 0x0a then ['\\', 'n']
  else if c.toNat = 0x0d then ['\\', 'r']
  else if c.toNat = 0x09 then ['\\', 't']
  else if c.toNat < 0x20 then
    ['\\', 'u', '0', '0', hexDigit (c.toNat / 16), hexDigit (c.toNat % 16)]
  else [c]

/-- A string literal. -/
def quote (s : String) : List Char := '"' :: (s.toList.flatMap escape ++ ['"'])

mutual

/-- The compact text of a value. -/
def print : Value → List Char
  | .null => ['n', 'u', 'l', 'l']
  | .bool true => ['t', 'r', 'u', 'e']
  | .bool false => ['f', 'a', 'l', 's', 'e']
  | .number n => (ToString.toString n).toList
  | .string s => quote s
  | .array [] => ['[', ']']
  | .array (item :: items) => '[' :: (print item ++ (printItems items ++ [']']))
  | .object [] => ['{', '}']
  | .object ((key, item) :: members) =>
      '{' :: (quote key ++ ':' :: (print item ++ (printMembers members ++ ['}'])))

/-- The items after the first, each behind its comma. -/
def printItems : List Value → List Char
  | [] => []
  | item :: items => ',' :: (print item ++ printItems items)

/-- The members after the first, each behind its comma. -/
def printMembers : List (String × Value) → List Char
  | [] => []
  | (key, item) :: members => ',' :: (quote key ++ ':' :: (print item ++ printMembers members))

end

/-- The compact text of a value. -/
def toString (v : Value) : String := String.ofList v.print

/-! ## How long the text is -/

mutual

/-- A bound on the bytes of a value's text. -/
def weight : Value → ℕ
  | .null => 4
  | .bool _ => 5
  | .number n => (ToString.toString n).utf8ByteSize
  | .string s => 2 + 6 * utf16Length s
  | .array items => 2 + weightItems items
  | .object members => 2 + weightMembers members

/-- A bound on the bytes of the items of an array. -/
def weightItems : List Value → ℕ
  | [] => 0
  | item :: items => 1 + weight item + weightItems items

/-- A bound on the bytes of the members of an object. -/
def weightMembers : List (String × Value) → ℕ
  | [] => 0
  | (key, item) :: members => 4 + 6 * utf16Length key + weight item + weightMembers members

end

lemma weightMembers_append (members others : List (String × Value)) :
    weightMembers (members ++ others) = weightMembers members + weightMembers others := by
  induction members with
  | nil => simp [weightMembers]
  | cons member members ih =>
      simp only [List.cons_append, weightMembers, ih]
      omega

/-- The UTF-8 length of a text. -/
def bytes (cs : List Char) : ℕ := (cs.map Char.utf8Size).sum

@[simp] lemma bytes_nil : bytes [] = 0 := rfl

@[simp] lemma bytes_cons (c : Char) (cs : List Char) : bytes (c :: cs) = c.utf8Size + bytes cs := by
  simp [bytes]

@[simp] lemma bytes_append (cs ds : List Char) : bytes (cs ++ ds) = bytes cs + bytes ds := by
  simp [bytes]

lemma utf8Size_hexDigit (n : ℕ) : (hexDigit n).utf8Size = 1 := by
  unfold hexDigit
  rcases lt_or_ge n 16 with h | h
  · interval_cases n <;> rfl
  · rw [List.getD_eq_getElem?_getD, List.getElem?_eq_none h]
    rfl

lemma one_le_utf16Size (c : Char) : 1 ≤ utf16Size c := by
  unfold utf16Size
  split <;> omega

/-- The longest escape has six characters and stands for one code unit. -/
lemma bytes_escape_le (c : Char) : bytes (escape c) ≤ 6 * utf16Size c := by
  have hone := one_le_utf16Size c
  have hc := utf8Size_le_utf16Size c
  have hesc : ∀ d : Char, d.utf8Size = 1 → bytes ['\\', d] ≤ 6 * utf16Size c := by
    intro d hd
    have hback : ('\\' : Char).utf8Size = 1 := rfl
    simp only [bytes_cons, bytes_nil, hd, hback]
    omega
  unfold escape
  split_ifs
  · exact hesc _ rfl
  · exact hesc _ rfl
  · exact hesc _ rfl
  · exact hesc _ rfl
  · exact hesc _ rfl
  · exact hesc _ rfl
  · exact hesc _ rfl
  · have hback : ('\\' : Char).utf8Size = 1 := rfl
    have hu : ('u' : Char).utf8Size = 1 := rfl
    have hzero : ('0' : Char).utf8Size = 1 := rfl
    simp only [bytes_cons, bytes_nil, utf8Size_hexDigit, hback, hu, hzero]
    omega
  · simp only [bytes_cons, bytes_nil]
    omega

lemma bytes_flatMap_escape_le (cs : List Char) :
    bytes (cs.flatMap escape) ≤ 6 * (cs.map utf16Size).sum := by
  induction cs with
  | nil => simp
  | cons c cs ih =>
      have hc := bytes_escape_le c
      simp only [List.flatMap_cons, bytes_append, List.map_cons, List.sum_cons]
      omega

lemma bytes_quote_le (s : String) : bytes (quote s) ≤ 2 + 6 * utf16Length s := by
  have hs := bytes_flatMap_escape_le s.toList
  have hquote : ('"' : Char).utf8Size = 1 := rfl
  simp only [quote, bytes_cons, bytes_append, bytes_nil, hquote, utf16Length] at hs ⊢
  omega

mutual

lemma bytes_print_le : ∀ v : Value, bytes v.print ≤ v.weight
  | .null => by decide
  | .bool true => by decide
  | .bool false => by decide
  | .number n => by simp [print, weight, bytes, utf8ByteSize_eq_sum]
  | .string s => bytes_quote_le s
  | .array [] => by decide
  | .array (item :: items) => by
      have hitem := bytes_print_le item
      have hitems := bytes_printItems_le items
      have hopen : ('[' : Char).utf8Size = 1 := rfl
      have hclose : (']' : Char).utf8Size = 1 := rfl
      simp only [print, weight, weightItems, bytes_cons, bytes_append, bytes_nil, hopen, hclose]
      omega
  | .object [] => by decide
  | .object ((key, item) :: members) => by
      have hkey := bytes_quote_le key
      have hitem := bytes_print_le item
      have hmembers := bytes_printMembers_le members
      have hopen : ('{' : Char).utf8Size = 1 := rfl
      have hcolon : (':' : Char).utf8Size = 1 := rfl
      have hclose : ('}' : Char).utf8Size = 1 := rfl
      simp only [print, weight, weightMembers, bytes_cons, bytes_append, bytes_nil, hopen, hcolon,
        hclose]
      omega

lemma bytes_printItems_le : ∀ items : List Value, bytes (printItems items) ≤ weightItems items
  | [] => by decide
  | item :: items => by
      have hitem := bytes_print_le item
      have hitems := bytes_printItems_le items
      have hcomma : (',' : Char).utf8Size = 1 := rfl
      simp only [printItems, weightItems, bytes_cons, bytes_append, hcomma]
      omega

lemma bytes_printMembers_le : ∀ members : List (String × Value),
    bytes (printMembers members) ≤ weightMembers members
  | [] => by decide
  | (key, item) :: members => by
      have hkey := bytes_quote_le key
      have hitem := bytes_print_le item
      have hmembers := bytes_printMembers_le members
      have hcomma : (',' : Char).utf8Size = 1 := rfl
      have hcolon : (':' : Char).utf8Size = 1 := rfl
      simp only [printMembers, weightMembers, bytes_cons, bytes_append, hcomma, hcolon]
      omega

end

/-- **The text of a value takes at most its weight in bytes.** -/
theorem utf8ByteSize_toString_le (v : Value) : v.toString.utf8ByteSize ≤ v.weight := by
  rw [toString, utf8ByteSize_ofList]
  exact bytes_print_le v

end Value

end Json
