import Mathlib.Data.List.Basic
import Mathlib.Data.List.DropRight
import Mathlib.Data.List.TakeWhile
import Mathlib.Algebra.BigOperators.Ring.List
import Mathlib.Algebra.Order.BigOperators.Group.List
import Mathlib.Algebra.Order.Ring.Nat
import Mathlib.Tactic.Lemma

/-!
# Strings as sequences of Unicode scalar values

The string functions that input checks are written with, on lists of Unicode scalar values, and how
the two ways of measuring a string compare.

* `isControl`, `isWhitespace` — the general category Cc and the property White_Space.
* `trim` — the string without white space at either end; `isEmpty_trim_of_mem`, `trim_of_forall`,
  `trimChars_eq_self_iff` say when it is blank and when it is the string itself.
* `utf16Length` — the number of UTF-16 code units; the number of UTF-8 bytes is
  `String.utf8ByteSize`.
* `utf16Length_le_utf8ByteSize`, `utf8ByteSize_le_utf16Length` — how far the two differ.
-/

namespace Text

/-- The general category Cc. -/
def isControl (c : Char) : Bool := c.toNat < 0x20 || (0x7f ≤ c.toNat && c.toNat ≤ 0x9f)

/-- The property White_Space. -/
def isWhitespace (c : Char) : Bool :=
  (0x09 ≤ c.toNat && c.toNat ≤ 0x0d) || c.toNat == 0x20 || c.toNat == 0x85 || c.toNat == 0xa0 ||
    c.toNat == 0x1680 || (0x2000 ≤ c.toNat && c.toNat ≤ 0x200a) || c.toNat == 0x2028 ||
    c.toNat == 0x2029 || c.toNat == 0x202f || c.toNat == 0x205f || c.toNat == 0x3000

/-- ASCII letters and digits. -/
def isAsciiAlphanumeric (c : Char) : Bool :=
  (0x30 ≤ c.toNat && c.toNat ≤ 0x39) || (0x41 ≤ c.toNat && c.toNat ≤ 0x5a) ||
    (0x61 ≤ c.toNat && c.toNat ≤ 0x7a)

/-- A list of characters without white space at either end. -/
def trimChars (cs : List Char) : List Char :=
  ((cs.dropWhile isWhitespace).reverse.dropWhile isWhitespace).reverse

/-- A string without white space at either end. -/
def trim (s : String) : String := String.ofList (trimChars s.toList)

/-- The number of UTF-16 code units of a character. -/
def utf16Size (c : Char) : ℕ := if c.toNat < 0x10000 then 1 else 2

/-- The number of UTF-16 code units of a string. -/
def utf16Length (s : String) : ℕ := (s.toList.map utf16Size).sum

/-! ## Trimming -/

lemma trimChars_eq_nil {cs : List Char} (h : trimChars cs = []) :
    ∀ c ∈ cs, isWhitespace c = true := by
  rw [trimChars, List.reverse_eq_nil_iff, List.dropWhile_eq_nil_iff] at h
  intro c hc
  rw [← List.takeWhile_append_dropWhile (p := isWhitespace) (l := cs), List.mem_append] at hc
  rcases hc with hc | hc
  · exact List.mem_takeWhile_imp hc
  · exact h c (List.mem_reverse.mpr hc)

/-- A text with a character that is not white space is not blank. -/
lemma isEmpty_trim_of_mem {s : String} (h : ∃ c ∈ s.toList, isWhitespace c = false) :
    (trim s).isEmpty = false := by
  obtain ⟨c, hc, hwhite⟩ := h
  rw [Bool.eq_false_iff]
  intro hempty
  have hnil : trimChars s.toList = [] := by
    simpa [trim, String.isEmpty_iff] using hempty
  simp [trimChars_eq_nil hnil c hc] at hwhite

/-- A trimmed text does not begin with white space. -/
lemma isWhitespace_of_trimChars_cons {cs rest : List Char} {c : Char}
    (h : trimChars cs = c :: rest) : isWhitespace c = false := by
  set kept := cs.dropWhile isWhitespace with hkept
  have hrev : trimChars cs <+: kept := by
    rw [trimChars, ← hkept, ← List.reverse_suffix, List.reverse_reverse]
    exact List.dropWhile_suffix _
  obtain ⟨tail, htail⟩ := hrev
  rw [h, List.cons_append] at htail
  have hhead := List.head?_dropWhile_not isWhitespace cs
  rw [← hkept, ← htail] at hhead
  simpa using hhead

/-- A text without white space is trimmed already. -/
lemma trim_of_forall {s : String} (h : ∀ c ∈ s.toList, isWhitespace c = false) : trim s = s := by
  have hdrop : ∀ cs : List Char, (∀ c ∈ cs, isWhitespace c = false) →
      cs.dropWhile isWhitespace = cs := by
    intro cs hcs
    cases cs with
    | nil => rfl
    | cons c cs => simp [hcs c]
  rw [trim, trimChars, hdrop _ h, hdrop _ fun c hc => h c (List.mem_reverse.mp hc),
    List.reverse_reverse, String.ofList_toList]

lemma trimChars_eq (cs : List Char) :
    trimChars cs = (cs.dropWhile isWhitespace).rdropWhile isWhitespace := rfl

/-- A trimmed text does not end with white space. -/
lemma isWhitespace_of_getLast?_trimChars {cs : List Char} {c : Char}
    (h : (trimChars cs).getLast? = some c) : isWhitespace c = false := by
  rw [trimChars_eq] at h
  have hne : (cs.dropWhile isWhitespace).rdropWhile isWhitespace ≠ [] := by
    intro hnil
    rw [hnil] at h
    cases h
  rw [List.getLast?_eq_some_getLast hne, Option.some.injEq] at h
  rw [← h, ← Bool.not_eq_true]
  exact List.rdropWhile_last_not _ _ hne

/-- **A text is trimmed when there is no white space at either end.** -/
lemma trimChars_eq_self_iff {cs : List Char} :
    trimChars cs = cs ↔ (∀ c, cs.head? = some c → isWhitespace c = false) ∧
      ∀ c, cs.getLast? = some c → isWhitespace c = false := by
  constructor
  · intro hself
    refine ⟨?_, ?_⟩
    · intro c hc
      cases cs with
      | nil => cases hc
      | cons first rest =>
          rw [List.head?_cons, Option.some.injEq] at hc
          rw [← hc]
          exact isWhitespace_of_trimChars_cons hself
    · intro c hc
      rw [← hself] at hc
      exact isWhitespace_of_getLast?_trimChars hc
  · rintro ⟨hhead, hlast⟩
    have hdrop : cs.dropWhile isWhitespace = cs := by
      cases cs with
      | nil => rfl
      | cons first rest => simp [hhead first rfl]
    rw [trimChars_eq, hdrop, List.rdropWhile_eq_self_iff]
    intro hne
    rw [hlast _ (List.getLast?_eq_some_getLast hne)]
    exact Bool.false_ne_true

lemma trimChars_trimChars (cs : List Char) : trimChars (trimChars cs) = trimChars cs := by
  rw [trimChars_eq_self_iff]
  refine ⟨?_, fun c => isWhitespace_of_getLast?_trimChars⟩
  intro c hc
  cases htrim : trimChars cs with
  | nil =>
      rw [htrim] at hc
      cases hc
  | cons first rest =>
      rw [htrim, List.head?_cons, Option.some.injEq] at hc
      rw [← hc]
      exact isWhitespace_of_trimChars_cons htrim

lemma toList_trim (s : String) : (trim s).toList = trimChars s.toList :=
  String.toList_ofList

lemma trim_trim (s : String) : trim (trim s) = trim s := by
  rw [trim, toList_trim, trimChars_trimChars, trim]

lemma trim_eq_self_iff {s : String} : trim s = s ↔ trimChars s.toList = s.toList := by
  rw [← String.toList_inj, toList_trim]

/-! ## Lengths -/

lemma utf8ByteSize_ofList (cs : List Char) :
    (String.ofList cs).utf8ByteSize = (cs.map Char.utf8Size).sum := by
  induction cs with
  | nil => rfl
  | cons c cs ih =>
      rw [String.ofList_cons, String.utf8ByteSize_append, ih]
      simp

lemma utf8ByteSize_eq_sum (s : String) : s.utf8ByteSize = (s.toList.map Char.utf8Size).sum := by
  rw [← utf8ByteSize_ofList, String.ofList_toList]

lemma utf8Size_eq (c : Char) : c.utf8Size =
    if c.toNat ≤ 0x7f then 1 else if c.toNat ≤ 0x7ff then 2
    else if c.toNat ≤ 0xffff then 3 else 4 := by
  simp only [Char.utf8Size, Char.toNat, UInt32.le_iff_toNat_le]
  rfl

lemma utf16Size_pos (c : Char) : 0 < utf16Size c := by
  rw [utf16Size]
  split_ifs <;> decide

lemma utf16Length_append (s t : String) :
    utf16Length (s ++ t) = utf16Length s + utf16Length t := by
  rw [utf16Length, String.toList_append, List.map_append, List.sum_append]
  rfl

/-- A text of ASCII characters has as many code units. -/
lemma utf16Length_of_ascii {s : String} (h : ∀ c ∈ s.toList, c.toNat < 0x80) :
    utf16Length s = s.toList.length := by
  have hone : s.toList.map utf16Size = s.toList.map fun _ => 1 := by
    refine List.map_congr_left fun c hc => ?_
    have hascii := h c hc
    rw [utf16Size, if_pos (by omega)]
  rw [utf16Length, hone]
  simp

lemma utf16Length_pos {s : String} (h : s.toList ≠ []) : 0 < utf16Length s := by
  rw [utf16Length]
  cases hs : s.toList with
  | nil => exact absurd hs h
  | cons c cs =>
      have hc := utf16Size_pos c
      rw [List.map_cons, List.sum_cons]
      omega

lemma utf16Size_le_utf8Size (c : Char) : utf16Size c ≤ c.utf8Size := by
  rw [utf8Size_eq, utf16Size]
  split_ifs <;> omega

lemma utf8Size_le_utf16Size (c : Char) : c.utf8Size ≤ 3 * utf16Size c := by
  rw [utf8Size_eq, utf16Size]
  split_ifs <;> omega

lemma utf16Length_le_utf8ByteSize (s : String) : utf16Length s ≤ s.utf8ByteSize := by
  rw [utf8ByteSize_eq_sum]
  exact List.sum_le_sum fun c _ => utf16Size_le_utf8Size c

lemma utf8ByteSize_le_utf16Length (s : String) : s.utf8ByteSize ≤ 3 * utf16Length s := by
  rw [utf8ByteSize_eq_sum, utf16Length, ← List.sum_map_mul_left]
  exact List.sum_le_sum fun c _ => utf8Size_le_utf16Size c

end Text
