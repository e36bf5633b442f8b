import Mathlib.Computability.Language
import Mathlib.Tactic.Lemma

/-!
# Regular expressions over classes of letters

Regular expressions whose letters are classes, as the patterns of programs have them, with the
languages they describe.

* `Regex` — the expressions; `times`, `upTo`, `between`, `optional`, `literal` are built from them.
* `Regex.language` — what an expression describes; the `mem_` lemmas read it off.
* `Regex.test` — whether a string belongs to it as a whole, by derivatives.  **`test_iff`** says that
  this is what it decides.
-/

/-- A regular expression with classes of letters. -/
inductive Regex (α : Type*)
  /-- No string at all. -/
  | none
  /-- The empty string. -/
  | empty
  /-- One letter of a class. -/
  | letter (p : α → Bool)
  | seq (r s : Regex α)
  | alt (r s : Regex α)
  | star (r : Regex α)

namespace Regex

open Computability

variable {α : Type*}

/-- The strings an expression describes. -/
def language : Regex α → Language α
  | none => 0
  | empty => 1
  | letter p => {w | ∃ a, p a = true ∧ w = [a]}
  | seq r s => r.language * s.language
  | alt r s => r.language + s.language
  | star r => r.language∗

example : (empty : Regex α).language = 1 := by rw [language]

/-- `r?`. -/
def optional (r : Regex α) : Regex α := alt r empty

/-- `r{n}`. -/
def times (r : Regex α) : ℕ → Regex α
  | 0 => empty
  | n + 1 => seq r (times r n)

/-- `r{0,n}`. -/
def upTo (r : Regex α) : ℕ → Regex α
  | 0 => empty
  | n + 1 => optional (seq r (upTo r n))

/-- `r{m,n}`. -/
def between (r : Regex α) (m n : ℕ) : Regex α := seq (r.times m) (r.upTo (n - m))

/-- These letters. -/
def literal [BEq α] : List α → Regex α
  | [] => empty
  | a :: w => seq (letter (· == a)) (literal w)

/-! ## Matching by derivatives -/

/-- Whether the empty string is described. -/
def matchesEmpty : Regex α → Bool
  | none | letter _ => false
  | empty | star _ => true
  | seq r s => r.matchesEmpty && s.matchesEmpty
  | alt r s => r.matchesEmpty || s.matchesEmpty

/-- The expression of what may follow a letter. -/
def derivative (a : α) : Regex α → Regex α
  | none | empty => none
  | letter p => if p a then empty else none
  | seq r s =>
      if r.matchesEmpty then alt (seq (r.derivative a) s) (s.derivative a)
      else seq (r.derivative a) s
  | alt r s => alt (r.derivative a) (s.derivative a)
  | star r => seq (r.derivative a) (star r)

/-- Whether a string is described as a whole. -/
def test (r : Regex α) : List α → Bool
  | [] => r.matchesEmpty
  | a :: w => (r.derivative a).test w

/-! ## Languages and their first letters -/

section Languages

variable {l m : Language α} {a : α} {w : List α}

lemma nil_mem_mul : [] ∈ l * m ↔ [] ∈ l ∧ [] ∈ m := by
  rw [Language.mem_mul]
  constructor
  · rintro ⟨u, hu, v, hv, huv⟩
    obtain ⟨rfl, rfl⟩ := List.append_eq_nil_iff.mp huv
    exact ⟨hu, hv⟩
  · rintro ⟨hl, hm⟩
    exact ⟨[], hl, [], hm, rfl⟩

lemma cons_mem_mul : a :: w ∈ l * m ↔
    (∃ u v, u ++ v = w ∧ a :: u ∈ l ∧ v ∈ m) ∨ ([] ∈ l ∧ a :: w ∈ m) := by
  rw [Language.mem_mul]
  constructor
  · rintro ⟨u, hu, v, hv, huv⟩
    cases u with
    | nil => exact .inr ⟨hu, huv ▸ hv⟩
    | cons b u =>
        rw [List.cons_append, List.cons.injEq] at huv
        obtain ⟨rfl, rfl⟩ := huv
        exact .inl ⟨u, v, rfl, hu, hv⟩
  · rintro (⟨u, v, rfl, hu, hv⟩ | ⟨hl, hm⟩)
    · exact ⟨a :: u, hu, v, hv, rfl⟩
    · exact ⟨[], hl, a :: w, hm, rfl⟩

lemma cons_mem_kstar : a :: w ∈ l∗ ↔ ∃ u v, u ++ v = w ∧ a :: u ∈ l ∧ v ∈ l∗ := by
  constructor
  · intro h
    obtain ⟨words, hflat, hwords⟩ := Language.mem_kstar_iff_exists_nonempty.mp h
    cases words with
    | nil => cases hflat
    | cons first words =>
        obtain ⟨hfirst, hne⟩ := hwords first List.mem_cons_self
        cases first with
        | nil => exact absurd rfl hne
        | cons b u =>
            rw [List.flatten_cons, List.cons_append, List.cons.injEq] at hflat
            obtain ⟨rfl, rfl⟩ := hflat
            refine ⟨u, words.flatten, rfl, hfirst, Language.join_mem_kstar ?_⟩
            intro word hword
            exact (hwords word (List.mem_cons_of_mem _ hword)).1
  · rintro ⟨u, v, rfl, hu, hv⟩
    obtain ⟨words, rfl, hwords⟩ := Language.mem_kstar.mp hv
    refine Language.mem_kstar.mpr ⟨(a :: u) :: words, rfl, ?_⟩
    intro word hword
    rcases List.mem_cons.mp hword with rfl | hword
    · exact hu
    · exact hwords word hword

end Languages

lemma matchesEmpty_iff (r : Regex α) : r.matchesEmpty = true ↔ [] ∈ r.language := by
  induction r with
  | none => simp [matchesEmpty, language, Language.notMem_zero]
  | empty => simp [matchesEmpty, language]
  | letter p =>
      show false = true ↔ ∃ a, p a = true ∧ [] = [a]
      simp
  | seq r s ihr ihs => rw [matchesEmpty, Bool.and_eq_true, ihr, ihs, language, nil_mem_mul]
  | alt r s ihr ihs => rw [matchesEmpty, Bool.or_eq_true, ihr, ihs, language, Language.mem_add]
  | star r _ =>
      rw [matchesEmpty, language]
      exact iff_of_true rfl (Language.nil_mem_kstar _)

lemma mem_derivative (r : Regex α) {a : α} {w : List α} :
    w ∈ (r.derivative a).language ↔ a :: w ∈ r.language := by
  induction r generalizing w with
  | none => rfl
  | empty =>
      rw [derivative, language, language, Language.mem_one]
      exact iff_of_false (Language.notMem_zero _) (List.cons_ne_nil _ _)
  | letter p =>
      rw [derivative]
      show w ∈ (if p a then empty else none).language ↔ ∃ b, p b = true ∧ a :: w = [b]
      split_ifs with hp
      · rw [language, Language.mem_one]
        constructor
        · rintro rfl
          exact ⟨a, hp, rfl⟩
        · rintro ⟨b, -, heq⟩
          cases heq
          rfl
      · rw [language]
        refine iff_of_false (Language.notMem_zero _) ?_
        rintro ⟨b, hb, heq⟩
        cases heq
        exact hp hb
  | seq r s ihr ihs =>
      rw [language, cons_mem_mul, ← matchesEmpty_iff, derivative]
      have hfirst : w ∈ (seq (r.derivative a) s).language ↔
          ∃ u v, u ++ v = w ∧ a :: u ∈ r.language ∧ v ∈ s.language := by
        rw [language, Language.mem_mul]
        constructor
        · rintro ⟨u, hu, v, hv, huv⟩
          exact ⟨u, v, huv, ihr.mp hu, hv⟩
        · rintro ⟨u, v, huv, hu, hv⟩
          exact ⟨u, ihr.mpr hu, v, hv, huv⟩
      split_ifs with hempty
      · rw [language, Language.mem_add, hfirst, ihs]
        simp only [hempty, true_and]
      · rw [hfirst]
        simp only [hempty, Bool.false_eq_true, false_and, or_false]
  | alt r s ihr ihs =>
      rw [derivative, language, language, Language.mem_add, Language.mem_add, ihr, ihs]
  | star r ih =>
      show w ∈ (r.derivative a).language * r.language∗ ↔ a :: w ∈ r.language∗
      rw [cons_mem_kstar, Language.mem_mul]
      constructor
      · rintro ⟨u, hu, v, hv, huv⟩
        exact ⟨u, v, huv, ih.mp hu, hv⟩
      · rintro ⟨u, v, huv, hu, hv⟩
        exact ⟨u, ih.mpr hu, v, hv, huv⟩

/-- **A test decides** whether a string is described. -/
theorem test_iff (r : Regex α) (w : List α) : r.test w = true ↔ w ∈ r.language := by
  induction w generalizing r with
  | nil => rw [test, matchesEmpty_iff]
  | cons a w ih => rw [test, ih, mem_derivative]

/-! ## Reading a language off its expression -/

section Members

variable {r s : Regex α} {p : α → Bool} {w : List α} {m n : ℕ}

lemma mem_letter : w ∈ (letter p).language ↔ ∃ a, p a = true ∧ w = [a] := Iff.rfl

lemma mem_seq : w ∈ (seq r s).language ↔ ∃ u v, u ++ v = w ∧ u ∈ r.language ∧ v ∈ s.language := by
  rw [language, Language.mem_mul]
  constructor
  · rintro ⟨u, hu, v, hv, huv⟩
    exact ⟨u, v, huv, hu, hv⟩
  · rintro ⟨u, v, huv, hu, hv⟩
    exact ⟨u, hu, v, hv, huv⟩

lemma mem_alt : w ∈ (alt r s).language ↔ w ∈ r.language ∨ w ∈ s.language := Iff.rfl

lemma mem_empty : w ∈ (empty : Regex α).language ↔ w = [] := Iff.rfl

lemma mem_optional : w ∈ (optional r).language ↔ w ∈ r.language ∨ w = [] := Iff.rfl

/-- A letter and the rest. -/
lemma mem_letter_seq : w ∈ (seq (letter p) s).language ↔
    ∃ a v, w = a :: v ∧ p a = true ∧ v ∈ s.language := by
  rw [mem_seq]
  constructor
  · rintro ⟨_, v, rfl, ⟨a, ha, rfl⟩, hv⟩
    exact ⟨a, v, rfl, ha, hv⟩
  · rintro ⟨a, v, rfl, ha, hv⟩
    exact ⟨[a], v, rfl, ⟨a, ha, rfl⟩, hv⟩

/-- An expression of two letters and the rest. -/
lemma mem_pair_seq {f : α → α → Prop} (hr : ∀ {u}, u ∈ r.language ↔ ∃ a b, u = [a, b] ∧ f a b) :
    w ∈ (seq r s).language ↔ ∃ a b v, w = a :: b :: v ∧ f a b ∧ v ∈ s.language := by
  rw [mem_seq]
  constructor
  · rintro ⟨u, v, rfl, hu, hv⟩
    obtain ⟨a, b, rfl, hab⟩ := hr.mp hu
    exact ⟨a, b, v, rfl, hab, hv⟩
  · rintro ⟨a, b, v, rfl, hab, hv⟩
    exact ⟨[a, b], v, rfl, hr.mpr ⟨a, b, rfl, hab⟩, hv⟩

lemma mem_letter_letter {q : α → Bool} : w ∈ (seq (letter p) (letter q)).language ↔
    ∃ a b, w = [a, b] ∧ p a = true ∧ q b = true := by
  rw [mem_letter_seq]
  constructor
  · rintro ⟨a, _, rfl, ha, b, hb, rfl⟩
    exact ⟨a, b, rfl, ha, hb⟩
  · rintro ⟨a, b, rfl, ha, hb⟩
    exact ⟨a, [b], rfl, ha, b, hb, rfl⟩

lemma mem_alt_pair {f g : α → α → Prop} (hr : ∀ {u}, u ∈ r.language ↔ ∃ a b, u = [a, b] ∧ f a b)
    (hs : ∀ {u}, u ∈ s.language ↔ ∃ a b, u = [a, b] ∧ g a b) :
    w ∈ (alt r s).language ↔ ∃ a b, w = [a, b] ∧ (f a b ∨ g a b) := by
  rw [mem_alt, hr, hs]
  constructor
  · rintro (⟨a, b, rfl, hab⟩ | ⟨a, b, rfl, hab⟩)
    · exact ⟨a, b, rfl, .inl hab⟩
    · exact ⟨a, b, rfl, .inr hab⟩
  · rintro ⟨a, b, rfl, hab | hab⟩
    · exact .inl ⟨a, b, rfl, hab⟩
    · exact .inr ⟨a, b, rfl, hab⟩

lemma mem_times_letter : w ∈ ((letter p).times n).language ↔ w.length = n ∧ w.all p = true := by
  induction n generalizing w with
  | zero =>
      rw [times, mem_empty, List.length_eq_zero_iff]
      constructor
      · rintro rfl
        exact ⟨rfl, rfl⟩
      · exact And.left
  | succ n ih =>
      rw [times, mem_letter_seq]
      constructor
      · rintro ⟨a, v, rfl, ha, hv⟩
        obtain ⟨hlength, hall⟩ := ih.mp hv
        rw [List.length_cons, hlength, List.all_cons, ha, hall]
        exact ⟨rfl, rfl⟩
      · rintro ⟨hlength, hall⟩
        cases w with
        | nil => cases hlength
        | cons a v =>
            rw [List.all_cons, Bool.and_eq_true] at hall
            exact ⟨a, v, rfl, hall.1, ih.mpr ⟨Nat.succ.inj hlength, hall.2⟩⟩

lemma mem_upTo_letter : w ∈ ((letter p).upTo n).language ↔ w.length ≤ n ∧ w.all p = true := by
  induction n generalizing w with
  | zero =>
      rw [upTo, mem_empty, Nat.le_zero, List.length_eq_zero_iff]
      constructor
      · rintro rfl
        exact ⟨rfl, rfl⟩
      · exact And.left
  | succ n ih =>
      rw [upTo, mem_optional, mem_letter_seq]
      constructor
      · rintro (⟨a, v, rfl, ha, hv⟩ | rfl)
        · obtain ⟨hlength, hall⟩ := ih.mp hv
          rw [List.all_cons, ha, hall]
          exact ⟨Nat.succ_le_succ hlength, rfl⟩
        · exact ⟨Nat.zero_le _, rfl⟩
      · rintro ⟨hlength, hall⟩
        cases w with
        | nil => exact .inr rfl
        | cons a v =>
            rw [List.all_cons, Bool.and_eq_true] at hall
            exact .inl ⟨a, v, rfl, hall.1, ih.mpr ⟨Nat.le_of_succ_le_succ hlength, hall.2⟩⟩

lemma mem_between_letter (hmn : m ≤ n) : w ∈ ((letter p).between m n).language ↔
    m ≤ w.length ∧ w.length ≤ n ∧ w.all p = true := by
  rw [between, mem_seq]
  constructor
  · rintro ⟨u, v, rfl, hu, hv⟩
    obtain ⟨hulen, huall⟩ := (mem_times_letter).mp hu
    obtain ⟨hvlen, hvall⟩ := (mem_upTo_letter).mp hv
    rw [List.length_append, List.all_append, huall, hvall]
    exact ⟨by omega, by omega, rfl⟩
  · rintro ⟨hlow, hhigh, hall⟩
    have hsplit := List.take_append_drop m w
    rw [← hsplit, List.all_append, Bool.and_eq_true] at hall
    refine ⟨w.take m, w.drop m, hsplit, (mem_times_letter).mpr ⟨?_, hall.1⟩,
      (mem_upTo_letter).mpr ⟨?_, hall.2⟩⟩
    · rw [List.length_take, Nat.min_eq_left hlow]
    · rw [List.length_drop]
      omega

lemma mem_star_letter : w ∈ (star (letter p)).language ↔ w.all p = true := by
  rw [language]
  induction w with
  | nil => exact iff_of_true (Language.nil_mem_kstar _) rfl
  | cons a w ih =>
      rw [cons_mem_kstar, List.all_cons, Bool.and_eq_true, ← ih]
      constructor
      · rintro ⟨u, v, rfl, ⟨b, hb, heq⟩, hv⟩
        cases heq
        exact ⟨hb, hv⟩
      · rintro ⟨ha, hw⟩
        exact ⟨[], w, rfl, ⟨a, ha, rfl⟩, hw⟩

lemma mem_literal [BEq α] [LawfulBEq α] {word : List α} :
    w ∈ (literal word).language ↔ w = word := by
  induction word generalizing w with
  | nil => rfl
  | cons a word ih =>
      rw [literal, mem_letter_seq]
      constructor
      · rintro ⟨b, v, rfl, hb, hv⟩
        rw [eq_of_beq hb, ih.mp hv]
      · rintro rfl
        exact ⟨a, word, rfl, beq_self_eq_true a, ih.mpr rfl⟩

end Members

end Regex
