import Mathlib.Algebra.Ring.Nat
import Mathlib.Data.List.Basic
import Mathlib.Tactic.Lemma

/-!
# Byte streams

Texts as bytes, and streams of commands among text.

* `encode`, `decode` — UTF-8; `decode_encode` is the round trip, `encode_of_isAscii` says what
  ASCII becomes.
* `commands size` — the commands a device finds in a stream, where `size` tells how many bytes the
  command takes that a stream begins with, and is `none` on a byte of text.
* `commands_text`, `commands_command` — what a device reads from text and from a command, whatever
  comes after them.
-/

namespace Bytes

/-! ## UTF-8 -/

/-- The UTF-8 bytes of a text. -/
def encode (cs : List Char) : List UInt8 := cs.flatMap String.utf8EncodeChar

/-- The text that some bytes are the UTF-8 bytes of, if there is one. -/
def decode (bytes : List UInt8) : Option String :=
  bytes.toByteArray.utf8Decode?.map fun cs => String.ofList cs.toList

@[simp] lemma encode_nil : encode [] = [] := rfl

@[simp] lemma encode_append {cs ds : List Char} : encode (cs ++ ds) = encode cs ++ encode ds :=
  List.flatMap_append

@[simp] lemma encode_cons {c : Char} {cs : List Char} :
    encode (c :: cs) = String.utf8EncodeChar c ++ encode cs := rfl

@[simp] lemma decode_encode {cs : List Char} : decode (encode cs) = some (String.ofList cs) := by
  have harray : (encode cs).toByteArray.utf8Decode? = some cs.toArray :=
    List.utf8Decode?_utf8Encode
  simp [decode, harray]

/-- Every character has at least one byte. -/
lemma encode_ne_nil {cs : List Char} (hne : cs ≠ []) : encode cs ≠ [] := by
  cases cs with
  | nil => exact absurd rfl hne
  | cons c cs =>
      intro hempty
      rw [encode_cons, List.append_eq_nil_iff] at hempty
      have hlength := String.length_utf8EncodeChar c
      have hpos := c.utf8Size_pos
      rw [hempty.1, List.length_nil] at hlength
      omega

lemma length_encode {cs : List Char} : (encode cs).length = (cs.map Char.utf8Size).sum := by
  simp [encode, List.length_flatMap]

/-- `char::is_ascii`. -/
def isAscii (c : Char) : Bool := c.toNat < 128

/-- The byte of an ASCII character. -/
def asciiByte (c : Char) : UInt8 := UInt8.ofNat c.toNat

lemma utf8EncodeChar_of_isAscii {c : Char} (hascii : isAscii c = true) :
    String.utf8EncodeChar c = [asciiByte c] := by
  have hlt : c.toNat < 128 := by simpa [isAscii] using hascii
  have hsize : c.utf8Size = 1 := by
    rw [Char.utf8Size_eq_one_iff, UInt32.le_iff_toNat_le]
    exact Nat.le_of_lt_succ hlt
  rw [String.utf8EncodeChar_eq_singleton hsize]
  rfl

/-- An ASCII text has one byte for each character. -/
lemma encode_of_isAscii {cs : List Char} (hascii : ∀ c ∈ cs, isAscii c = true) :
    encode cs = cs.map asciiByte := by
  induction cs with
  | nil => rfl
  | cons c cs ih =>
      have hhead := utf8EncodeChar_of_isAscii (hascii c List.mem_cons_self)
      have htail := ih fun d hd => hascii d (List.mem_cons_of_mem _ hd)
      rw [encode_cons, hhead, htail]
      rfl

lemma toNat_asciiByte {c : Char} (hascii : isAscii c = true) : (asciiByte c).toNat = c.toNat := by
  have hlt : c.toNat < 128 := by simpa [isAscii] using hascii
  simp only [asciiByte, UInt8.toNat_ofNat']
  omega

/-! ## Commands among text -/

section Commands

variable {β : Type*} (size : List β → Option ℕ)

/-- The commands in a stream, each with its operands. -/
def commands : List β → List (List β)
  | [] => []
  | b :: rest =>
    match size (b :: rest) with
    | none => commands rest
    | some n => (b :: rest.take (n - 1)) :: commands (rest.drop (n - 1))
termination_by stream => stream.length

variable {size}

@[simp] lemma commands_nil : commands size [] = [] := by rw [commands]

/-- Elements that begin no command are text. -/
lemma commands_text {text rest : List β} (htext : ∀ b ∈ text, ∀ after, size (b :: after) = none) :
    commands size (text ++ rest) = commands size rest := by
  induction text with
  | nil => rfl
  | cons b text ih =>
      have hnone := htext b List.mem_cons_self (text ++ rest)
      rw [List.cons_append, commands, hnone]
      exact ih fun c hc => htext c (List.mem_cons_of_mem _ hc)

/-- A list of bytes that is one command, whatever comes after it. -/
def IsCommand (size : List β → Option ℕ) (command : List β) : Prop :=
  command ≠ [] ∧ ∀ after, size (command ++ after) = some command.length

lemma commands_command {command rest : List β} (hcommand : IsCommand size command) :
    commands size (command ++ rest) = command :: commands size rest := by
  rcases hcommand with ⟨hne, hsize⟩
  cases command with
  | nil => exact absurd rfl hne
  | cons b operands =>
      have hlength := hsize rest
      simp only [List.cons_append, List.length_cons] at hlength
      rw [List.cons_append, commands, hlength]
      simp

/-- Several commands in a row. -/
lemma commands_flatten {list : List (List β)} {rest : List β}
    (hcommands : ∀ command ∈ list, IsCommand size command) :
    commands size (list.flatten ++ rest) = list ++ commands size rest := by
  induction list with
  | nil => rfl
  | cons command list ih =>
      have hhead := hcommands command List.mem_cons_self
      have htail := ih fun other hother => hcommands other (List.mem_cons_of_mem _ hother)
      rw [List.flatten_cons, List.append_assoc, commands_command hhead, htail]
      rfl

end Commands

end Bytes
