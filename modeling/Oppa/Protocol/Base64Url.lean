import Oppa.Foundation.BitStream
import Oppa.Foundation.Regex
import Oppa.Foundation.Utf16

/-!
# The base64url codec of the TypeScript package

Keys and signatures travel as base64url text.  The package encodes and decodes them itself, with a
32-bit accumulator that carries bits from one character to the next.

* `encodeBase64Url`, `decodeBase64Url` — the two functions, on code units and bytes.
* `flush_spec`, `encodeByte_spec`, `decodeCharacter_spec` — what one turn of each loop does to the
  bits that have been seen so far.
* `packs_encodeBase64Url`, `packs_of_decodeBase64Url` — the characters hold the bits of the bytes,
  in order, and fewer than six zeros after them.

**`base64Url_codec`** says that the two are inverse to each other and that there is one text for
each sequence of bytes.
-/

namespace Oppa.Protocol.Package

open Utf16 BitStream

/-! ## The code -/

/-- `'ABCDEFGHIJKLMNOPQRSTUVWXYZabcdefghijklmnopqrstuvwxyz0123456789-_'`. -/
def alphabet : List UInt16 :=
  encode "ABCDEFGHIJKLMNOPQRSTUVWXYZabcdefghijklmnopqrstuvwxyz0123456789-_".toList

/-- `[A-Za-z0-9_-]`. -/
def isBase64UrlUnit (u : UInt16) : Bool :=
  0x41 ≤ u.toNat && u.toNat ≤ 0x5a || 0x61 ≤ u.toNat && u.toNat ≤ 0x7a ||
    0x30 ≤ u.toNat && u.toNat ≤ 0x39 || u.toNat = 0x5f || u.toNat = 0x2d

/-- `/^[A-Za-z0-9_-]+$/`. -/
def base64UrlPattern : Regex UInt16 :=
  .seq (.letter isBase64UrlUnit) (.star (.letter isBase64UrlUnit))

/-- `alphabet.indexOf(character)`. -/
def indexOf (character : UInt16) : BitVec 32 :=
  if character ∈ alphabet then BitVec.ofNat 32 (alphabet.idxOf character) else -1

/-- `bits === 0 ? 0 : (1 << bits) - 1`. -/
def mask (bits : ℕ) : BitVec 32 := if bits = 0 then 0 else ((1 : BitVec 32) <<< bits) - 1

/-- `ProtocolValidationError`, with the path and the message of each issue. -/
structure ProtocolValidationError where
  message : String
  issues : List (String × String)
  deriving DecidableEq, Repr

/-- The variables of the loop of `decodeBase64Url`. -/
structure Decoding where
  accumulator : BitVec 32 := 0
  bits : ℕ := 0
  index : ℕ := 0
  output : List UInt8

/-- One turn of the loop of `decodeBase64Url`. -/
def decodeCharacter (state : Decoding) (character : UInt16) : Decoding :=
  let accumulator := (state.accumulator <<< 6) ||| indexOf character
  let bits := state.bits + 6
  if 8 ≤ bits then
    let bits := bits - 8
    { accumulator := accumulator &&& mask bits
      bits := bits
      index := state.index + 1
      output := state.output.set state.index (UInt8.ofNat ((accumulator >>> bits) &&& 0xff).toNat) }
  else { state with accumulator := accumulator, bits := bits }

/-- `decodeBase64Url`.  The loop runs over characters; after the test these are code units. -/
def decodeBase64Url (value : List UInt16) : Except ProtocolValidationError (List UInt8) :=
  if value.length = 0 ∨ base64UrlPattern.test value = false ∨ value.length % 4 = 1 then
    .error ⟨"Invalid base64url value", [("/", "must be canonical unpadded base64url")]⟩
  else
    let state := value.foldl decodeCharacter { output := List.replicate (value.length * 6 / 8) 0 }
    if 0 < state.bits ∧ state.accumulator &&& (((1 : BitVec 32) <<< state.bits) - 1) ≠ 0 then
      .error ⟨"Invalid base64url value", [("/", "contains non-canonical trailing bits")]⟩
    else .ok state.output

/-- The variables of the loop of `encodeBase64Url`. -/
structure Encoding where
  output : List UInt16 := []
  accumulator : BitVec 32 := 0
  bits : ℕ := 0

/-- `while (bits >= 6)`. -/
def flush (accumulator : BitVec 32) (output : List UInt16) : ℕ → Encoding
  | bits + 6 =>
      flush (accumulator &&& mask bits)
        (output ++ [alphabet.getD ((accumulator >>> bits) &&& 0x3f).toNat 0]) bits
  | bits => { output := output, accumulator := accumulator, bits := bits }

/-- One turn of the loop of `encodeBase64Url`. -/
def encodeByte (state : Encoding) (byte : UInt8) : Encoding :=
  flush ((state.accumulator <<< 8) ||| BitVec.ofNat 32 byte.toNat) state.output (state.bits + 8)

/-- `encodeBase64Url`. -/
def encodeBase64Url (value : List UInt8) : List UInt16 :=
  let state := value.foldl encodeByte {}
  if 0 < state.bits then
    state.output ++ [alphabet.getD ((state.accumulator <<< (6 - state.bits)) &&& 0x3f).toNat 0]
  else state.output

/-! ## The alphabet -/

lemma toNat_alphabet : alphabet.map UInt16.toNat =
    List.range' 0x41 26 ++ List.range' 0x61 26 ++ List.range' 0x30 10 ++ [0x2d, 0x5f] := by
  decide +kernel

lemma length_alphabet : alphabet.length = 64 := by
  rw [← List.length_map, toNat_alphabet]
  rfl

lemma nodup_alphabet : alphabet.Nodup := by
  refine List.Nodup.of_map UInt16.toNat ?_
  rw [toNat_alphabet]
  decide

/-- The letters of the alphabet are those of the pattern. -/
lemma mem_alphabet {u : UInt16} : u ∈ alphabet ↔ isBase64UrlUnit u = true := by
  have hmap : u ∈ alphabet ↔ u.toNat ∈ alphabet.map UInt16.toNat := by
    rw [List.mem_map]
    constructor
    · intro hu
      exact ⟨u, hu, rfl⟩
    · rintro ⟨v, hv, heq⟩
      rwa [← UInt16.toNat_inj.mp heq]
  rw [hmap, toNat_alphabet]
  simp only [List.mem_append, List.mem_range'_1, List.mem_cons, List.not_mem_nil, or_false,
    isBase64UrlUnit, Bool.or_eq_true, Bool.and_eq_true, decide_eq_true_eq]
  omega

/-- The six bits of a character. -/
def digitOf (u : UInt16) : ℕ := alphabet.idxOf u

example : digitOf 0x41 = 0 := by
  rw [digitOf]
  rfl

lemma digitOf_lt {u : UInt16} (hu : isBase64UrlUnit u = true) : digitOf u < 64 := by
  rw [digitOf, ← length_alphabet, List.idxOf_lt_length_iff]
  exact mem_alphabet.mpr hu

lemma toNat_indexOf {u : UInt16} (hu : isBase64UrlUnit u = true) :
    (indexOf u).toNat = digitOf u := by
  have hlt := digitOf_lt hu
  rw [indexOf, if_pos (mem_alphabet.mpr hu), BitVec.toNat_ofNat, digitOf]
  rw [digitOf] at hlt
  omega

lemma isBase64UrlUnit_getD {i : ℕ} (hi : i < 64) :
    isBase64UrlUnit (alphabet.getD i 0) = true := by
  rw [List.getD_eq_getElem _ _ (by rw [length_alphabet]; exact hi), ← mem_alphabet]
  exact List.getElem_mem _

lemma digitOf_getD {i : ℕ} (hi : i < 64) : digitOf (alphabet.getD i 0) = i := by
  rw [List.getD_eq_getElem _ _ (by rw [length_alphabet]; exact hi), digitOf]
  exact nodup_alphabet.idxOf_getElem i _

lemma digitOf_inj {u v : UInt16} (hu : isBase64UrlUnit u = true) (h : digitOf u = digitOf v) :
    u = v :=
  (List.idxOf_inj (mem_alphabet.mpr hu)).mp h

/-! ## The accumulator -/

lemma toNat_mask {b : ℕ} (hb : b < 32) : (mask b).toNat = 2 ^ b - 1 := by
  rw [mask]
  split_ifs with hzero
  · rw [hzero]
    rfl
  · have hpow : 2 ^ b < 2 ^ 32 := Nat.pow_lt_pow_right (by omega) hb
    have hpos : 0 < 2 ^ b := Nat.two_pow_pos b
    have hone : ((1 : BitVec 32) <<< b).toNat = 2 ^ b := by
      rw [BitVec.toNat_shiftLeft, show (1 : BitVec 32).toNat = 1 from rfl, Nat.one_shiftLeft,
        Nat.mod_eq_of_lt hpow]
    rw [BitVec.toNat_sub_of_le, hone]
    · rfl
    · rw [BitVec.le_def, hone]
      exact hpos

/-- Masking keeps the bits that have not been written yet. -/
lemma toNat_and_mask {accumulator : BitVec 32} {b : ℕ} (hb : b < 32) :
    (accumulator &&& mask b).toNat = accumulator.toNat % 2 ^ b := by
  rw [BitVec.toNat_and, toNat_mask hb, Nat.and_two_pow_sub_one_eq_mod]

lemma toNat_and_low (accumulator : BitVec 32) (b : ℕ) :
    ((accumulator >>> b) &&& 0x3f).toNat = (accumulator.toNat >>> b) % 2 ^ 6 ∧
      ((accumulator >>> b) &&& 0xff).toNat = (accumulator.toNat >>> b) % 2 ^ 8 := by
  rw [BitVec.toNat_and, BitVec.toNat_and, BitVec.toNat_ushiftRight]
  exact ⟨Nat.and_two_pow_sub_one_eq_mod _ 6, Nat.and_two_pow_sub_one_eq_mod _ 8⟩

/-- Nothing is shifted out of the accumulator while it carries few bits. -/
lemma toNat_shiftLeft_or {accumulator value : BitVec 32} {b k : ℕ} (hsmall : b + k ≤ 32)
    (hacc : accumulator.toNat < 2 ^ b) :
    ((accumulator <<< k) ||| value).toNat = accumulator.toNat <<< k ||| value.toNat := by
  have hpow : 2 ^ (b + k) ≤ 2 ^ 32 := Nat.pow_le_pow_right (by omega) hsmall
  have hshift : accumulator.toNat <<< k < 2 ^ 32 := by
    rw [Nat.shiftLeft_eq]
    rw [Nat.pow_add] at hpow
    exact lt_of_lt_of_le (Nat.mul_lt_mul_of_pos_right hacc (Nat.two_pow_pos k)) hpow
  rw [BitVec.toNat_or, BitVec.toNat_shiftLeft, Nat.mod_eq_of_lt hshift]

/-! ## Encoding -/

/-- The bits of some characters. -/
def charactersBits (cs : List UInt16) : List Bool := stream 6 (cs.map digitOf)

/-- The bits of some bytes. -/
def bytesBits (bytes : List UInt8) : List Bool := stream 8 (bytes.map UInt8.toNat)

lemma charactersBits_append (cs ds : List UInt16) :
    charactersBits (cs ++ ds) = charactersBits cs ++ charactersBits ds := by
  rw [charactersBits, List.map_append, stream_append, charactersBits, charactersBits]

lemma bytesBits_append (bytes others : List UInt8) :
    bytesBits (bytes ++ others) = bytesBits bytes ++ bytesBits others := by
  rw [bytesBits, List.map_append, stream_append, bytesBits, bytesBits]

lemma charactersBits_getD {i : ℕ} (hi : i < 64) :
    charactersBits [alphabet.getD i 0] = BitStream.bits 6 i := by
  rw [charactersBits, List.map_singleton, stream_singleton, digitOf_getD hi]

/-- What is known between two turns of the encoder's loop: the characters so far and the bits that
the accumulator carries are the bits of the input so far. -/
structure Encoding.Holds (state : Encoding) (seen : List Bool) : Prop where
  few : state.bits < 6
  carried : state.accumulator.toNat < 2 ^ state.bits
  letters : ∀ u ∈ state.output, isBase64UrlUnit u = true
  agrees : charactersBits state.output ++ BitStream.bits state.bits state.accumulator.toNat = seen

lemma flush_spec {b : ℕ} (hsmall : b < 32) {accumulator : BitVec 32} {output : List UInt16}
    (hacc : accumulator.toNat < 2 ^ b) (hletters : ∀ u ∈ output, isBase64UrlUnit u = true) :
    (flush accumulator output b).Holds
      (charactersBits output ++ BitStream.bits b accumulator.toNat) := by
  induction b using Nat.strongRecOn generalizing accumulator output with
  | ind b ih =>
      rcases Nat.lt_or_ge b 6 with hfew | hmany
      · have hflush : flush accumulator output b =
            { output := output, accumulator := accumulator, bits := b } := by
          match b, hfew with
          | 0, _ | 1, _ | 2, _ | 3, _ | 4, _ | 5, _ => rfl
        rw [hflush]
        exact ⟨hfew, hacc, hletters, rfl⟩
      · obtain ⟨b, rfl⟩ := Nat.exists_eq_add_of_le' hmany
        have hdigit := (toNat_and_low accumulator b).1
        have hlt : (accumulator.toNat >>> b) % 2 ^ 6 < 64 := Nat.mod_lt _ (by omega)
        have hleft : (accumulator &&& mask b).toNat < 2 ^ b := by
          rw [toNat_and_mask (by omega)]
          exact Nat.mod_lt _ (Nat.two_pow_pos b)
        have hwritten : ∀ u ∈ output ++ [alphabet.getD ((accumulator >>> b) &&& 0x3f).toNat 0],
            isBase64UrlUnit u = true := by
          intro u hu
          rcases List.mem_append.mp hu with hu | hu
          · exact hletters u hu
          · rw [List.mem_singleton.mp hu, hdigit]
            exact isBase64UrlUnit_getD hlt
        have hnext := ih b (by omega) (by omega) hleft hwritten
        rw [flush]
        rwa [charactersBits_append, hdigit, charactersBits_getD hlt, toNat_and_mask (by omega),
          BitStream.bits_mod, BitStream.bits_mod, List.append_assoc, ← BitStream.bits_add,
          Nat.add_comm 6 b, ← hdigit] at hnext

lemma encodeByte_spec {state : Encoding} {seen : List Bool} (h : state.Holds seen) (byte : UInt8) :
    (encodeByte state byte).Holds (seen ++ BitStream.bits 8 byte.toNat) := by
  have hfew := h.few
  have hbyte : byte.toNat < 2 ^ 8 := byte.toNat_lt
  have hvalue : (BitVec.ofNat 32 byte.toNat).toNat = byte.toNat := by
    rw [BitVec.toNat_ofNat]
    omega
  have hacc : ((state.accumulator <<< 8) ||| BitVec.ofNat 32 byte.toNat).toNat =
      state.accumulator.toNat <<< 8 ||| byte.toNat := by
    rw [toNat_shiftLeft_or (by omega) h.carried, hvalue]
  have hnext := flush_spec (b := state.bits + 8) (by omega)
    (by rw [hacc]; exact shiftLeft_or_lt h.carried hbyte) h.letters
  rwa [hacc, bits_shiftLeft_or _ hbyte, ← List.append_assoc, h.agrees] at hnext

lemma encodeBytes_spec (bytes : List UInt8) {state : Encoding} {seen : List Bool}
    (h : state.Holds seen) : (bytes.foldl encodeByte state).Holds (seen ++ bytesBits bytes) := by
  induction bytes generalizing state seen with
  | nil =>
      rw [List.foldl_nil, bytesBits, List.map_nil, stream_nil, List.append_nil]
      exact h
  | cons byte bytes ih =>
      have hnext := ih (encodeByte_spec h byte)
      rwa [List.append_assoc] at hnext

/-- **The characters hold the bits of the bytes**, and fewer than six zeros after them. -/
theorem packs_encodeBase64Url (bytes : List UInt8) :
    (∀ u ∈ encodeBase64Url bytes, isBase64UrlUnit u = true) ∧
      Packs 8 6 (bytes.map UInt8.toNat) ((encodeBase64Url bytes).map digitOf) := by
  have hstart : Encoding.Holds {} [] :=
    ⟨by decide, by decide, fun u hu => absurd hu List.not_mem_nil, rfl⟩
  have hend := encodeBytes_spec bytes hstart
  rw [List.nil_append] at hend
  set state := bytes.foldl encodeByte {} with hstate
  -- the bits that are left over make one more character, with zeros below them
  have hlast : (∀ u ∈ encodeBase64Url bytes, isBase64UrlUnit u = true) ∧
      ∃ padding < 6, charactersBits (encodeBase64Url bytes) =
        bytesBits bytes ++ List.replicate padding false := by
    have hfew := hend.few
    rw [encodeBase64Url, ← hstate]
    split_ifs with hleft
    · have hindex : ((state.accumulator <<< (6 - state.bits)) &&& 0x3f).toNat =
          state.accumulator.toNat <<< (6 - state.bits) := by
        have hshift : ((state.accumulator <<< (6 - state.bits)) ||| 0#32).toNat =
            state.accumulator.toNat <<< (6 - state.bits) ||| (0#32).toNat :=
          toNat_shiftLeft_or (by omega) hend.carried
        have hlt := shiftLeft_or_lt hend.carried (Nat.two_pow_pos (6 - state.bits))
        rw [BitVec.or_zero, BitVec.toNat_zero, Nat.or_zero] at hshift
        rw [Nat.or_zero, Nat.add_sub_cancel' (by omega)] at hlt
        rw [BitVec.toNat_and, hshift]
        exact (Nat.and_two_pow_sub_one_eq_mod _ 6).trans (Nat.mod_eq_of_lt hlt)
      have hlt : state.accumulator.toNat <<< (6 - state.bits) < 64 := by
        rw [← hindex, BitVec.toNat_and]
        exact lt_of_le_of_lt Nat.and_le_right (by decide)
      have hbits : BitStream.bits 6 (state.accumulator.toNat <<< (6 - state.bits)) =
          BitStream.bits state.bits state.accumulator.toNat ++
            List.replicate (6 - state.bits) false := by
        have hsplit := bits_shiftLeft_or (x := state.accumulator.toNat) state.bits
          (Nat.two_pow_pos (6 - state.bits))
        rwa [Nat.or_zero, Nat.add_sub_cancel' (by omega), bits_zero] at hsplit
      rw [hindex]
      refine ⟨?_, 6 - state.bits, by omega, ?_⟩
      · intro u hu
        rcases List.mem_append.mp hu with hu | hu
        · exact hend.letters u hu
        · rw [List.mem_singleton.mp hu]
          exact isBase64UrlUnit_getD hlt
      · rw [charactersBits_append, charactersBits_getD hlt, hbits, ← List.append_assoc, hend.agrees]
    · have hnone : state.bits = 0 := by omega
      refine ⟨hend.letters, 0, by omega, ?_⟩
      have hagrees := hend.agrees
      rw [hnone, BitStream.bits, List.append_nil] at hagrees
      rw [List.replicate_zero, List.append_nil]
      exact hagrees
  refine ⟨hlast.1, ?_, ?_, hlast.2⟩
  · intro n hn
    obtain ⟨byte, -, rfl⟩ := List.mem_map.mp hn
    exact byte.toNat_lt
  · intro n hn
    obtain ⟨u, hu, rfl⟩ := List.mem_map.mp hn
    exact digitOf_lt (hlast.1 u hu)

/-! ## Decoding -/

/-- What is known between two turns of the decoder's loop: the bytes so far and the bits that the
accumulator carries are the bits of the characters so far. -/
structure Decoding.Holds (state : Decoding) (total : ℕ) (seen : List UInt16) : Prop where
  few : state.bits < 8
  carried : state.accumulator.toNat < 2 ^ state.bits
  room : state.output.length = total * 6 / 8
  written : state.index ≤ state.output.length
  agrees : bytesBits (state.output.take state.index) ++
    BitStream.bits state.bits state.accumulator.toNat = charactersBits seen

lemma Decoding.Holds.count {state : Decoding} {total : ℕ} {seen : List UInt16}
    (h : state.Holds total seen) : 8 * state.index + state.bits = 6 * seen.length := by
  have hlength := congrArg List.length h.agrees
  rwa [List.length_append, bytesBits, length_stream, List.length_map, length_bits, charactersBits,
    length_stream, List.length_map, List.length_take_of_le h.written] at hlength

/-- Writing the next byte. -/
lemma take_set {α : Type*} {l : List α} {i : ℕ} (hi : i < l.length) (a : α) :
    (l.set i a).take (i + 1) = l.take i ++ [a] := by
  rw [List.set_eq_take_append_cons_drop, if_pos hi, List.take_append, List.take_take,
    List.length_take_of_le (by omega), Nat.add_sub_cancel_left, Nat.min_eq_right (by omega)]
  rfl

lemma decodeCharacter_spec {state : Decoding} {total : ℕ} {seen : List UInt16}
    (h : state.Holds total seen) {u : UInt16} (hu : isBase64UrlUnit u = true)
    (hmore : seen.length < total) : (decodeCharacter state u).Holds total (seen ++ [u]) := by
  have hfew := h.few
  have hdigit : digitOf u < 2 ^ 6 := digitOf_lt hu
  have hacc : ((state.accumulator <<< 6) ||| indexOf u).toNat =
      state.accumulator.toNat <<< 6 ||| digitOf u := by
    rw [toNat_shiftLeft_or (by omega) h.carried, toNat_indexOf hu]
  have hlt : ((state.accumulator <<< 6) ||| indexOf u).toNat < 2 ^ (state.bits + 6) := by
    rw [hacc]
    exact shiftLeft_or_lt h.carried hdigit
  have hseen : bytesBits (state.output.take state.index) ++
      BitStream.bits (state.bits + 6) ((state.accumulator <<< 6) ||| indexOf u).toNat =
        charactersBits (seen ++ [u]) := by
    rw [hacc, bits_shiftLeft_or _ hdigit, ← List.append_assoc, h.agrees, charactersBits_append,
      charactersBits, charactersBits, List.map_singleton, stream_singleton]
  rw [decodeCharacter]
  simp only
  split_ifs with hbyte
  · have hcount := h.count
    have hroom := h.room
    have hindex : state.index < state.output.length := by omega
    obtain ⟨b, hb⟩ := Nat.exists_eq_add_of_le' hbyte
    rw [hb] at hlt hseen ⊢
    rw [Nat.add_sub_cancel]
    refine ⟨by simp only; omega, ?_, ?_, ?_, ?_⟩
    · simp only
      rw [toNat_and_mask (by omega)]
      exact Nat.mod_lt _ (Nat.two_pow_pos b)
    · simp only
      rw [List.length_set, hroom]
    · simp only
      rw [List.length_set]
      exact hindex
    · simp only
      have hvalue : (UInt8.ofNat ((((state.accumulator <<< 6) ||| indexOf u) >>> b) &&& 0xff).toNat
          ).toNat = ((state.accumulator <<< 6) ||| indexOf u).toNat >>> b % 2 ^ 8 := by
        rw [UInt8.toNat_ofNat', (toNat_and_low _ b).2, Nat.mod_mod]
      rw [take_set hindex, bytesBits_append, List.append_assoc, toNat_and_mask (by omega), bits_mod,
        bytesBits, bytesBits, List.map_singleton, stream_singleton, hvalue, bits_mod, ← bits_add,
        Nat.add_comm 8 b]
      exact hseen
  · exact ⟨by simp only; omega, hlt, h.room, h.written, hseen⟩

lemma decodeCharacters_spec {total : ℕ} (cs : List UInt16)
    (hcs : ∀ u ∈ cs, isBase64UrlUnit u = true) {state : Decoding} {seen : List UInt16}
    (h : state.Holds total seen) (htotal : seen.length + cs.length = total) :
    (cs.foldl decodeCharacter state).Holds total (seen ++ cs) := by
  induction cs generalizing state seen with
  | nil =>
      rw [List.foldl_nil, List.append_nil]
      exact h
  | cons u cs ih =>
      rw [List.length_cons] at htotal
      have hnext := ih (fun v hv => hcs v (List.mem_cons_of_mem _ hv))
        (decodeCharacter_spec h (hcs u List.mem_cons_self) (by omega))
        (by rw [List.length_append, List.length_singleton]; omega)
      rwa [List.append_assoc] at hnext

lemma test_base64UrlPattern {value : List UInt16} : base64UrlPattern.test value = true ↔
    value ≠ [] ∧ ∀ u ∈ value, isBase64UrlUnit u = true := by
  rw [Regex.test_iff, base64UrlPattern, Regex.mem_letter_seq]
  simp only [Regex.mem_star_letter, List.all_eq_true]
  constructor
  · rintro ⟨u, rest, rfl, hu, hrest⟩
    exact ⟨List.cons_ne_nil _ _, List.forall_mem_cons.mpr ⟨hu, hrest⟩⟩
  · rintro ⟨hne, hall⟩
    obtain ⟨u, rest, rfl⟩ := List.exists_cons_of_ne_nil hne
    rw [List.forall_mem_cons] at hall
    exact ⟨u, rest, rfl, hall.1, hall.2⟩

/-- The state after the loop of `decodeBase64Url`. -/
lemma decoded_holds {value : List UInt16} (hall : ∀ u ∈ value, isBase64UrlUnit u = true) :
    Decoding.Holds (value.foldl decodeCharacter
      { output := List.replicate (value.length * 6 / 8) 0 }) value.length value := by
  have hstart : Decoding.Holds { output := List.replicate (value.length * 6 / 8) 0 }
      value.length [] :=
    ⟨Nat.zero_lt_succ 7, Nat.zero_lt_one, List.length_replicate, Nat.zero_le _, rfl⟩
  exact decodeCharacters_spec value hall hstart (Nat.zero_add _)

/-- The bits that are left over are refused exactly if one of them is set. -/
lemma leftover_iff {state : Decoding} {total : ℕ} {seen : List UInt16}
    (h : state.Holds total seen) :
    (0 < state.bits ∧ state.accumulator &&& (((1 : BitVec 32) <<< state.bits) - 1) ≠ 0) ↔
      state.accumulator.toNat ≠ 0 := by
  have hfew := h.few
  have hcarried := h.carried
  rcases Nat.eq_zero_or_pos state.bits with hnone | hsome
  · rw [hnone] at hcarried
    exact iff_of_false (by omega) (by omega)
  · have hmask : mask state.bits = ((1 : BitVec 32) <<< state.bits) - 1 := if_neg (by omega)
    rw [and_iff_right hsome, ← hmask, ne_eq, ← BitVec.toNat_inj, toNat_and_mask (by omega),
      Nat.mod_eq_of_lt hcarried]
    rfl

lemma decodeBase64Url_of_test {value : List UInt16} (hne : value ≠ [])
    (hall : ∀ u ∈ value, isBase64UrlUnit u = true) (hlength : value.length % 4 ≠ 1)
    {bytes : List UInt8} :
    decodeBase64Url value = .ok bytes ↔
      (value.foldl decodeCharacter
          { output := List.replicate (value.length * 6 / 8) 0 }).accumulator.toNat = 0 ∧
        (value.foldl decodeCharacter
          { output := List.replicate (value.length * 6 / 8) 0 }).output = bytes := by
  have htest : base64UrlPattern.test value = true := test_base64UrlPattern.mpr ⟨hne, hall⟩
  have hleft := leftover_iff (decoded_holds hall)
  rw [decodeBase64Url, if_neg]
  · simp only
    split_ifs with hrefused
    · refine iff_of_false (fun heq => by cases heq) ?_
      rintro ⟨hzero, -⟩
      exact hleft.mp hrefused hzero
    · rw [and_iff_right (by_contra fun h => hrefused (hleft.mpr h)), Except.ok.injEq]
  · rintro (hempty | hfails | hone)
    · exact hne (List.length_eq_zero_iff.mp hempty)
    · rw [htest] at hfails
      cases hfails
    · exact hlength hone

/-- **What is decoded has the bits of the characters**, whatever is accepted. -/
theorem decodeBase64Url_iff (value : List UInt16) (bytes : List UInt8) :
    decodeBase64Url value = .ok bytes ↔ value ≠ [] ∧ (∀ u ∈ value, isBase64UrlUnit u = true) ∧
      Packs 8 6 (bytes.map UInt8.toNat) (value.map digitOf) := by
  constructor
  · intro hdecode
    obtain ⟨hne, hall, hlength⟩ : value ≠ [] ∧ (∀ u ∈ value, isBase64UrlUnit u = true) ∧
        value.length % 4 ≠ 1 := by
      rw [decodeBase64Url] at hdecode
      split_ifs at hdecode with hrefused
      rw [not_or, not_or, Bool.not_eq_false, test_base64UrlPattern] at hrefused
      exact ⟨hrefused.2.1.1, hrefused.2.1.2, hrefused.2.2⟩
    obtain ⟨hzero, rfl⟩ := (decodeBase64Url_of_test hne hall hlength).mp hdecode
    have hend := decoded_holds hall
    have hcount := hend.count
    have hroom := hend.room
    have hfew := hend.few
    have hagrees := hend.agrees
    rw [hzero, bits_zero, List.take_of_length_le (by omega)] at hagrees
    refine ⟨hne, hall, ?_, ?_, _, ?_, hagrees.symm⟩
    · intro n hn
      obtain ⟨byte, -, rfl⟩ := List.mem_map.mp hn
      exact byte.toNat_lt
    · intro n hn
      obtain ⟨u, hu, rfl⟩ := List.mem_map.mp hn
      exact digitOf_lt (hall u hu)
    · -- six bits are left only where the length is one more than a multiple of four
      omega
  · rintro ⟨hne, hall, -, -, padding, hpadding, hbits⟩
    have hlength := congrArg List.length hbits
    rw [length_stream, List.length_map, List.length_append, length_stream, List.length_map,
      List.length_replicate] at hlength
    refine (decodeBase64Url_of_test hne hall (by omega)).mpr ?_
    have hend := decoded_holds hall
    have hcount := hend.count
    have hroom := hend.room
    have hfew := hend.few
    have hcarried := hend.carried
    have hagrees := hend.agrees
    rw [List.take_of_length_le (by omega), charactersBits, hbits] at hagrees
    obtain ⟨hbytes, hrest⟩ := List.append_inj hagrees (by
      rw [bytesBits, length_stream, length_stream, List.length_map, List.length_map]
      omega)
    refine ⟨eq_zero_of_bits hcarried ?_, ?_⟩
    · rw [hrest]
      congr 1
      have hsame := congrArg List.length hrest
      rw [length_bits, List.length_replicate] at hsame
      exact hsame.symm
    · refine List.map_injective_iff.mpr (fun a b => UInt8.toNat_inj.mp) ?_
      refine eq_of_stream (by omega) ?_ ?_ hbytes
      all_goals
        intro n hn
        obtain ⟨byte, -, rfl⟩ := List.mem_map.mp hn
        exact byte.toNat_lt

/-! ## Both directions -/

lemma eq_of_map_digitOf {cs ds : List UInt16} (hcs : ∀ u ∈ cs, isBase64UrlUnit u = true)
    (h : cs.map digitOf = ds.map digitOf) : cs = ds := by
  induction cs generalizing ds with
  | nil => exact (List.map_eq_nil_iff.mp h.symm).symm
  | cons u cs ih =>
      cases ds with
      | nil => cases h
      | cons v ds =>
          rw [List.map_cons, List.map_cons, List.cons.injEq] at h
          rw [digitOf_inj (hcs u List.mem_cons_self) h.1,
            ih (fun w hw => hcs w (List.mem_cons_of_mem _ hw)) h.2]

/-- **The codec loses nothing and admits one text for each sequence of bytes.**  Encoded bytes are
decoded to themselves, the text has only letters of the alphabet, and a text that is decoded is the
encoding of what it is decoded to; in either direction the bits of the characters are those of the
bytes, in order, with fewer than six zeros after them. -/
theorem base64Url_codec :
    (∀ bytes : List UInt8, bytes ≠ [] → decodeBase64Url (encodeBase64Url bytes) = .ok bytes) ∧
    (∀ bytes : List UInt8, ∀ u ∈ encodeBase64Url bytes, isBase64UrlUnit u = true) ∧
    (∀ value bytes, decodeBase64Url value = .ok bytes → encodeBase64Url bytes = value) ∧
    (∀ bytes : List UInt8, ∃ padding < 6, charactersBits (encodeBase64Url bytes) =
      bytesBits bytes ++ List.replicate padding false) ∧
    (∀ value bytes, decodeBase64Url value = .ok bytes → ∃ padding < 6, charactersBits value =
      bytesBits bytes ++ List.replicate padding false) := by
  refine ⟨?_, fun bytes => (packs_encodeBase64Url bytes).1, ?_,
    fun bytes => (packs_encodeBase64Url bytes).2.agrees, ?_⟩
  · intro bytes hne
    obtain ⟨hall, hpacks⟩ := packs_encodeBase64Url bytes
    refine (decodeBase64Url_iff _ _).mpr ⟨?_, hall, hpacks⟩
    intro hempty
    obtain ⟨padding, -, hlength⟩ := hpacks.length
    have hpos := List.length_pos_of_ne_nil hne
    rw [hempty, List.map_nil, List.length_nil, List.length_map] at hlength
    omega
  · intro value bytes hdecode
    obtain ⟨-, hall, hpacks⟩ := (decodeBase64Url_iff _ _).mp hdecode
    obtain ⟨hletters, hencoded⟩ := packs_encodeBase64Url bytes
    exact eq_of_map_digitOf hletters (hencoded.unique (by omega) hpacks)
  · intro value bytes hdecode
    exact ((decodeBase64Url_iff _ _).mp hdecode).2.2.agrees

/-- Two bytes leave two bits of zeros. -/
theorem base64Url_codec_twoBytes :
    decodeBase64Url (encodeBase64Url [0xfb, 0xff]) = .ok [0xfb, 0xff] ∧
      encodeBase64Url [0xfb, 0xff] = encode "-_8".toList :=
  ⟨base64Url_codec.1 [0xfb, 0xff] (by decide),
    base64Url_codec.2.2.1 (encode "-_8".toList) [0xfb, 0xff] (by decide +kernel)⟩

end Oppa.Protocol.Package
