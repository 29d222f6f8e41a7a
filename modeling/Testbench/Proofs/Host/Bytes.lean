import Testbench.Host.Frame
import Mathlib.Data.Nat.Digits.Defs

/-! Frames as words and as bytes: what is read from either is what was written as the other. -/

namespace Testbench.Host

/-- The first bytes, as many as a frame has, are those of the word, and its other bytes are zero. -/
def Spells (size : Nat) (bytes : List UInt8) (word : UInt64) : Prop :=
  ∀ position < maxFrameBytes,
    word.toNat / 256 ^ position % 256 = ((bytes.take size).getD position 0).toNat

/-- A frame has a whole number of bytes, at least one and at most as many as a word has. -/
theorem bits_of_frameBytes {bits : UInt32} {size : Nat} (sized : frameBytes bits = .ok size) :
    bits.toNat = 8 * size ∧ 1 ≤ size ∧ size ≤ maxFrameBytes := by
  unfold frameBytes at sized
  simp only at sized
  split at sized
  · cases sized
  · -- Accepted: a multiple of eight, not zero, and not above the width of a word.
    rename_i whole
    cases sized
    unfold maxFrameBytes at whole ⊢
    omega

section Numbers

/-- Bytes spell a number to the base of 256. -/
theorem littleEndian_eq_ofDigits (bytes : List UInt8) :
    littleEndian bytes = Nat.ofDigits 256 (bytes.map UInt8.toNat) := by
  -- Both sides put the head in the lowest place and go on with the tail.
  induction bytes with
  | nil => rfl
  | cons byte bytes ih => rw [littleEndian, List.map_cons, Nat.ofDigits_cons, ih]

/-- The value of a byte is a digit. -/
theorem toNat_lt_of_mem (bytes : List UInt8) : ∀ value ∈ bytes.map UInt8.toNat, value < 256 :=
  List.forall_mem_map.mpr fun byte _ => byte.toNat_lt

/-- Zeros at the end add nothing to what is spelled. -/
theorem littleEndian_append_zeros (bytes : List UInt8) (count : Nat) :
    littleEndian (bytes ++ List.replicate count 0) = littleEndian bytes := by
  simp only [littleEndian_eq_ofDigits, List.map_append, List.map_replicate]
  -- A zero in a place above all others adds nothing, to any base.
  exact Nat.ofDigits_append_replicate_zero _

/-- What some bytes spell takes no more bytes than these. -/
theorem littleEndian_lt (bytes : List UInt8) : littleEndian bytes < 256 ^ bytes.length := by
  -- The bound is that of numbers with as many digits to the base of 256.
  have bounded := Nat.ofDigits_lt_base_pow_length (by decide) (toNat_lt_of_mem bytes)
  rwa [← littleEndian_eq_ofDigits, List.length_map] at bounded

/-- The first byte is the lowest place of what is spelled. -/
theorem littleEndian_mod (bytes : List UInt8) :
    littleEndian bytes % 256 = (bytes.headD 0).toNat := by
  cases bytes with
  | nil => rfl
  | cons byte bytes =>
    -- All other places are multiples of 256.
    rw [littleEndian, Nat.add_mul_mod_self_left, Nat.mod_eq_of_lt byte.toNat_lt]
    rfl

/-- Every byte is found at its place in what is spelled, and behind the last there are zeros. -/
theorem littleEndian_digit (bytes : List UInt8) (position : Nat) :
    littleEndian bytes / 256 ^ position % 256 = (bytes.getD position 0).toNat := by
  -- The places from a position on are spelled by the bytes from there on.
  have shifted : littleEndian bytes / 256 ^ position = littleEndian (bytes.drop position) := by
    rw [littleEndian_eq_ofDigits, littleEndian_eq_ofDigits, List.map_drop]
    exact Nat.ofDigits_div_pow_eq_ofDigits_drop position (by decide) _ (toNat_lt_of_mem bytes)
  rw [shifted, littleEndian_mod, List.headD_eq_head?_getD, List.head?_drop,
    List.getD_eq_getElem?_getD]

/-- As many bytes that spell the same are the same. -/
theorem eq_of_littleEndian_eq {bytes others : List UInt8} (lengths : bytes.length = others.length)
    (same : littleEndian bytes = littleEndian others) : bytes = others := by
  rw [littleEndian_eq_ofDigits, littleEndian_eq_ofDigits] at same
  -- Lists of digits of one length are determined by what they spell.
  have values := Nat.ofDigits_inj_of_len_eq (by decide) (by simpa using lengths)
    (toNat_lt_of_mem bytes) (toNat_lt_of_mem others) same
  exact (List.map_inj_right fun _ _ => UInt8.toNat_inj.mp).mp values

end Numbers

section Words

/-- A word is written as the bytes asked for. -/
@[simp] theorem length_bytesOfWord (size : Nat) (word : UInt64) :
    (bytesOfWord size word).length = size := by
  -- One byte is taken for each place below the size.
  rw [bytesOfWord, List.length_map, List.length_range]

/-- The bytes written for a word spell what is left of it in as many bytes. -/
theorem littleEndian_bytesOfWord (size : Nat) (word : UInt64) :
    littleEndian (bytesOfWord size word) = word.toNat % 256 ^ size := by
  -- One byte more is the next place of the word.
  induction size with
  | zero => rw [pow_zero, Nat.mod_one]; rfl
  | succ size ih =>
    have more : bytesOfWord (size + 1) word =
        bytesOfWord size word ++ [UInt8.ofNat (word.toNat >>> (8 * size))] := by
      rw [bytesOfWord, List.range_succ, List.map_append]
      rfl
    have place : (UInt8.ofNat (word.toNat >>> (8 * size))).toNat =
        word.toNat / 256 ^ size % 256 := by
      rw [UInt8.toNat_ofNat', Nat.shiftRight_eq_div_pow, pow_mul]
      rfl
    rw [more, littleEndian_eq_ofDigits, List.map_append, Nat.ofDigits_append,
      ← littleEndian_eq_ofDigits, ih, List.map_singleton, Nat.ofDigits_singleton, place,
      List.length_map, length_bytesOfWord, pow_succ, Nat.mod_mul]

variable {size : Nat}

/-- A word holds what the first bytes of a frame spell. -/
theorem toNat_wordOfBytes (fits : size ≤ maxFrameBytes) (bytes : List UInt8) :
    (wordOfBytes size bytes).toNat = littleEndian (bytes.take size) := by
  -- Eight bytes at most are spelled, so nothing is cut off at 64 bits.
  have bounded : littleEndian (bytes.take size) < 2 ^ 64 := calc
    littleEndian (bytes.take size) < 256 ^ (bytes.take size).length := littleEndian_lt _
    _ ≤ 256 ^ maxFrameBytes :=
      Nat.pow_le_pow_right (by decide) ((List.length_take_le size bytes).trans fits)
    _ = 2 ^ 64 := by decide
  rw [wordOfBytes, UInt64.toNat_ofNat', Nat.mod_eq_of_lt bounded]

/-- The first bytes of a frame spell its word. -/
theorem spells_wordOfBytes (fits : size ≤ maxFrameBytes) (bytes : List UInt8) :
    Spells size bytes (wordOfBytes size bytes) := by
  intro position _
  -- The byte at a position is the digit of the spelled number in that place.
  rw [toNat_wordOfBytes fits, littleEndian_digit]

/-- The bytes written for the word of a frame are its first ones, with zeros for absent ones. -/
theorem bytesOfWord_wordOfBytes (fits : size ≤ maxFrameBytes) (bytes : List UInt8) :
    bytesOfWord size (wordOfBytes size bytes) =
      bytes.take size ++ List.replicate (size - bytes.length) 0 := by
  have lengths : (bytes.take size ++ List.replicate (size - bytes.length) 0).length = size := by
    rw [List.length_append, List.length_take, List.length_replicate]
    omega
  apply eq_of_littleEndian_eq
  · rw [length_bytesOfWord, lengths]
  · -- Both spell what the first bytes do, since that takes no more bytes than a frame has.
    have small := littleEndian_lt (bytes.take size ++ List.replicate (size - bytes.length) 0)
    rw [lengths, littleEndian_append_zeros] at small
    rw [littleEndian_bytesOfWord, toNat_wordOfBytes fits, littleEndian_append_zeros,
      Nat.mod_eq_of_lt small]

/-- The word of a frame that was written for another word is what was left of that one. -/
theorem toNat_wordOfBytes_bytesOfWord (fits : size ≤ maxFrameBytes) (word : UInt64) :
    (wordOfBytes size (bytesOfWord size word)).toNat = word.toNat % 256 ^ size := by
  -- The frame has exactly the size that is read, so none of its bytes is cut off.
  have whole : (bytesOfWord size word).take size = bytesOfWord size word :=
    List.take_of_length_le (length_bytesOfWord size word).le
  rw [toNat_wordOfBytes fits, whole, littleEndian_bytesOfWord]

end Words

end Testbench.Host
