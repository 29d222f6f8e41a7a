import Testbench.Fault.Setup

/-! Frames of the host link as words and as bytes. -/

namespace Testbench.Host

/-- The widest frame in bytes. -/
def maxFrameBytes : Nat := 8

/-- The bytes of a frame, which must be a whole number of at least one and at most eight. -/
def frameBytes (bits : UInt32) : Except SetupFault Nat :=
  let width := bits.toNat
  -- A word holds eight bytes, so wider frames would lose some.
  if width = 0 ∨ width % 8 ≠ 0 ∨ maxFrameBytes < width / 8 then .error (.hostWidth bits)
  else .ok (width / 8)

/-- The number spelled by bytes, the least significant first. -/
def littleEndian : List UInt8 → Nat
  | [] => 0
  | byte :: rest => byte.toNat + 256 * littleEndian rest

/-- The word of a frame: its first bytes count, and absent ones are zero. -/
def wordOfBytes (size : Nat) (bytes : List UInt8) : UInt64 :=
  UInt64.ofNat (littleEndian (bytes.take size))

/-- The low bytes of a word, the least significant first. -/
def bytesOfWord (size : Nat) (word : UInt64) : List UInt8 :=
  (List.range size).map fun position => UInt8.ofNat (word.toNat >>> (8 * position))

end Testbench.Host
