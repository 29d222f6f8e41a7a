/-! The two ends of the host link: the host, and the pins of a design. -/

namespace Testbench

/-- A state `H` of the host that exchanges frames with a design. -/
class Host (H : Type) where
  /--
  The bytes of the next frame, or nothing when none has arrived.

  The first bytes fill the frame of the given size; absent ones are zero.
  -/
  receive : (size : Nat) → H → Option (List UInt8) × H
  send : (bytes : List UInt8) → H → H
  /-- The host has finished. -/
  finished : H → Bool
  /-- The status with which the host reports how it went, zero when it is satisfied. -/
  status : H → Int32
  /-- Asks the host to finish. -/
  stop : H → H

/-- A state `P` with the pins of a host link. -/
class HostPins (P : Type) where
  /-- The host clock has an edge in this cycle. -/
  hostEdge : P → Bool
  /-- The frame driven in is accepted in this cycle. -/
  hostInReady : P → Bool
  driveHostIn : (valid : Bool) → (word : UInt64) → P → P
  /-- The frame shown to the host, if one is. -/
  hostOut : P → Option UInt64
  driveHostReady : (ready : Bool) → P → P
  /-- The width of a frame in bits. -/
  hostWidth : P → UInt32

end Testbench
