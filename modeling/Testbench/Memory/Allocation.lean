import Testbench.Memory.Ideal

/-! The memories behind the channels of a design. -/

namespace Testbench.Memory

/-- Builds the memory of a channel: of a kind, with a number of bytes, for a geometry. -/
abbrev Factory (M : Type) : Type :=
  (channel : Nat) → MemoryKind → (bytes : UInt64) → Geometry → Except SetupFault M

/-- A factory that knows ideal memory only. -/
def idealFactory : Factory Ideal := fun _ kind bytes geometry =>
  match kind with
  | .ideal => Ideal.allocate bytes geometry.beatBytes
  | .timed => .error .noTimedMemory

/-- The failure for the whole memory when a part of it fails: a lack of room names the total. -/
def totalFault (total : UInt64) : SetupFault → SetupFault
  | .allocation .. => .allocation total (UInt64.ofNat (total.toNat / mebibyte))
  | fault => fault

/-- The bytes behind each channel when a total is divided evenly. -/
def bytesPerChannel (total : UInt64) (geometry : Geometry) : UInt64 :=
  UInt64.ofNat (total.toNat / geometry.channels)

/-- Builds the memories of channels that follow one another, up to the first that fails. -/
def buildAll {M : Type} (build : (channel : Nat) → Except SetupFault M) (channel : Nat) :
    (count : Nat) → Except SetupFault (List M)
  | 0 => .ok []
  | count + 1 =>
    match build channel with
    -- Nothing is built behind a failing channel.
    | .error fault => .error fault
    | .ok memory => (buildAll build (channel + 1) count).map (memory :: ·)

/-- Builds one memory per channel, or fails as the first failing channel does. -/
def allocate {M : Type} (factory : Factory M) (kind : MemoryKind) (total : UInt64)
    (geometry : Geometry) : Except SetupFault (List M) :=
  let share := bytesPerChannel total geometry
  let build := fun channel => factory channel kind share geometry
  -- Without channels nothing is built, so nothing fails.
  (buildAll build 0 geometry.channels).mapError (totalFault total)

/-- The remark made about memories that were built, unless the design has no channel. -/
def allocationRemarks (kind : MemoryKind) (total : UInt64) (geometry : Geometry) : List Remark :=
  if geometry.channels = 0 then []
  else [.allocated geometry.channels kind (bytesPerChannel total geometry)]

/-- A number of mebibytes in bytes, which must fit into a word. -/
def bytesOfMebibytes (mebibytes : UInt64) : Except SetupFault UInt64 :=
  let bytes := mebibytes.toNat * mebibyte
  if bytes < UInt64.size then .ok (UInt64.ofNat bytes)
  else .error (.allocation (UInt64.ofNat (UInt64.size - 1)) mebibytes)

end Testbench.Memory
