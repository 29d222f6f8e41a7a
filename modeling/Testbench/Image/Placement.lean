/-! Where the bytes of a memory image go when channels take turns. -/

namespace Testbench.Image

/-- A place in the memories: a store, and an offset in it. -/
structure Slot where
  store : Nat
  offset : Nat
  deriving DecidableEq, Inhabited

/-- The bytes in one turn of a channel, of which there is at least one. -/
def turnBytes (lineBytes : Nat) : Nat :=
  max lineBytes 1

/-- The slot of an image address: the stores take turns of equal length. -/
def slotOf (turn stores address : Nat) : Slot where
  -- Every turn goes to the next store, and comes back to the first behind the last.
  store := (address / turn) % stores
  offset := (address / turn / stores) * turn + address % turn

/-- The contents of the memories behind all channels. -/
abbrev Stores : Type := Array (Array UInt8)

/-- The slot of an image address is there when its store reaches as far. -/
def hasSlot (turn address : Nat) (stores : Stores) : Bool :=
  let slot := slotOf turn stores.size address
  slot.offset < (stores.getD slot.store #[]).size

/-- Stores one byte of the image in its slot. -/
def placeByte (turn address : Nat) (byte : UInt8) (stores : Stores) : Stores :=
  let slot := slotOf turn stores.size address
  stores.modify slot.store (·.setIfInBounds slot.offset byte)

end Testbench.Image
