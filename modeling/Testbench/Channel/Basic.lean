import Testbench.Channel.Gate
import Testbench.Output.Journal

/-! A memory channel: a gate with the memory behind it. -/

namespace Testbench

/-- One channel of the memory system. -/
structure Channel (M : Type) where
  gate : Channel.Gate
  memory : M
  deriving DecidableEq, Inhabited

namespace Channel

variable {M : Type} [Memory M]

/-- A fresh channel in front of a memory. -/
def ofMemory (base : UInt64) (index : Nat) (memory : M) : Channel M :=
  { gate := { channel := index, base }, memory }

/-- What the design gets to see in this cycle. -/
def presented (channel : Channel M) : Presented :=
  Memory.presented channel.memory

/-- The channel once its memory was shown to the design. -/
def afterShow (channel : Channel M) : Channel M :=
  { channel with gate := channel.gate.show channel.presented }

/-- The channel once the design's offers were passed to its memory. -/
def afterOffers (offers : Offers) (channel : Channel M) : Channel M :=
  { gate := channel.gate.pass offers
    memory := Memory.tick (channel.gate.relocated offers) channel.memory }

/-- The call by which the memory's side is driven into the design. -/
def showCall (channel : Channel M) : Call :=
  .driveChannel channel.gate.channel channel.presented

/-- The call by which the memory gets the design's offers. -/
def tickCall (offers : Offers) (channel : Channel M) : Call :=
  .tick channel.gate.channel (channel.gate.relocated offers)

/-- The remarks of the gate, then those of the memory. -/
def remarks (offers : Offers) (channel : Channel M) : List Remark :=
  channel.gate.remarks offers ++
    Memory.remarks (channel.gate.relocated offers) channel.memory

end Channel

end Testbench
