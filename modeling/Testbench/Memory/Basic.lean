import Testbench.Bus.Signals
import Testbench.Output.Remark

/-! What a memory behind a channel has to offer. -/

namespace Testbench

/-- A state `M` of a memory that is advanced once per cycle. -/
class Memory (M : Type) where
  /-- What the memory shows to the design in this cycle. -/
  presented : M → Presented
  /-- Takes the design's offers, with addresses counted from the start of the memory. -/
  tick : Offers → M → M
  /-- The remarks that a tick makes. -/
  remarks : Offers → M → List Remark := fun _ _ => []
  cells : M → Array UInt8
  /-- Replaces the contents, as preloading does. -/
  withCells : Array UInt8 → M → M

end Testbench
