import Testbench.Bus.Geometry
import Testbench.Bus.Signals
import Testbench.Host.Basic
import Testbench.Output.Sink

/-! Designs under test: two-phase clocked hardware with memory channels and a host link. -/

namespace Testbench

/--
A state `D` of a hardware design.

A cycle settles the signals that follow from the driven inputs, then commits them to the registers.
-/
class Design (D : Type) extends HostPins D where
  /-- Seeds the initial contents of the registers. -/
  initialise : (seed : UInt32) → D → D
  geometry : D → Geometry
  driveChannel : (channel : Nat) → Presented → D → D
  offers : D → (channel : Nat) → Offers
  /-- Settles the signals, and reports the inconsistency found while doing so, if any. -/
  settle : (reset : Bool) → D → Option EvaluationFault × D
  commit : (reset : Bool) → D → D
  /-- The instruction that retires in this cycle. -/
  instruction : D → UInt32
  /-- Writes the record of a cycle to a trace. -/
  dump : (cycle : UInt64) → D → Sink → Option SystemFault × D × Sink
  /-- Writes the state for a reader, which leaves the design as it is. -/
  print : D → Sink → Option SystemFault × Sink

end Testbench
