/-! The shape of a design's memory system, and what may stand behind its channels. -/

namespace Testbench

/-- How many channels a design has and what lies behind them. -/
structure Geometry where
  channels : Nat
  /-- The address at which memory begins in the design's address map. -/
  base : UInt64
  /-- The total memory in bytes when no size is asked for. -/
  defaultBytes : UInt64
  /-- The width of the data bus in bytes. -/
  beatBytes : Nat
  /-- The bytes of one channel that follow one another before the next channel takes over. -/
  lineBytes : Nat
  deriving DecidableEq, Inhabited

/-- The bytes in one mebibyte, the unit in which memory is asked for. -/
def mebibyte : Nat := 1 <<< 20

/-- What stands behind a memory channel. -/
inductive MemoryKind where
  /-- Memory that answers every request without delay. -/
  | ideal
  /-- Memory with realistic delays. -/
  | timed
  deriving DecidableEq, Inhabited

/-- The name under which a kind of memory is announced. -/
def MemoryKind.label : MemoryKind → String
  | .ideal => "Magic"
  | .timed => "Timing"

end Testbench
