import Testbench.Bus.Signals

/-! Bus words in a memory whose addresses wrap around at its capacity. -/

namespace Testbench.Memory

/-- The first address of the bus word that holds an address. -/
def wordStart (width address : Nat) : Nat :=
  address - address % width

/-- The cell behind a lane of the bus word that starts at an address. -/
def cellOf (capacity start lane : Nat) : Nat :=
  -- A word may start near the last cell and go on at the first one.
  (start % capacity + lane) % capacity

/-- The bus word that starts at an address; a memory without cells reads as zero. -/
def readWord (cells : Array UInt8) (width start : Nat) : List UInt8 :=
  (List.range width).map fun lane => cells.getD (cellOf cells.size start lane) 0

/-- The number of addresses, after which they wrap around to zero. -/
def addressCount : Nat := UInt64.size

/-- The beats that answer a read request, each a whole bus word with the last one flagged. -/
def burstBeats (cells : Array UInt8) (width : Nat) (request : AddressRequest) : List ReadBeat :=
  (List.range request.beats).map fun beat =>
    -- Beats always move whole words, and pass from the last address to the first.
    let start := (wordStart width request.address.toNat + beat * width) % addressCount
    { valid := true
      code := okayCode
      id := request.id
      data := readWord cells width start
      last := beat == request.lastBeat.toNat }

/-- The number of lanes, after which their numbers wrap around to zero. -/
def laneCount : Nat := UInt32.size

/-- The lane of the bus on which the byte at an address is moved. -/
def laneOf (width address : Nat) : Nat :=
  -- Only a bus of more lanes than there are numbers for them has two lanes of one number.
  address % width % laneCount

/-- A lane is stored when its strobe bit is set and it is one of those that the beat moves. -/
def storesLane (width moved address : Nat) (strobe : UInt64) (lane : Nat) : Bool :=
  -- A narrow beat only moves the lanes from its address on, whatever the strobe says.
  let first := laneOf width address
  strobe.toNat.testBit lane && first ≤ lane && lane < first + moved

/--
Stores the lanes of a beat at an address, lane zero first.

A beat is never wider than the bus, and a memory without cells stores nothing.
-/
def storeBeat (cells : Array UInt8) (width moved address : Nat) (beat : WriteBeat) : Array UInt8 :=
  (beat.data.take width).zipIdx.foldl
    (fun cells (byte, lane) =>
      if storesLane width moved address beat.strobe lane then
        cells.setIfInBounds (cellOf cells.size (wordStart width address) lane) byte
      else cells)
    cells

end Testbench.Memory
