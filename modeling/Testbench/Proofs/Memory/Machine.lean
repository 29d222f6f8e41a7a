import Mathlib.Algebra.GroupWithZero.Nat
import Mathlib.Data.Nat.MaxPowDiv
import Testbench.Memory.Ideal

/-! Ideal memory as a machine computes it, where an operation may stop the tick with a trap. -/

namespace Testbench.Memory

/-- What stops a machine in the middle of a computation. -/
inductive Trap where
  | outOfBounds
  | divisionByZero
  | wideShift
  | overflow
  deriving DecidableEq

/-- The bits of a machine word. -/
def wordBits : Nat := 64

section Operations

/-- A number that has to stay below a limit. -/
def bounded (limit number : Nat) : Except Trap Nat :=
  if number < limit then .ok number else .error .overflow

/-- One less than a number, which none is below zero. -/
def decreased : (number : Nat) → Except Trap Nat
  | 0 => .error .overflow
  | number + 1 => .ok number

/-- A quotient, for which the divisor must not be zero. -/
def quotient (number divisor : Nat) : Except Trap Nat :=
  if divisor = 0 then .error .divisionByZero else .ok (number / divisor)

/-- A remainder, for which the divisor must not be zero. -/
def remainder (number divisor : Nat) : Except Trap Nat :=
  if divisor = 0 then .error .divisionByZero else .ok (number % divisor)

/-- A single bit, shifted up by less than the width of a machine word. -/
def singleBit (place : Nat) : Except Trap Nat :=
  if place < wordBits then .ok (1 <<< place) else .error .wideShift

/-- The contents of a cell, which must exist. -/
def loadCell (cells : Array UInt8) (cell : Nat) : Except Trap UInt8 :=
  if within : cell < cells.size then .ok cells[cell] else .error .outOfBounds

/-- Stores a byte in a cell, which must exist. -/
def storeCell (cells : Array UInt8) (cell : Nat) (byte : UInt8) : Except Trap (Array UInt8) :=
  if within : cell < cells.size then .ok (cells.set cell byte) else .error .outOfBounds

end Operations

section Words

/-- The first address of the bus word that holds an address. -/
def computedStart (width address : Nat) : Except Trap Nat := do
  let words ← quotient address width
  bounded addressCount (words * width)

/-- The cell of an address, if there are cells at all. -/
def computedBase (capacity address : Nat) : Except Trap Nat :=
  if capacity = 0 then .ok 0 else remainder address capacity

/-- The cell behind a lane of the bus word that starts in a cell. -/
def computedCell (capacity base lane : Nat) : Except Trap Nat := do
  let place ← bounded addressCount (base + lane)
  remainder place capacity

/-- The bus word that starts at an address. -/
def computedWord (cells : Array UInt8) (width start : Nat) : Except Trap (List UInt8) :=
  if cells.size = 0 then .ok (List.replicate width 0)
  else do
    let base ← computedBase cells.size start
    (List.range width).mapM fun lane => do
      let cell ← computedCell cells.size base lane
      loadCell cells cell

/-- A strobe for the lowest lanes. -/
def computedMask (moved : Nat) : Except Trap Nat :=
  -- No bit can be shifted up by all bits of a word, so the full mask is made without a shift.
  if wordBits ≤ moved then .ok (2 ^ wordBits - 1)
  else do
    let bit ← singleBit moved
    decreased bit

/-- A strobe that is shifted up by some lanes, possibly by so many that none is left. -/
def shiftedMask (mask lanes : Nat) : Nat :=
  if lanes < wordBits then (mask <<< lanes) % 2 ^ wordBits else 0

/-- Stores the lanes whose turn it is when the lowest bit of the strobe is set. -/
def computedStores (capacity base : Nat) :
    (lanes : List (UInt8 × Nat)) → (strobe : Nat) → Array UInt8 → Except Trap (Array UInt8)
  | [], _, cells => .ok cells
  | (byte, lane) :: lanes, strobe, cells => do
    let stored ←
      if strobe % 2 = 1 then do
        let cell ← computedCell capacity base lane
        storeCell cells cell byte
      else .ok cells
    computedStores capacity base lanes (strobe >>> 1) stored

/-- Stores a beat at an address. -/
def computedBeat (cells : Array UInt8) (width moved address : Nat) (beat : WriteBeat) :
    Except Trap (Array UInt8) :=
  if cells.size = 0 then .ok cells
  else do
    let mask ← computedMask moved
    let lane ← remainder address width
    -- The number of lanes to shift by is cut down to half a word.
    let strobe := beat.strobe.toNat &&& shiftedMask mask (lane % laneCount)
    let start ← computedStart width address
    let base ← computedBase cells.size start
    computedStores cells.size base (beat.data.take width).zipIdx strobe cells

end Words

/-- A write burst with a counter of the beats left, which is never zero in a burst in flight. -/
structure CountedBurst where
  address : UInt64
  id : UInt64
  moved : Nat
  left : Nat
  deriving DecidableEq

/-- The counter starts where one more beat is left than those that follow the next one. -/
def CountedBurst.of (burst : WriteBurst) : CountedBurst where
  address := burst.address
  id := burst.id
  moved := burst.moved
  left := burst.later + 1

/-- What a machine keeps of an ideal memory. -/
structure Machine where
  cells : Array UInt8
  width : Nat
  reads : List ReadBeat := []
  answers : List UInt64 := []
  burst : Option CountedBurst := none
  deriving DecidableEq

namespace Machine

/-- The zeros below the lowest bit of a number that is set. -/
def trailingZeros (number : Nat) : Nat :=
  if number = 0 then wordBits else padicValNat 2 number

/-- Queues all beats of a read. -/
def acceptRead (request : AddressRequest) (machine : Machine) : Except Trap Machine := do
  let start ← computedStart machine.width request.address.toNat
  let beats ← (List.range request.beats).mapM fun beat => do
    -- Addresses go on at zero behind the last one.
    let address := (start + beat * machine.width) % addressCount
    let data ← computedWord machine.cells machine.width address
    .ok
      { valid := true
        code := okayCode
        id := request.id
        data
        last := beat == request.lastBeat.toNat }
  .ok { machine with reads := machine.reads ++ beats }

/-- Starts a write burst. -/
def acceptWrite (request : AddressRequest) (machine : Machine) : Except Trap Machine := do
  let moved ← singleBit (min request.size.toNat (trailingZeros machine.width))
  let left ← bounded laneCount (request.lastBeat.toNat + 1)
  .ok { machine with burst := some { address := request.address, id := request.id, moved, left } }

/-- Stores a beat of the burst in flight, which ends when no beat is left. -/
def acceptBeat (beat : WriteBeat) (burst : CountedBurst) (machine : Machine) :
    Except Trap Machine := do
  let cells ← computedBeat machine.cells machine.width burst.moved burst.address.toNat beat
  let address := burst.address + UInt64.ofNat burst.moved
  let left ← decreased burst.left
  if left = 0 then
    .ok { machine with cells, answers := machine.answers ++ [burst.id], burst := none }
  else .ok { machine with cells, burst := some { burst with address, left } }

/-- Acts on a read that is offered, which always passes. -/
def serveRead (offers : Offers) (machine : Machine) : Except Trap Machine :=
  if offers.read.valid then machine.acceptRead offers.read else .ok machine

/-- Acts on a write that is offered, for which the burst in flight decides what passes. -/
def serveWrite (offers : Offers) (machine : Machine) : Except Trap Machine :=
  match machine.burst with
  | none => if offers.write.valid then machine.acceptWrite offers.write else .ok machine
  | some burst => if offers.beat.valid then machine.acceptBeat offers.beat burst else .ok machine

/-- Lets the first answers leave that are taken. -/
def release (takesRead takesAnswer : Bool) (machine : Machine) : Machine :=
  { machine with
    reads := if takesRead then machine.reads.tail else machine.reads
    answers := if takesAnswer then machine.answers.tail else machine.answers }

/-- One cycle, in which only those answers can leave that were shown at its start. -/
def tick (offers : Offers) (machine : Machine) : Except Trap Machine := do
  let takesRead := offers.takesRead && !machine.reads.isEmpty
  let takesAnswer := offers.takesAnswer && !machine.answers.isEmpty
  let read ← machine.serveRead offers
  let written ← read.serveWrite offers
  .ok (written.release takesRead takesAnswer)

/-- Some cycles one after another, up to the first trap. -/
def run (trace : List Offers) (machine : Machine) : Except Trap Machine :=
  trace.foldlM (fun machine offers => machine.tick offers) machine

/-- What a machine keeps of an ideal memory in some state. -/
def of (memory : Ideal) : Machine where
  cells := memory.cells
  width := memory.width
  reads := memory.reads.toList
  answers := memory.answers.toList
  burst := memory.burst.map .of

/-- A bus without lanes has no words to divide an address into. -/
example : Machine.tick { read := { valid := true } } { cells := #[1], width := 0 } =
    .error .divisionByZero := rfl

/-- Nothing can be counted down for a burst of which no beat is left. -/
example :
    Machine.tick { beat := { valid := true } }
      { cells := #[], width := 1, burst := some { address := 0, id := 0, moved := 1, left := 0 } } =
    .error .overflow := rfl

end Machine

end Testbench.Memory
