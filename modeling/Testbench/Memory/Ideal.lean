import Testbench.Fault.Setup
import Testbench.Bus.Geometry
import Testbench.Memory.Basic
import Testbench.Memory.Cells
import Testbench.Memory.Queue

/-! Memory that answers every request without delay. -/

namespace Testbench.Memory

/-- A write burst whose beats are still arriving. -/
structure WriteBurst where
  /-- The address of the next beat. -/
  address : UInt64
  id : UInt64
  /-- The bytes moved by one beat. -/
  moved : Nat
  /-- The beats that follow the next one. -/
  later : Nat
  deriving DecidableEq, Inhabited

/--
A byte memory with queues of answers.

Reads are expanded into beats as soon as they are accepted, and writes come one burst at a time.
-/
structure Ideal where
  cells : Array UInt8
  /-- The width of the data bus in bytes. -/
  width : Nat
  /-- The read beats still to be taken, the one shown first. -/
  reads : Queue ReadBeat := {}
  /-- The finished bursts still to be acknowledged, the one shown first. -/
  answers : Queue UInt64 := {}
  burst : Option WriteBurst := none
  deriving DecidableEq, Inhabited

/-- The most bytes that can be reserved for one memory. -/
def maxBytes : Nat := 1 <<< 47

/-- A memory of zeros, behind a bus that is at least one byte wide. -/
def Ideal.allocate (bytes : UInt64) (beatBytes : Nat) : Except SetupFault Ideal :=
  if maxBytes < bytes.toNat then
    .error (.allocation bytes (UInt64.ofNat (bytes.toNat / mebibyte)))
  -- A bus without lanes could not carry anything, so the narrowest has one.
  else .ok { cells := Array.replicate bytes.toNat 0, width := max beatBytes 1 }

/-- Reads are always accepted; a new write waits for the burst in flight, and beats need one. -/
def Ideal.ready (memory : Ideal) : Ready where
  read := true
  write := memory.burst.isNone
  beat := memory.burst.isSome

/-- The first answer of each queue is shown until it is taken. -/
def Ideal.presented (memory : Ideal) : Presented where
  ready := memory.ready
  answer :=
    match memory.answers.first? with
    | none => {}
    | some id => { valid := true, code := okayCode, id }
  readBeat :=
    match memory.reads.first? with
    -- The data lanes are there even when nothing valid is on them.
    | none => { data := List.replicate memory.width 0 }
    | some beat => beat

/--
The queue of read beats after a tick: the shown beat may leave, and a read may arrive.

A read sees the contents from before the tick.
-/
def Ideal.readsAfter (offers : Offers) (memory : Ideal) : Queue ReadBeat :=
  -- Only a beat that was already shown can be taken.
  let kept := if offers.takesRead then memory.reads.leave else memory.reads
  if offers.read.valid then kept.join (burstBeats memory.cells memory.width offers.read) else kept

/-- The bytes moved by each beat of a burst, a power of two that the width of the bus allows. -/
def movedBytes (width : Nat) (request : AddressRequest) : Nat :=
  -- The common divisors of a power of two and the width are powers of two themselves.
  Nat.gcd (1 <<< request.size.toNat) width

/-- The burst in flight once a write request is accepted. -/
def WriteBurst.ofRequest (width : Nat) (request : AddressRequest) : WriteBurst where
  address := request.address
  id := request.id
  moved := movedBytes width request
  later := request.lastBeat.toNat

/-- The burst that is left after its next beat, unless that was the last one. -/
def WriteBurst.next? (burst : WriteBurst) : Option WriteBurst :=
  match burst.later with
  | 0 => none
  | later + 1 =>
    -- Addresses go on at zero behind the last one.
    some { burst with address := burst.address + UInt64.ofNat burst.moved, later }

/-- The burst in flight after a tick. -/
def Ideal.burstAfter (offers : Offers) (memory : Ideal) : Option WriteBurst :=
  match memory.burst with
  | none => if offers.write.valid then some (.ofRequest memory.width offers.write) else none
  -- A burst in flight keeps every new write request waiting.
  | some burst => if offers.beat.valid then burst.next? else some burst

/-- The burst to which a beat offered in this cycle belongs, if the beat is accepted. -/
def Ideal.acceptedBeat? (offers : Offers) (memory : Ideal) : Option WriteBurst :=
  if offers.beat.valid then memory.burst else none

/-- The burst that a beat offered in this cycle finishes, if it does. -/
def Ideal.finishedBurst? (offers : Offers) (memory : Ideal) : Option WriteBurst :=
  (memory.acceptedBeat? offers).filter fun burst => burst.later == 0

/-- The queue of acknowledgements after a tick: the shown one may leave, and one may arrive. -/
def Ideal.answersAfter (offers : Offers) (memory : Ideal) : Queue UInt64 :=
  -- Only an acknowledgement that was already shown can be taken.
  let kept := if offers.takesAnswer then memory.answers.leave else memory.answers
  match memory.finishedBurst? offers with
  | none => kept
  | some burst => kept.join [burst.id]

/-- The contents after a tick. -/
def Ideal.cellsAfter (offers : Offers) (memory : Ideal) : Array UInt8 :=
  match memory.acceptedBeat? offers with
  | none => memory.cells
  | some burst =>
    storeBeat memory.cells memory.width burst.moved burst.address.toNat offers.beat

/-- One cycle, in which everything is decided by the state before it. -/
def Ideal.tick (offers : Offers) (memory : Ideal) : Ideal where
  reads := memory.readsAfter offers
  answers := memory.answersAfter offers
  burst := memory.burstAfter offers
  cells := memory.cellsAfter offers
  width := memory.width

/-- A burst is finished by the number of its beats, and a missing flag only earns a remark. -/
def Ideal.remarks (offers : Offers) (memory : Ideal) : List Remark :=
  match memory.finishedBurst? offers with
  | none => []
  | some burst => if offers.beat.last then [] else [.unmarkedLastBeat burst.id]

/-- The number of read beats still to be taken. -/
def Ideal.queuedReads (memory : Ideal) : Nat :=
  memory.reads.size

instance : Memory Ideal where
  presented := Ideal.presented
  tick := Ideal.tick
  remarks := Ideal.remarks
  cells := Ideal.cells
  withCells cells memory := { memory with cells }

end Testbench.Memory
