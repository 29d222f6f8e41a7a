import Testbench.Memory.Basic

/-! The gate between one channel of a design and the memory behind it. -/

namespace Testbench.Channel

/--
The counts kept for one channel.

They are exact numbers, and equal to counters of 64 bits as long as these do not overflow, which
takes `2 ^ 64` events.
-/
structure Tally where
  /-- Read requests accepted. -/
  reads : Nat := 0
  /-- Write requests accepted. -/
  writes : Nat := 0
  /-- Write beats accepted. -/
  beats : Nat := 0
  /-- Offers withdrawn or changed before they were accepted. -/
  violations : Nat := 0
  /-- Requests below the base of the memory. -/
  belowBase : Nat := 0
  deriving DecidableEq, Inhabited

/-- The offers shown in the last cycle that were not accepted. -/
structure Waiting where
  read : Option AddressRequest := none
  write : Option AddressRequest := none
  beat : Option WriteBeat := none
  deriving DecidableEq, Inhabited

/-- The offers that have to wait, given what the memory was ready for. -/
def Waiting.after (ready : Ready) (offers : Offers) : Waiting where
  read := if offers.read.valid && !ready.read then some offers.read else none
  write := if offers.write.valid && !ready.write then some offers.write else none
  beat := if offers.beat.valid && !ready.beat then some offers.beat else none

/-- A waiting offer is broken when anything else, or nothing, is shown in its place. -/
def isBroken {α : Type} [DecidableEq α] (waiting : Option α) (shown : α) : Bool :=
  match waiting with
  | none => false
  -- A waiting offer is valid, so an invalid one in its place differs from it.
  | some offer => offer != shown

/-- The number of waiting offers that are broken. -/
def Waiting.broken (offers : Offers) (waiting : Waiting) : Nat :=
  (isBroken waiting.read offers.read).toNat + (isBroken waiting.write offers.write).toNat +
    (isBroken waiting.beat offers.beat).toNat

/-- A gate relocates addresses and watches the handshakes of its channel. -/
structure Gate where
  channel : Nat
  /-- The address at which memory begins for the design. -/
  base : UInt64
  /-- What the design was told in this cycle that the memory is ready for. -/
  shown : Ready := {}
  waiting : Waiting := {}
  tally : Tally := {}
  deriving DecidableEq, Inhabited

/-- Remembers what the memory shows to the design in this cycle. -/
def Gate.show (presented : Presented) (gate : Gate) : Gate :=
  { gate with shown := presented.ready }

/-- A request with its address counted from the base. -/
def relocate (base : UInt64) (request : AddressRequest) : AddressRequest :=
  -- An address below the base wraps around, and requests that are not valid are moved as well.
  { request with address := request.address - base }

/-- The offers as the memory gets them. -/
def Gate.relocated (gate : Gate) (offers : Offers) : Offers :=
  { offers with
    read := relocate gate.base offers.read
    write := relocate gate.base offers.write }

/-- The valid requests below the base, the read request first. -/
def Gate.requestsBelow (gate : Gate) (offers : Offers) : List AddressRequest :=
  [offers.read, offers.write].filter fun request => request.valid && request.address < gate.base

/-- The counts after the offers of one cycle. -/
def Gate.tallyAfter (gate : Gate) (offers : Offers) : Tally :=
  let tally := gate.tally
  { reads := tally.reads + (offers.read.valid && gate.shown.read).toNat
    writes := tally.writes + (offers.write.valid && gate.shown.write).toNat
    beats := tally.beats + (offers.beat.valid && gate.shown.beat).toNat
    violations := tally.violations + gate.waiting.broken offers
    belowBase := tally.belowBase + (gate.requestsBelow offers).length }

/-- Counts the offers of one cycle and remembers those that have to wait. -/
def Gate.pass (offers : Offers) (gate : Gate) : Gate :=
  { gate with
    -- An offer waits by what the design was told, not by what the memory did.
    waiting := Waiting.after gate.shown offers
    tally := gate.tallyAfter offers }

/-- Broken offers are remarked each time, requests below the base only the first time. -/
def Gate.remarks (offers : Offers) (gate : Gate) : List Remark :=
  let broken := gate.waiting.broken offers
  let changed := if broken = 0 then [] else [Remark.offersChanged gate.channel broken]
  let below :=
    match gate.tally.belowBase, gate.requestsBelow offers with
    | 0, request :: _ => [Remark.belowBase gate.channel request.address gate.base]
    | _, _ => []
  changed ++ below

end Testbench.Channel
