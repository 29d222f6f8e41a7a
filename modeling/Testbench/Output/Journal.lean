import Testbench.Bus.Signals
import Testbench.Output.Remark

/-! The journal of a run: what was asked of each collaborator, and what was worth a remark. -/

namespace Testbench

/-- One thing asked of the design, of a memory or of the host, with the answer where it has one. -/
inductive Call where
  | initialise (seed : UInt32)
  /-- What a memory presents is driven into the design. -/
  | driveChannel (channel : Nat) (presented : Presented)
  | settle (reset : Bool) (fault : Option EvaluationFault)
  | commit (reset : Bool)
  | tick (channel : Nat) (offers : Offers)
  /-- The host is asked for a frame, and answers with its bytes or with nothing. -/
  | receive (size : Nat) (answer : Option (List UInt8))
  | driveHostIn (valid : Bool) (word : UInt64)
  | send (bytes : List UInt8)
  | driveHostReady (ready : Bool)
  | print (fault : Option SystemFault)
  | dump (cycle : UInt64) (fault : Option SystemFault)
  /-- The host is told to finish. -/
  | stop
  /-- The host is asked whether it has finished. -/
  | finished (answer : Bool)
  /-- The host is asked for its status. -/
  | status (answer : Int32)
  deriving DecidableEq, Inhabited

/-- The calls and remarks so far, each with the latest first. -/
structure Journal where
  calls : List Call := []
  remarks : List Remark := []
  deriving DecidableEq, Inhabited

/-- Notes one more call. -/
def Journal.call (call : Call) (journal : Journal) : Journal :=
  { journal with calls := call :: journal.calls }

/-- Notes calls in the order in which they were made. -/
def Journal.callAll (calls : List Call) (journal : Journal) : Journal :=
  -- The latest call comes first, so the new ones go in front the other way round.
  { journal with calls := calls.reverse ++ journal.calls }

/-- Notes one more remark. -/
def Journal.remark (remark : Remark) (journal : Journal) : Journal :=
  { journal with remarks := remark :: journal.remarks }

/-- Notes remarks in the order in which they were made. -/
def Journal.remarkAll (remarks : List Remark) (journal : Journal) : Journal :=
  -- The latest remark comes first, so the new ones go in front the other way round.
  { journal with remarks := remarks.reverse ++ journal.remarks }

/-- The calls in the order in which they were made. -/
def Journal.callsInOrder (journal : Journal) : List Call :=
  journal.calls.reverse

/-- The remarks in the order in which they were made. -/
def Journal.remarksInOrder (journal : Journal) : List Remark :=
  journal.remarks.reverse

/-- Notes of several calls extend the calls in their order. -/
theorem Journal.callsInOrder_callAll (calls : List Call) (journal : Journal) :
    (journal.callAll calls).callsInOrder = journal.callsInOrder ++ calls := by
  -- Both reversals of the new calls cancel.
  simp [callAll, callsInOrder]

/-- A note of one call extends the calls by it. -/
theorem Journal.callsInOrder_call (call : Call) (journal : Journal) :
    (journal.call call).callsInOrder = journal.callsInOrder ++ [call] := by
  -- The calls are kept the latest first, so the new one ends up behind the others.
  simp [Journal.call, callsInOrder]

end Testbench
