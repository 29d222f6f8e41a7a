import Testbench.Design.Basic
import Testbench.Output.Journal

/-! Recording a design's state, one record per cycle. -/

namespace Testbench.Trace

/-- The characters of the field that shows the instruction being written back. -/
def instructionChars : Nat := 24

/-- The lines that declare the signals of a trace. -/
def headerLines : List String :=
  ["$scope module Testbench $end",
    s!"$var reg {instructionChars * 8} NDISASM_WB wb_instruction $end",
    "$var reg 64 NCYCLE cycle $end",
    "$upscope $end"]

/-- Cycle zero is always recorded, so that the initial state is there even in a late trace. -/
def records (start cycle : UInt64) : Bool :=
  -- The zeroth cycle also comes back whenever the counter restarts.
  cycle == 0 || start ≤ cycle

/-- Writes lines up to the first that fails. -/
def writeLines : List String → Sink → Option SystemFault × Sink
  | [], sink => (none, sink)
  | line :: rest, sink =>
    match sink.writeLine line with
    -- What was written before the fault stays written.
    | (some fault, failed) => (some fault, failed)
    | (none, written) => writeLines rest written

/-- Writes the head of a trace. -/
def writeHeader (sink : Sink) : Option SystemFault × Sink :=
  writeLines headerLines sink

/--
A recorder and the number of records it has written.

The number is exact, and equal to a counter of 64 bits below `2 ^ 64` records.
-/
structure Recorder where
  /-- The first cycle behind zero that is recorded. -/
  start : UInt64
  written : Nat := 0
  deriving DecidableEq, Inhabited

/-- What is left after a cycle was offered to a recorder. -/
structure Recorded (D : Type) where
  /-- The cycle was one of those to record. -/
  attempted : Bool
  /-- The fault that kept the record from being written. -/
  fault : Option SystemFault
  recorder : Recorder
  design : D
  sink : Sink

variable {D : Type} [Design D]

/-- Lets a design dump a cycle that is to be recorded, and counts the dump unless it fails. -/
def Recorder.record (cycle : UInt64) (recorder : Recorder) (design : D) (sink : Sink) :
    Recorded D :=
  if records recorder.start cycle then
    let (fault, design, sink) := Design.dump cycle design sink
    let recorder :=
      if fault.isNone then { recorder with written := recorder.written + 1 } else recorder
    { attempted := true, fault, recorder, design, sink }
  else { attempted := false, fault := none, recorder, design, sink }

/-- The recorder that goes on after a cycle: none does after a fault. -/
def Recorded.recorder? (recorded : Recorded D) : Option Recorder :=
  if recorded.fault.isNone then some recorded.recorder else none

/-- The calls made for a cycle. -/
def Recorded.calls (cycle : UInt64) (recorded : Recorded D) : List Call :=
  if recorded.attempted then [.dump cycle recorded.fault] else []

end Testbench.Trace
