import Testbench.Bench.Ending
import Testbench.Channel.Gate
import Testbench.Host.Link
import Testbench.Output.Sink

/-! The account given of a finished run. -/

namespace Testbench

/-- How a run ended and what happened in it. -/
structure Summary where
  ending : Ending
  /-- The cycle counter, which counts from the last start marker. -/
  cycles : UInt64
  seed : UInt32
  /-- The counter at each stop marker, in order. -/
  benchmarks : List UInt64 := []
  /-- The start markers seen, exactly. -/
  restarts : Nat := 0
  evaluationFault : Option EvaluationFault := none
  channels : List Channel.Tally := []
  host : Host.Tally := {}
  /-- The records in the trace, exactly, and none when there is no trace at the end. -/
  traceRecords : Nat := 0
  deriving DecidableEq, Inhabited

/-- The exit status of a finished run. -/
def Summary.exitStatus (summary : Summary) : Int32 :=
  summary.ending.exitStatus

/-- The line from which a failed run can be reproduced. -/
def Summary.failureLine? (summary : Summary) : Option String :=
  if summary.ending.isFailure then
    some ("*** FAILED *** (" ++ summary.ending.text ++
      s!", seed {summary.seed.toNat}) after {summary.cycles.toNat} cycles")
  else none

/-- The line that tells how long a run took. -/
def Summary.completionLine (summary : Summary) : String :=
  s!"Completed after {summary.cycles.toNat} cycles"

/-- The last line of a run: failures always have one, completed runs when they are asked to. -/
def Summary.statusLine? (asked : Bool) (summary : Summary) : Option String :=
  match summary.failureLine? with
  | some line => some line
  -- Only a completed run has no failure line.
  | none => if asked then some summary.completionLine else none

/-- Writes the last line of a run, and remarks when that fails. -/
def Summary.report (asked : Bool) (summary : Summary) (sink : Sink) : List Remark × Sink :=
  match summary.statusLine? asked with
  | none => ([], sink)
  | some line =>
    match sink.writeLine line with
    | (none, written) => ([], written)
    | (some cause, failed) => ([.statusUnwritten cause], failed)

end Testbench
