import Testbench.Bench.Summary
import Testbench.Session.Options

/-! How a session went, and how it says so. -/

namespace Testbench

/-- How a session went. -/
inductive Verdict where
  /-- The arguments could not be used. -/
  | misused (fault : OptionFault)
  /-- The run never started. -/
  | refused (fault : SetupFault)
  | finished (summary : Summary)
  /-- The run was still going after the cycles that it was given. -/
  | unfinished
  deriving DecidableEq, Inhabited

/-- The exit status that a session asks for, unless it was given up. -/
def Verdict.exitStatus? : Verdict → Option Int32
  | .misused _ => some setupStatus
  | .refused fault => some fault.exitStatus
  | .finished summary => some summary.exitStatus
  | .unfinished => none

/-- The explanation of a session without a run. -/
def Verdict.explanation? : Verdict → Option String
  | .misused fault => some fault.message
  | .refused fault => some fault.message
  | _ => none

/-- Writes the explanation of a session without a run, with the fault when that is refused. -/
def Sink.explain (message : String) (sink : Sink) : Option SystemFault × List Remark × Sink :=
  let (cause, written) := sink.writeLine message
  (cause, [], written)

/--
Writes the last line of a session.

When the line of a run is refused, that is only remarked.
The fault of a refused explanation is handed back.
-/
def Verdict.report (asked : Bool) (sink : Sink) :
    Verdict → Option SystemFault × List Remark × Sink
  | .misused fault => sink.explain fault.message
  | .refused fault => sink.explain fault.message
  | .finished summary => (none, summary.report asked sink)
  | .unfinished => (none, [], sink)

end Testbench
