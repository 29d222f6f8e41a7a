import Testbench.Bench.Reset
import Testbench.Bench.Step

/-! Whole runs: cycles until there is a reason to stop, and the summary of them. -/

namespace Testbench.Bench

variable {D H M : Type} [Design D] [Host H] [Memory M]

/-- Asks the host whether it has finished, forwarding a requested stop first. -/
def hostFinished (bench : Bench D H M) : Bool × Bench D H M :=
  let (finished, connection) := bench.connection.finished
  (finished, bench.withConnection connection)

/-- There is no reason to stop: no fault, cycles left, and a host that has not finished. -/
def mayContinue (bench : Bench D H M) : Bool × Bench D H M :=
  if bench.evaluationFault.isNone && bench.counter.cycles < bench.budget then
    let (finished, asked) := bench.hostFinished
    (!finished, asked)
  else
    -- The host is not even asked, so a requested stop waits for the end of the run.
    (false, bench)

/--
Runs cycles until there is a reason to stop, or fails to find one within the cycles left.

A stop is requested during cycle `n` of the run when `requests n` holds.
-/
def cyclesUntilStop (requests : Nat → Bool) (done : Nat) :
    (left : Nat) → Bench D H M → Option (Bench D H M)
  | 0, bench =>
    match bench.mayContinue with
    | (true, _) => none
    | (false, stopped) => some stopped
  | left + 1, bench =>
    match bench.mayContinue with
    | (true, going) => (going.step (requests done)).cyclesUntilStop requests (done + 1) left
    | (false, stopped) => some stopped

/-- Ends the trace, and pushes it out. -/
def closeTrace (bench : Bench D H M) : Bench D H M :=
  match bench.recorder with
  | none => bench
  | some _ =>
    let (cause, flushed) := bench.sinks.traceSink.flush
    { bench with
      recorder := none
      sinks := bench.sinks.withTrace flushed }.remarkFault .traceUnflushed cause

/-- Pushes the notices out. -/
def flushNotices (bench : Bench D H M) : Bench D H M :=
  let (cause, notices) := bench.sinks.notices.flush
  { bench with sinks := { bench.sinks with notices } }.remarkFault .noticesUnflushed cause

/-- Why the run ended: the host's own status comes first, then a fault, then completion. -/
def findEnding (bench : Bench D H M) : Ending × Bench D H M :=
  let status := Host.status bench.host
  let asked := bench.call (.status status)
  if status ≠ 0 then (.hostFailed status, asked)
  else if bench.evaluationFault.isSome then (.evaluationFailed, asked)
  else
    -- A stop that was requested in the last cycle is forwarded here.
    match asked.hostFinished with
    | (true, told) => (.completed, told)
    | (false, told) => (.timedOut, told)

/-- The summary of a run that ended in the given way. -/
def summary (ending : Ending) (traceRecords : Nat) (bench : Bench D H M) : Summary where
  ending := ending
  cycles := bench.counter.cycles
  seed := bench.settings.seed
  benchmarks := bench.benchmarks
  restarts := bench.restarts
  evaluationFault := bench.evaluationFault
  channels := bench.channels.map fun channel => channel.gate.tally
  host := bench.link.tally
  traceRecords := traceRecords

/-- The records in the trace, none when there is no trace or it ended with a fault. -/
def traceRecords (bench : Bench D H M) : Nat :=
  (bench.recorder.map Trace.Recorder.written).getD 0

/-- Winds a stopped run down and sums it up. -/
def finish (bench : Bench D H M) : Summary × Bench D H M :=
  let (ending, ended) := bench.closeTrace.flushNotices.findEnding
  let summary := ended.summary ending bench.traceRecords
  (summary, ended.remark (.runFinished ending summary.cycles))

/--
A whole run, unless it takes more than the given number of cycles.

A stop that comes too late for the last question whether to go on is requested when `late` holds.
-/
def run? (requests : Nat → Bool) (limit : Nat) (bench : Bench D H M) (late : Bool := false) :
    Option (Summary × Bench D H M) :=
  -- Such a request is looked at once, when the reason is found, so its exact moment is immaterial.
  (bench.cyclesUntilStop requests 0 limit).map fun stopped => (stopped.requestStopIf late).finish

end Testbench.Bench
