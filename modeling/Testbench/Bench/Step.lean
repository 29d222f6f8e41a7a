import Testbench.Bench.Basic

/-! One cycle of a run, in the order in which hardware and collaborators take their turns. -/

namespace Testbench.Bench

variable {D H M : Type} [Design D] [Host H] [Memory M]

/-- Shows what the memories present to the design, channel by channel. -/
def driveChannels (bench : Bench D H M) : Bench D H M :=
  { bench with
    design := bench.channels.foldl
      (fun design channel =>
        Design.driveChannel channel.gate.channel channel.presented design)
      bench.design
    -- Each gate remembers what the design was told.
    channels := bench.channels.map Channel.afterShow
    journal := bench.journal.callAll (bench.channels.map Channel.showCall) }

/-- Settles the design, and hands back the inconsistency it found, if any. -/
def settle (bench : Bench D H M) : Option EvaluationFault × Bench D H M :=
  let (fault, design) := Design.settle false bench.design
  (fault, { bench with design }.call (.settle false fault))

/-- The channels with what the design shows on each of them. -/
def offered (bench : Bench D H M) : List (Channel M × Offers) :=
  bench.channels.map fun channel =>
    (channel, Design.offers bench.design channel.gate.channel)

/-- Passes what the design shows on each channel to the memory behind it. -/
def passOffers (bench : Bench D H M) : Bench D H M :=
  let calls := bench.offered.map fun (channel, offers) => channel.tickCall offers
  let remarks := bench.offered.flatMap fun (channel, offers) => channel.remarks offers
  { bench with
    -- No channel sees the offers or the memory of another.
    channels := bench.offered.map fun (channel, offers) => channel.afterOffers offers
    journal := (bench.journal.callAll calls).remarkAll remarks }

/-- Lets the link exchange frames. -/
def exchange (bench : Bench D H M) : Bench D H M :=
  bench.withConnection bench.connection.exchange

/-- Notes that the design failed to settle, and ends the run at the current cycle. -/
def recordFault (fault : EvaluationFault) (bench : Bench D H M) : Bench D H M :=
  let cycle := bench.counter.cycles
  let (cause, diagnostics) := bench.sinks.diagnostics.writeLine fault.message
  let told := (bench.remark (.evaluationFailed cycle fault)).remarkFault .evaluationUnreported cause
  { told with
    sinks := { bench.sinks with diagnostics }
    -- The counter has reached the budget, so no cycle follows this one.
    budget := cycle
    evaluationFault := some fault }

/-- Prints the design when the run is verbose and the cycle is late enough. -/
def printDesign (bench : Bench D H M) : Bench D H M :=
  if bench.settings.verbose && bench.settings.traceStart ≤ bench.counter.cycles then
    let (cause, diagnostics) := Design.print bench.design bench.sinks.diagnostics
    let printed := (bench.call (.print cause)).remarkFault .printFailed cause
    { printed with sinks := { bench.sinks with diagnostics } }
  else bench

/-- Writes a line about a benchmark. -/
def notice (line : String) (bench : Bench D H M) : Bench D H M :=
  let (cause, notices) := bench.sinks.notices.writeLine line
  { bench.remarkFault .noticeFailed cause with sinks := { bench.sinks with notices } }

/-- A start marker sets the counter back to zero. -/
def restartCounter (bench : Bench D H M) : Bench D H M :=
  let noticed :=
    (bench.remark (.startMarker bench.counter.cycles)).notice "Emulator: resetting cycle count"
  { noticed with counter := bench.counter.restart, restarts := bench.restarts + 1 }

/-- A stop marker reports the counter. -/
def reportCounter (bench : Bench D H M) : Bench D H M :=
  let cycles := bench.counter.cycles
  let noticed :=
    (bench.remark (.stopMarker cycles)).notice s!"Emulator: Cycle count is {cycles.toNat}"
  { noticed with benchmarks := bench.benchmarks ++ [cycles] }

/-- Acts on a start marker, if one was completed. -/
def handleStart (bench : Bench D H M) : Bench D H M :=
  let (started, detector) := bench.detector.takeStarted
  if started then { bench with detector }.restartCounter else { bench with detector }

/-- Acts on a stop marker, if one was completed. -/
def handleStop (bench : Bench D H M) : Bench D H M :=
  let (stopped, detector) := bench.detector.takeStopped
  if stopped then { bench with detector }.reportCounter else { bench with detector }

/-- Watches the retiring instruction for markers. -/
def observeMarkers (bench : Bench D H M) : Bench D H M :=
  let detector := bench.detector.observe (Design.instruction bench.design)
  { bench with detector }.handleStart.handleStop

/-- Records the cycle in the trace, which ends for good when that fails. -/
def recordTrace (bench : Bench D H M) : Bench D H M :=
  match bench.recorder with
  | none => bench
  | some recorder =>
    let cycle := bench.counter.cycles
    let recorded := recorder.record cycle bench.design bench.sinks.traceSink
    { bench with
      design := recorded.design
      sinks := bench.sinks.withTrace recorded.sink
      recorder := recorded.recorder?
      journal := bench.journal.callAll (recorded.calls cycle) }.remarkFault .traceFailed
        recorded.fault

/-- Commits the design, which ends the cycle. -/
def commit (bench : Bench D H M) : Bench D H M :=
  { bench with
    design := Design.commit false bench.design
    counter := bench.counter.advance }.call (.commit false)

/--
What happens between settling and committing.

A design that found itself inconsistent is neither served nor watched, but printed and traced.
-/
def observe (fault : Option EvaluationFault) (bench : Bench D H M) : Bench D H M :=
  match fault with
  | none => bench.passOffers.exchange.printDesign.observeMarkers.recordTrace
  | some found => (bench.recordFault found).printDesign.recordTrace

/-- One cycle, in the course of which a stop may be requested. -/
def step (stopRequested : Bool) (bench : Bench D H M) : Bench D H M :=
  -- A request is only looked at between cycles, so its moment within the cycle is immaterial.
  let (fault, settled) := (bench.requestStopIf stopRequested).driveChannels.settle
  (settled.observe fault).commit

end Testbench.Bench
