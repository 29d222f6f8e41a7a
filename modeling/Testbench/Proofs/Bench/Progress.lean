import Testbench.Proofs.Bench.Cycles
import Testbench.Proofs.Bench.Frame

/-! What a run keeps count of follows from the faults and instructions of its cycles alone. -/

namespace Testbench

/-- What a run keeps count of, apart from the design and everything around it. -/
structure Progress where
  detector : Marker.Detector := {}
  counter : Counter := {}
  budget : UInt64
  restarts : Nat := 0
  benchmarks : List UInt64 := []
  fault : Option EvaluationFault := none

namespace Progress

/-- A fault makes the current cycle the last one. -/
def fail (fault : EvaluationFault) (progress : Progress) : Progress :=
  { progress with budget := progress.counter.cycles, fault := some fault }

/-- A completed start marker restarts the counter. -/
def takeStart (progress : Progress) : Progress :=
  let started := progress.detector.started
  { progress with
    detector := { progress.detector with started := false }
    counter := if started then progress.counter.restart else progress.counter
    restarts := progress.restarts + started.toNat }

/-- A completed stop marker reports the counter. -/
def takeStop (progress : Progress) : Progress :=
  { progress with
    detector := { progress.detector with stopped := false }
    benchmarks := progress.benchmarks ++
      if progress.detector.stopped then [progress.counter.cycles] else [] }

/-- An instruction may complete a marker, and a restart comes before a report. -/
def watch (instruction : UInt32) (progress : Progress) : Progress :=
  takeStop (takeStart { progress with detector := progress.detector.observe instruction })

/-- One more cycle was committed. -/
def advance (progress : Progress) : Progress :=
  { progress with counter := progress.counter.advance }

end Progress

namespace Bench

/-- What the run on a bench has kept count of. -/
def progress {D H M : Type} (bench : Bench D H M) : Progress where
  detector := bench.detector
  counter := bench.counter
  budget := bench.budget
  restarts := bench.restarts
  benchmarks := bench.benchmarks
  fault := bench.evaluationFault

section Markers

variable {D H M : Type}

/-- A request to stop counts nothing. -/
theorem progress_requestStopIf (requested : Bool) (bench : Bench D H M) :
    (bench.requestStopIf requested).progress = bench.progress := by
  -- The link is no part of what is counted.
  rw [requestStopIf_eq]
  rfl

/-- A fault while settling is counted as the end of the run. -/
theorem progress_recordFault (fault : EvaluationFault) (bench : Bench D H M) :
    (bench.recordFault fault).progress = bench.progress.fail fault := by
  obtain ⟨diagnostics, remarks, same⟩ := bench.recordFault_eq fault
  -- The fault and the budget are set on the bench as they are in its progress.
  rw [same]
  rfl

/-- Acting on a start marker is counted as such. -/
theorem progress_handleStart (bench : Bench D H M) :
    bench.handleStart.progress = bench.progress.takeStart := by
  unfold handleStart Progress.takeStart Marker.Detector.takeStarted
  cases started : bench.detector.started with
  | false => simp [progress, started]
  | true =>
    -- The notice about it goes to the sinks, which are not counted.
    obtain ⟨notices, remarks, same⟩ :=
      restartCounter_eq { bench with detector := { bench.detector with started := false } }
    simp only [if_true, same]
    simp [progress, started]

/-- Acting on a stop marker is counted as such. -/
theorem progress_handleStop (bench : Bench D H M) :
    bench.handleStop.progress = bench.progress.takeStop := by
  unfold handleStop Progress.takeStop Marker.Detector.takeStopped
  cases stopped : bench.detector.stopped with
  | false => simp [progress, stopped]
  | true =>
    -- The notice about it goes to the sinks, which are not counted.
    obtain ⟨notices, remarks, same⟩ :=
      reportCounter_eq { bench with detector := { bench.detector with stopped := false } }
    simp only [if_true, same]
    simp [progress, stopped]

end Markers

section Cycle

variable {D H M : Type} [Design D]

/-- Watching for markers counts the instruction that retires. -/
theorem progress_observeMarkers (bench : Bench D H M) :
    bench.observeMarkers.progress = bench.progress.watch (Design.instruction bench.design) := by
  -- The start is counted on what was observed, and the stop on top of it.
  rw [observeMarkers, progress_handleStop, progress_handleStart]
  rfl

/-- Prints are not counted. -/
theorem progress_printDesign (bench : Bench D H M) :
    bench.printDesign.progress = bench.progress := by
  obtain ⟨diagnostics, journal, same⟩ := bench.printDesign_eq
  -- A print changes sinks and journal, which are not part of the progress.
  rw [same]
  rfl

/-- Records of the trace are not counted. -/
theorem progress_recordTrace (bench : Bench D H M) :
    bench.recordTrace.progress = bench.progress := by
  obtain ⟨design, sinks, recorder, journal, same⟩ := bench.recordTrace_eq
  -- Nothing that a record may change is part of the progress.
  rw [same]
  rfl

end Cycle

section Settled

variable {D H M : Type} [Design D] [Memory M]

/-- The bench of a cycle whose design has settled, with the inconsistency found, if any. -/
def settledIn (requested : Bool) (bench : Bench D H M) : Option EvaluationFault × Bench D H M :=
  (bench.requestStopIf requested).driveChannels.settle

/-- The inconsistency that the design finds in a cycle, if any. -/
def faultIn (bench : Bench D H M) : Option EvaluationFault :=
  (bench.settledIn false).1

/-- A request to stop does not matter to what the design finds in the same cycle. -/
theorem settledIn_fst (requested : Bool) (bench : Bench D H M) :
    (bench.settledIn requested).1 = bench.faultIn := by
  -- The request is put on the link, and the design does not see the link.
  cases requested <;> rfl

/-- Settling is not counted. -/
theorem progress_settledIn (requested : Bool) (bench : Bench D H M) :
    (bench.settledIn requested).2.progress = bench.progress := by
  cases requested <;> rfl

end Settled

variable {D H M : Type} [Design D] [Host H] [Memory M]

/-- The bench of a cycle just before it is committed. -/
def beforeCommit (requested : Bool) (bench : Bench D H M) : Bench D H M :=
  (bench.settledIn requested).2.observe bench.faultIn

/-- The instruction that is watched for markers in a cycle, unless the design fails to settle. -/
def watched? (requested : Bool) (bench : Bench D H M) : Option UInt32 :=
  match bench.faultIn with
  | some _ => none
  -- Frames are exchanged before the design is asked which instruction retires.
  | none => some (Design.instruction (bench.settledIn requested).2.passOffers.exchange.design)

/-- A cycle ends with a commit. -/
theorem step_eq_commit (requested : Bool) (bench : Bench D H M) :
    bench.step requested = (bench.beforeCommit requested).commit := by
  -- What comes before the commit is decided by the same answer of the design.
  rw [beforeCommit, ← settledIn_fst requested bench]
  rfl

/-- A commit counts the cycle. -/
theorem progress_step (requested : Bool) (bench : Bench D H M) :
    (bench.step requested).progress = (bench.beforeCommit requested).progress.advance := by
  -- Only the commit itself advances the counter.
  rw [step_eq_commit]
  rfl

/-- In a cycle whose design fails to settle, the fault is counted before the commit. -/
theorem progress_beforeCommit_of_fault {requested : Bool} {bench : Bench D H M}
    {fault : EvaluationFault} (found : bench.faultIn = some fault) :
    (bench.beforeCommit requested).progress = bench.progress.fail fault := by
  simp only [beforeCommit, found, observe]
  -- After the fault, the design is still printed and traced, which counts nothing.
  rw [progress_recordTrace, progress_printDesign, progress_recordFault, progress_settledIn]

/-- In every other cycle, the watched instruction is counted before the commit. -/
theorem progress_beforeCommit_of_watched {requested : Bool} {bench : Bench D H M}
    {instruction : UInt32} (watched : bench.watched? requested = some instruction) :
    (bench.beforeCommit requested).progress = bench.progress.watch instruction := by
  cases found : bench.faultIn with
  | some fault => simp [watched?, found] at watched
  | none =>
    simp only [watched?, found, Option.some.injEq] at watched
    simp only [beforeCommit, found, observe]
    rw [progress_recordTrace, progress_observeMarkers, progress_printDesign, ← watched]
    -- Serving the channels and the host counts nothing, and printing leaves the design as it is.
    obtain ⟨diagnostics, journal, same⟩ :=
      (bench.settledIn requested).2.passOffers.exchange.printDesign_eq
    rw [same]
    exact congrArg _ (progress_settledIn requested bench)

/-- An instruction is watched in exactly the cycles whose design settles. -/
theorem watched?_eq_none_iff {requested : Bool} {bench : Bench D H M} :
    bench.watched? requested = none ↔ bench.faultIn.isSome = true := by
  -- The answer of the design is what both sides read.
  cases found : bench.faultIn <;> simp [watched?, found]

end Bench

end Testbench
