import Testbench.Bench.Run
import Testbench.Memory.Allocation
import Testbench.Session.Preload
import Testbench.Session.Surroundings
import Testbench.Session.Verdict

/-! Sessions: from options to a finished run, with everything it leaves behind. -/

namespace Testbench

/-- What a session leaves behind. -/
structure Outcome (D H : Type) where
  verdict : Verdict
  design : D
  host : H
  surroundings : Surroundings
  journal : Journal := {}
  /-- The fault of an explanation that was refused, which breaks a program off. -/
  crash? : Option SystemFault := none

/-- When a stop is requested, and how long a run may take. -/
structure Schedule where
  /-- A stop is requested before the run. -/
  before : Bool := false
  /-- A stop is requested during the given cycle of the run. -/
  during : Nat → Bool := fun _ => false
  /-- A stop is requested while the run is wound down, too late to be a reason to stop. -/
  late : Bool := false
  /-- The cycles after which a run that goes on is given up. -/
  limit : Nat

namespace Session

variable {D H M : Type} [Design D] [Host H] [Memory M]

/-- The total size of the memory that the options ask for. -/
def totalBytes (options : Options) (geometry : Geometry) : Except SetupFault UInt64 :=
  match options.mebibytes with
  | none => .ok geometry.defaultBytes
  | some mebibytes => Memory.bytesOfMebibytes mebibytes

/-- Builds the memories and preloads them, with the remarks made on the way. -/
def buildMemories (options : Options) (factory : Memory.Factory M) (geometry : Geometry)
    (files : Files) : Except SetupFault (List M) × List Remark :=
  match totalBytes options geometry with
  | .error fault => (.error fault, [])
  | .ok total =>
    match Memory.allocate factory options.memory total geometry with
    | .error fault => (.error fault, [])
    | .ok memories =>
      let announced := Memory.allocationRemarks options.memory total geometry
      match options.image with
      | none => (.ok memories, announced)
      | some path =>
        let preloaded := preloadFile files path geometry.lineBytes memories
        (preloaded.result.map fun _ => preloaded.memories, announced ++ preloaded.remarks path)

/-- Puts a seeded design on a bench with its memories, with the remarks made on the way. -/
def assemble (options : Options) (factory : Memory.Factory M) (files : Files) (design : D)
    (host : H) : Except SetupFault (Bench D H M) × List Remark :=
  let (built, remarks) := buildMemories options factory (Design.geometry design) files
  match built with
  | .error fault => (.error fault, remarks)
  | .ok memories => (Bench.assemble options.settings design host memories, remarks)

/-- Brings an assembled bench out of reset and runs it. -/
def runBench (schedule : Schedule) (bench : Bench D H M) : Verdict × Bench D H M :=
  match (bench.requestStopIf schedule.before).reset with
  | (.error fault, failed) => (.refused fault, failed)
  | (.ok _, released) =>
    match released.run? schedule.during schedule.limit schedule.late with
    | none => (.unfinished, released)
    | some (summary, finished) => (.finished summary, finished)

/-- A session once its trace is open. -/
def launchTraced (options : Options) (factory : Memory.Factory M) (schedule : Schedule)
    (sinks : Sinks) (files : Files) (design : D) (host : H) : Outcome D H :=
  let seeded := Design.initialise options.seed design
  let (assembled, remarks) := assemble options factory files seeded host
  let journal := (({} : Journal).call (.initialise options.seed)).remarkAll remarks
  match assembled with
  | .error fault =>
    -- A session that is refused still leaves the head of its trace behind.
    { verdict := .refused fault, design := seeded, host, journal
      surroundings := .closing options.trace sinks files }
  | .ok bench =>
    let recorder := options.trace.map fun _ => { start := options.traceStart }
    let (verdict, ended) := runBench schedule { bench with recorder, sinks, journal }
    { verdict, design := ended.design, host := ended.host, journal := ended.journal
      surroundings := .closing options.trace ended.sinks files }

/--
A whole session, which its first failure ends.

The trace is opened, memories are built and preloaded, and the design is reset and run.
-/
def launch (options : Options) (factory : Memory.Factory M) (schedule : Schedule)
    (around : Surroundings) (design : D) (host : H) : Outcome D H :=
  match around.openTrace options.trace with
  | (some fault, sinks, files) =>
    { verdict := .refused fault, design, host
      surroundings := { files, output := sinks.notices, diagnostics := sinks.diagnostics } }
  | (none, sinks, files) => launchTraced options factory schedule sinks files design host

end Session

end Testbench
