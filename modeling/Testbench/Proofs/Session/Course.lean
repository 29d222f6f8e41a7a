import Testbench.Proofs.Bench.Calls
import Testbench.Session.Launch

/-! The courses that a session can take, from its options to what it leaves behind. -/

namespace Testbench

/-- A bench is assembled around the design and the host that it is given. -/
theorem Bench.ends_of_assemble {D H M : Type} [Design D] {settings : Settings} {design : D}
    {host : H} {memories : List M} {bench : Bench D H M}
    (assembled : assemble settings design host memories = .ok bench) :
    bench.design = design ∧ bench.host = host := by
  -- Assembling puts them into the bench as they are.
  obtain ⟨-, size, rfl⟩ := eq_of_assemble assembled
  exact ⟨rfl, rfl⟩

/-- Opening a trace leaves standard error alone. -/
theorem Surroundings.diagnostics_openTrace (target : Option TraceTarget) (around : Surroundings) :
    (around.openTrace target).2.1.diagnostics = around.diagnostics := by
  -- A trace goes to standard output or into a file, if there is one at all.
  unfold openTrace
  split
  · rfl
  · rfl
  · split <;> rfl

namespace Session

/-- An assembled bench as it is reset and run, with the remarks made while assembling it. -/
def prepared {D H M : Type} (options : Options) (schedule : Schedule) (sinks : Sinks)
    (remarks : List Remark) (bench : Bench D H M) : Bench D H M :=
  let recorder := options.trace.map fun _ => { start := options.traceStart }
  let journal := (({} : Journal).call (.initialise options.seed)).remarkAll remarks
  let traced := { bench with recorder, sinks, journal }
  traced.requestStopIf schedule.before

section Readiness

variable {D H M : Type} [Design D] [Memory M]
variable (options : Options) (factory : Memory.Factory M) (schedule : Schedule)
variable (around : Surroundings) (design : D) (host : H)

/-- A session gets as far as to a bench to be reset: its trace is open, and the bench assembled. -/
inductive Readies : Files → Bench D H M → Prop where
  | assembled {sinks : Sinks} {files : Files} {remarks : List Remark} {bench : Bench D H M}
    (opened : around.openTrace options.trace = (none, sinks, files))
    (assembled : assemble options factory files (Design.initialise options.seed design) host =
      (.ok bench, remarks)) :
    Readies files (prepared options schedule sinks remarks bench)

variable {options factory schedule around design host}

/-- A session assembles its bench with some memories, and by its own settings. -/
theorem exists_memories {files : Files} {bench : Bench D H M} {remarks : List Remark}
    (assembled : assemble options factory files design host = (.ok bench, remarks)) :
    ∃ memories, Bench.assemble options.settings design host memories = .ok bench := by
  -- The memories come first, and without them no bench is assembled.
  unfold assemble at assembled
  rcases built : buildMemories options factory (Design.geometry design) files
    with ⟨fault | memories, made⟩
  · rw [built] at assembled
    cases assembled
  · rw [built] at assembled
    exact ⟨memories, congrArg Prod.fst assembled⟩

/-- On a bench to be reset, the design was seeded, which is the only call so far. -/
theorem Readies.seeded [Host H] {files : Files} {ready : Bench D H M}
    (readies : Readies options factory schedule around design host files ready) :
    ready.journal.callsInOrder = [.initialise options.seed] ∧
      (∃ channels, ready.Wired channels) ∧
      ready.parties = { ready.parties with
        design := Design.initialise options.seed design, host } := by
  obtain ⟨-, assembled⟩ := readies
  obtain ⟨memories, matched⟩ := exists_memories assembled
  obtain ⟨seeded, same⟩ := Bench.ends_of_assemble matched
  have wired := Bench.wired_of_assemble matched
  rw [← same, ← seeded]
  -- A stop that is requested before is only noted on the link.
  unfold prepared
  cases schedule.before <;> exact ⟨rfl, ⟨_, wired⟩, rfl⟩

/-- A bench to be reset has the diagnostics of the session, on which nothing was written yet. -/
theorem Readies.diagnostics [Host H] {files : Files} {ready : Bench D H M}
    (readies : Readies options factory schedule around design host files ready) :
    ready.sinks.diagnostics = around.diagnostics := by
  obtain ⟨opened, assembled⟩ := readies
  -- The sinks are those of the trace, which goes elsewhere.
  have opens := around.diagnostics_openTrace options.trace
  rw [opened] at opens
  rw [prepared, Bench.requestStopIf_eq]
  exact opens

end Readiness

section Courses

variable {D H M : Type} [Design D] [Host H] [Memory M]
variable (options : Options) (factory : Memory.Factory M) (schedule : Schedule)
variable (around : Surroundings) (design : D) (host : H)

/-- The courses that a session can take, each with what it leaves behind. -/
inductive Course : Outcome D H → Prop where
  | unopened {fault : SetupFault} {sinks : Sinks} {files : Files}
    (opened : around.openTrace options.trace = (some fault, sinks, files)) :
    Course
      { verdict := .refused fault, design, host
        surroundings := { files, output := sinks.notices, diagnostics := sinks.diagnostics } }
  | unassembled {fault : SetupFault} {sinks : Sinks} {files : Files} {remarks : List Remark}
    (opened : around.openTrace options.trace = (none, sinks, files))
    (assembled : assemble options factory files (Design.initialise options.seed design) host =
      (.error fault, remarks)) :
    Course
      { verdict := .refused fault, design := Design.initialise options.seed design, host
        journal := (({} : Journal).call (.initialise options.seed)).remarkAll remarks
        surroundings := .closing options.trace sinks files }
  | unreset {fault : SetupFault} {files : Files} {ready failed : Bench D H M}
    (readies : Readies options factory schedule around design host files ready)
    (reset : ready.reset = (.error fault, failed)) :
    Course
      { verdict := .refused fault, design := failed.design, host := failed.host
        journal := failed.journal, surroundings := .closing options.trace failed.sinks files }
  | unfinished {files : Files} {ready start : Bench D H M} {clocked : Nat}
    (readies : Readies options factory schedule around design host files ready)
    (reset : ready.reset = (.ok clocked, start))
    (runs : start.run? schedule.during schedule.limit schedule.late = none) :
    Course
      { verdict := .unfinished, design := start.design, host := start.host
        journal := start.journal, surroundings := .closing options.trace start.sinks files }
  | finished {files : Files} {ready start final : Bench D H M} {clocked : Nat} {summary : Summary}
    (readies : Readies options factory schedule around design host files ready)
    (reset : ready.reset = (.ok clocked, start))
    (ran : start.run? schedule.during schedule.limit schedule.late = some (summary, final)) :
    Course
      { verdict := .finished summary, design := final.design, host := final.host
        journal := final.journal, surroundings := .closing options.trace final.sinks files }

variable {options factory schedule around design host}

/-- A course tells what its session leaves behind. -/
theorem Course.launch_eq {outcome : Outcome D H}
    (course : Course options factory schedule around design host outcome) :
    launch options factory schedule around design host = outcome := by
  -- Each way of ending has the answers of the stages before it, which select its branch.
  cases course with
  | unopened opened => rw [launch, opened]
  | unassembled opened assembled =>
    rw [launch, opened]
    simp only [launchTraced, assembled]
  | unreset readies reset =>
    obtain ⟨opened, assembled⟩ := readies
    unfold prepared at reset
    rw [launch, opened]
    simp only [launchTraced, assembled, runBench, reset]
  | unfinished readies reset runs =>
    obtain ⟨opened, assembled⟩ := readies
    unfold prepared at reset
    rw [launch, opened]
    simp only [launchTraced, assembled, runBench, reset, runs]
  | finished readies reset ran =>
    obtain ⟨opened, assembled⟩ := readies
    unfold prepared at reset
    rw [launch, opened]
    simp only [launchTraced, assembled, runBench, reset, ran]

variable (options factory schedule around design host)

/-- A session takes one of its courses. -/
theorem course_launch :
    Course options factory schedule around design host
      (launch options factory schedule around design host) := by
  -- The stages are gone through in order, and the first one to fail ends the course.
  have takes : ∃ outcome, Course options factory schedule around design host outcome := by
    rcases opened : around.openTrace options.trace with ⟨_ | fault, sinks, files⟩
    · rcases assembled :
          assemble options factory files (Design.initialise options.seed design) host
        with ⟨fault | bench, remarks⟩
      · exact ⟨_, .unassembled opened assembled⟩
      · have readies : Readies options factory schedule around design host files
            (prepared options schedule sinks remarks bench) := .assembled opened assembled
        rcases reset : (prepared options schedule sinks remarks bench).reset
          with ⟨fault | clocked, start⟩
        · exact ⟨_, .unreset readies reset⟩
        · rcases ran : start.run? schedule.during schedule.limit schedule.late
            with _ | ⟨summary, final⟩
          · exact ⟨_, .unfinished readies reset ran⟩
          · exact ⟨_, .finished readies reset ran⟩
    · exact ⟨_, .unopened opened⟩
  obtain ⟨outcome, course⟩ := takes
  rw [course.launch_eq]
  exact course

end Courses

end Session

end Testbench
