import Testbench.Proofs.Bench.Ending
import Testbench.Proofs.Bench.Resetting
import Testbench.Proofs.Session.Course
import Testbench.Session.Program

/-! A session that is refused has run no cycle, and its exit status tells why. -/

namespace Testbench

/-- An output stream takes a line when it does not answer it with a fault. -/
def Sink.takesLine (line : String) (sink : Sink) : Bool :=
  (sink.writeLine line).1.isNone

/-- No refusal is reported as a success. -/
theorem SetupFault.exitStatus_ne (fault : SetupFault) : fault.exitStatus ≠ successStatus := by
  -- The status is that of an inconsistent design, or that of a bad setup.
  unfold exitStatus
  split <;> decide

namespace Outcome

variable {D H : Type}

/-- Standard error takes the explanation of a session without a run. -/
def explains (outcome : Outcome D H) : Bool :=
  outcome.verdict.explanation?.all fun line => outcome.surroundings.diagnostics.takesLine line

/-- A program has the status that its session asks for, if it can give the explanation first. -/
theorem exitStatus_conclude (asked : Bool) (outcome : Outcome D H) :
    (outcome.conclude asked).exitStatus? =
      if outcome.explains then outcome.verdict.exitStatus? else none := by
  -- Of a run, the last line may be refused as well, but no status hangs on it.
  obtain ⟨verdict, design, host, surroundings, journal, crash?⟩ := outcome
  have explained : ∀ (line : String) (status? : Option Int32),
      (surroundings.diagnostics.explain line).1.elim status? (fun _ => none) =
        if surroundings.diagnostics.takesLine line then status? else none := by
    intro line status?
    unfold Sink.explain Sink.takesLine
    rcases surroundings.diagnostics.writeLine line with ⟨_ | _, _⟩ <;> rfl
  cases verdict with
  | misused fault => exact explained fault.message (some setupStatus)
  | refused fault => exact explained fault.message (some fault.exitStatus)
  | finished summary => rfl
  | unfinished => rfl

/-- A session that is a success has nothing to explain. -/
theorem explains_of_success {outcome : Outcome D H}
    (success : outcome.verdict.exitStatus? = some successStatus) : outcome.explains = true := by
  -- Whatever has to be explained has a status of its own.
  unfold explains
  cases verdict : outcome.verdict with
  | misused fault =>
    rw [verdict] at success
    exact absurd (Option.some.inj success) (by decide)
  | refused fault =>
    rw [verdict] at success
    exact absurd (Option.some.inj success) fault.exitStatus_ne
  | finished summary => rfl
  | unfinished => rfl

end Outcome

end Testbench

namespace Testbench.Session

section Refusal

variable {D H M : Type} [Design D] [Memory M]
variable {options : Options} {factory : Memory.Factory M} {schedule : Schedule}
variable {around : Surroundings} {design : D} {host : H} {outcome : Outcome D H}

/-- A bench is assembled alike whichever instructions the design reports. -/
theorem assemble_reporting (instruction : D → UInt32) (options : Options)
    (factory : Memory.Factory M) (files : Files) (design : D) (host : H) :
    @assemble D H M (.reporting instruction) _ options factory files
        (@Design.initialise D (.reporting instruction) options.seed design) host =
      assemble options factory files (Design.initialise options.seed design) host :=
  -- The instruction is no part of what a bench is assembled from.
  rfl

variable [Host H]

/-- A session that was refused has done no more than to seed and to reset its design. -/
structure Refused (M : Type) [Memory M] (seed : UInt32) (design : D) (host : H)
    (fault : SetupFault) (outcome : Outcome D H) : Prop where
  /-- The calls noted are all that has happened, and they have changed no memory. -/
  performed : ∃ memories : List M,
    Performed outcome.journal.callsInOrder ⟨design, host, memories⟩
      ⟨outcome.design, outcome.host, memories⟩
  host : outcome.host = host
  calls : ∀ call ∈ outcome.journal.callsInOrder, call = .initialise seed ∨ call.inReset = true
  /-- The design was clocked only if it was the reset that failed. -/
  clocks : outcome.journal.callsInOrder.any Call.clocks = true → fault.ofReset = true

/-- A course that ends with a refusal has done no more than to seed and to reset the design. -/
theorem Course.refused {fault : SetupFault}
    (course : Course options factory schedule around design host outcome)
    (verdict : outcome.verdict = .refused fault) :
    Refused M options.seed design host fault outcome := by
  cases course with
  | unopened opened => exact ⟨⟨[], .none _⟩, rfl, nofun, nofun⟩
  | unassembled opened assembled =>
    -- The remarks made while assembling are no calls.
    refine ⟨⟨[], .single rfl⟩, rfl, ?_, nofun⟩
    intro call made
    exact Or.inl (List.mem_singleton.mp made)
  | @unreset found files ready failed readies reset =>
    -- The calls are the seeding and those of the reset, which changes the design alone.
    obtain ⟨noted, -, parties⟩ := readies.seeded
    obtain ⟨calls, made, inReset⟩ := ready.makes_reset
    have alone := ready.parties_reset
    rw [reset] at made alone
    have all : failed.journal.callsInOrder = .initialise options.seed :: calls := by
      rw [made.noted, noted]
      rfl
    have same : failed.host = host :=
      (congrArg Parties.host alone).trans (congrArg Parties.host parties)
    refine ⟨⟨ready.parties.memories, ?_⟩, same, ?_, ?_⟩
    · have performed := made.performed
      rw [alone, parties] at performed
      rw [all, same]
      exact .call rfl performed
    · intro call member
      rw [all] at member
      exact (List.mem_cons.mp member).imp_right (inReset call)
    · intro _
      cases verdict
      exact Bench.ofReset_of_reset reset
  | unfinished => cases verdict
  | finished => cases verdict

/-- A course that ends with a refusal has not written to standard error. -/
theorem Course.diagnostics {fault : SetupFault}
    (course : Course options factory schedule around design host outcome)
    (verdict : outcome.verdict = .refused fault) :
    outcome.surroundings.diagnostics = around.diagnostics := by
  -- The trace goes elsewhere, and a reset writes nothing.
  cases course with
  | unopened opened =>
    have opens := around.diagnostics_openTrace options.trace
    rw [opened] at opens
    exact opens
  | unassembled opened assembled =>
    have opens := around.diagnostics_openTrace options.trace
    rw [opened] at opens
    exact opens
  | @unreset _ _ ready failed readies reset =>
    have unwritten := ready.sinks_reset
    rw [reset] at unwritten
    exact (congrArg Sinks.diagnostics unwritten).trans readies.diagnostics
  | unfinished => cases verdict
  | finished => cases verdict

/-- A course that ends with a refusal is the same whichever instructions the design reports. -/
theorem Course.reporting {fault : SetupFault}
    (course : Course options factory schedule around design host outcome)
    (verdict : outcome.verdict = .refused fault) (instruction : D → UInt32) :
    @Course D H M (.reporting instruction) _ _ options factory schedule around design host
      outcome := by
  -- Each stage up to the reset goes the same way, and a run is no refusal.
  cases course with
  | unopened opened =>
    let _ : Design D := .reporting instruction
    exact .unopened opened
  | unassembled opened assembled =>
    have same := (assemble_reporting instruction ..).trans assembled
    let _ : Design D := .reporting instruction
    exact .unassembled opened same
  | unreset readies reset =>
    obtain ⟨opened, assembled⟩ := readies
    have same := (assemble_reporting instruction ..).trans assembled
    have failed := (Bench.reset_reporting instruction _).trans reset
    let _ : Design D := .reporting instruction
    exact .unreset (.assembled opened same) failed
  | unfinished => cases verdict
  | finished => cases verdict

/-- A session that has finished seeded its design first, by its options, and once. -/
structure Seeded (M : Type) [Memory M] (seed : UInt32) (design : D) (host : H)
    (outcome : Outcome D H) : Prop where
  /-- The calls noted are all that has happened. -/
  performed : ∃ memories ended : List M,
    Performed outcome.journal.callsInOrder ⟨design, host, memories⟩
      ⟨outcome.design, outcome.host, ended⟩
  first : ∃ rest, outcome.journal.callsInOrder = .initialise seed :: rest ∧
    ∀ call ∈ rest, ∀ other, call ≠ .initialise other

/-- A course that ends with a run has seeded the design first and once. -/
theorem Course.seeded {summary : Summary}
    (course : Course options factory schedule around design host outcome)
    (verdict : outcome.verdict = .finished summary) :
    Seeded M options.seed design host outcome := by
  cases course with
  | unopened => cases verdict
  | unassembled => cases verdict
  | unreset => cases verdict
  | unfinished => cases verdict
  | @finished files ready start final clocked found readies reset ran =>
    obtain ⟨noted, ⟨channels, wired⟩, parties⟩ := readies.seeded
    obtain ⟨calls, resets, inReset⟩ := ready.makes_reset
    -- Behind the seeding come the calls of the reset and of the run, and none of them seeds.
    have released : ready.reset.2.Wired channels :=
      wired.of_numbers (by rw [Bench.channels_reset])
    rw [reset] at resets released
    obtain ⟨run, runs⟩ := Bench.makes_run released ran
    have made := resets.append runs
    have all : final.journal.callsInOrder = .initialise options.seed :: (calls ++ run.calls) := by
      rw [made.noted, noted]
      rfl
    refine ⟨⟨ready.parties.memories, final.parties.memories, ?_⟩, calls ++ run.calls, all, ?_⟩
    · -- The seeding is the first call performed, on the parties as they were given.
      have performed := made.performed
      rw [parties] at performed
      rw [all]
      exact .call rfl performed
    · rintro call member other rfl
      rcases List.mem_append.mp member with before | within
      · exact Bool.false_ne_true (inReset _ before)
      · exact Rounds.purpose_ne_prepare_of_mem within rfl

end Refusal

section Status

variable {D H M : Type} [Design D] [Host H] [Memory M]

/-- A run reports success exactly when it was completed. -/
theorem exitStatus_of_run {requests : Nat → Bool} {limit : Nat} {late : Bool}
    {bench final : Bench D H M} {summary : Summary}
    (ran : bench.run? requests limit late = some (summary, final)) :
    summary.exitStatus = successStatus ↔ summary.ending = .completed := by
  obtain ⟨_, -, -, stopped, -, summed, -⟩ := Bench.summary_of_run ran
  -- The status is that of the ending, and each ending has its own.
  rw [summed]
  exact Ending.exitStatus_of_eq_zero_iff

end Status

section Completion

variable {D H M : Type} [Design D] [Host H] [Memory M]
variable (options : Options) (factory : Memory.Factory M) (schedule : Schedule)
variable (around : Surroundings) (design : D) (host : H)

/-- A session is completed: it is set up and reset, and its run ends when the host has finished. -/
def Completes : Prop :=
  ∃ (files : Files) (ready start final : Bench D H M) (clocked : Nat) (summary : Summary),
    Readies options factory schedule around design host files ready ∧
    ready.reset = (.ok clocked, start) ∧
    start.run? schedule.during schedule.limit schedule.late = some (summary, final) ∧
    summary.ending = .completed

/-- A session reports success exactly when it is completed. -/
theorem exitStatus_launch_eq_success_iff :
    (launch options factory schedule around design host).verdict.exitStatus? =
        some successStatus ↔
      Completes options factory schedule around design host := by
  constructor
  · intro success
    have course := course_launch options factory schedule around design host
    generalize launch options factory schedule around design host = outcome at success course
    -- Of all courses, only a finished one has the status of its run.
    cases course with
    | unopened => exact absurd (Option.some.inj success) (SetupFault.exitStatus_ne _)
    | unassembled => exact absurd (Option.some.inj success) (SetupFault.exitStatus_ne _)
    | unreset => exact absurd (Option.some.inj success) (SetupFault.exitStatus_ne _)
    | unfinished => cases success
    | finished readies reset ran =>
      have completed := (exitStatus_of_run ran).mp (Option.some.inj success)
      exact ⟨_, _, _, _, _, _, readies, reset, ran, completed⟩
  · rintro ⟨files, ready, start, final, clocked, summary, readies, reset, ran, completed⟩
    have course := Course.finished readies reset ran
    rw [course.launch_eq]
    exact congrArg some ((exitStatus_of_run ran).mpr completed)

end Completion

section Program

variable {D H : Type} [Design D] [Host H]
variable (arguments : List String) (seed : UInt32) (schedule : Schedule)
variable (around : Surroundings) (design : D) (host : H)

variable {arguments seed}

/-- A program without options has the status that goes with it, if it can explain itself. -/
theorem exitStatus_of_misused {fault : OptionFault}
    (parsed : (Options.ofArguments arguments seed).1 = .error fault) :
    (runProgram arguments seed schedule around design host).exitStatus? =
      if around.diagnostics.takesLine fault.message then some setupStatus else none := by
  unfold runProgram
  rcases answer : Options.ofArguments arguments seed with ⟨result, remarks⟩
  rw [answer] at parsed
  subst parsed
  -- Nothing was launched, so standard error is as it was found.
  exact Outcome.exitStatus_conclude false _

/-- A program with options has the status that its session asks for, if it can explain itself. -/
theorem exitStatus_of_launch {options : Options}
    (parsed : (Options.ofArguments arguments seed).1 = .ok options) :
    let outcome := launch options Memory.idealFactory schedule around design host
    (runProgram arguments seed schedule around design host).exitStatus? =
      if outcome.explains then outcome.verdict.exitStatus? else none := by
  intro outcome
  unfold runProgram
  rcases answer : Options.ofArguments arguments seed with ⟨result, remarks⟩
  rw [answer] at parsed
  subst parsed
  -- What was remarked about the arguments does not matter to the conclusion.
  exact Outcome.exitStatus_conclude options.wantsReport (outcome.precede remarks)

variable (arguments seed)

/--
What an exit status tells of a program, of its arguments, and of its session.

A program without a run breaks off when standard error refuses to take the reason, and then it has
no exit status at all.
-/
structure Reports (status? : Option Int32) : Prop where
  success : status? = some 0 ↔
    ∃ options, (Options.ofArguments arguments seed).1 = .ok options ∧
      Completes options Memory.idealFactory schedule around design host
  misused : ∀ fault, (Options.ofArguments arguments seed).1 = .error fault →
    status? = if around.diagnostics.takesLine fault.message then some (-1) else none
  inconsistent : ∀ options fault, (Options.ofArguments arguments seed).1 = .ok options →
    (launch options Memory.idealFactory schedule around design host).verdict =
      .refused (.resetEvaluation fault) →
    status? =
      if around.diagnostics.takesLine (SetupFault.resetEvaluation fault).message then some 1
      else none
  refused : ∀ options fault, (Options.ofArguments arguments seed).1 = .ok options →
    (launch options Memory.idealFactory schedule around design host).verdict = .refused fault →
    (∀ found, fault ≠ .resetEvaluation found) →
    status? = if around.diagnostics.takesLine fault.message then some (-1) else none

/-- The exit status of a program tells what became of its arguments and of its session. -/
theorem reports_runProgram :
    Reports arguments seed schedule around design host
      (runProgram arguments seed schedule around design host).exitStatus? := by
  -- A refusal gives its own status, once standard error has taken the explanation.
  have explained : ∀ options fault, (Options.ofArguments arguments seed).1 = .ok options →
      (launch options Memory.idealFactory schedule around design host).verdict =
        .refused fault →
      (runProgram arguments seed schedule around design host).exitStatus? =
        if around.diagnostics.takesLine fault.message then some fault.exitStatus else none := by
    intro options fault parsed verdict
    have course := course_launch options Memory.idealFactory schedule around design host
    rw [exitStatus_of_launch schedule around design host parsed, Outcome.explains,
      course.diagnostics verdict, verdict]
    rfl
  constructor
  case success =>
    cases parsed : (Options.ofArguments arguments seed).1 with
    | error fault =>
      -- There are no options, and so no session, and the status is no success.
      rw [exitStatus_of_misused schedule around design host parsed]
      constructor
      · split <;> nofun
      · rintro ⟨options, ok, -⟩
        cases ok
    | ok options =>
      have completes := exitStatus_launch_eq_success_iff options Memory.idealFactory schedule
        around design host
      rw [exitStatus_of_launch schedule around design host parsed]
      constructor
      · intro success
        refine ⟨options, rfl, completes.mp ?_⟩
        split at success
        · exact success
        · cases success
      · rintro ⟨_, ⟨⟩, completed⟩
        have success := completes.mpr completed
        rw [if_pos (Outcome.explains_of_success success)]
        exact success
  case misused =>
    exact fun fault parsed => exitStatus_of_misused schedule around design host parsed
  case inconsistent =>
    exact fun options fault parsed verdict => explained options _ parsed verdict
  case refused =>
    intro options fault parsed verdict others
    have status : fault.exitStatus = -1 := by
      cases fault with
      | resetEvaluation found => exact absurd rfl (others found)
      | _ => rfl
    rw [← status]
    exact explained options fault parsed verdict

/-- Bad arguments that standard error has no room to explain leave a program without a status. -/
example :
    let full : Sink := { answer := fun _ _ => some (.other "no space left") }
    (runProgram ["-s"] 7 { limit := 1 } { diagnostics := full } ({} : ScriptedDesign)
      ({} : ScriptedHost)).exitStatus? = none := by
  decide +kernel

/--
A session that is refused runs no cycle, and the exit status of a program tells why.

The design, the host and the memories may be any.
A refused session has left the host alone, has clocked the design in reset at most, and turns out
the same whatever instructions the design reports.
A session that has finished has seeded its design first and once.
-/
theorem refused_before_first_cycle {M : Type} [Memory M] (options : Options)
    (factory : Memory.Factory M) :
    let outcome := launch options factory schedule around design host
    (∀ fault, outcome.verdict = .refused fault →
      Refused M options.seed design host fault outcome ∧
      ∀ instruction, @launch D H M (.reporting instruction) _ _ options factory schedule around
        design host = outcome) ∧
    (∀ summary, outcome.verdict = .finished summary →
      Seeded M options.seed design host outcome) ∧
    Reports arguments seed schedule around design host
      (runProgram arguments seed schedule around design host).exitStatus? := by
  intro outcome
  -- All statements are read off the one way in which the session has gone.
  have course : Course options factory schedule around design host outcome := course_launch ..
  refine ⟨?_, ?_, reports_runProgram ..⟩
  · intro fault verdict
    refine ⟨course.refused verdict, fun instruction => ?_⟩
    -- The course of the other session has the same outcome, and a course fixes its launch.
    exact @Course.launch_eq D H M (.reporting instruction) _ _ _ _ _ _ _ _ _
      (course.reporting verdict instruction)
  · exact fun summary verdict => course.seeded verdict

/-- A design that cannot be reset is refused, and one that can is seeded and runs. -/
theorem refused_of_failing_design :
    let fault : EvaluationFault := ⟨"assertion failed"⟩
    let options : Options := { seed := 7 }
    let host : ScriptedHost := { isFinished := true }
    let refused := @launch ScriptedDesign ScriptedHost Memory.Ideal (.failing fault) _ _ options
      Memory.idealFactory { limit := 1 } {} {} host
    let finished := launch options Memory.idealFactory { limit := 1 } {} ({} : ScriptedDesign) host
    refused.verdict = .refused (.resetEvaluation fault) ∧
    refused.journal.callsInOrder.any Call.clocks = true ∧
    @Refused ScriptedDesign ScriptedHost (.failing fault) _ Memory.Ideal _ 7 {} host
      (.resetEvaluation fault) refused ∧
    (@runProgram ScriptedDesign ScriptedHost (.failing fault) _ [] 7 { limit := 1 } {} {}
      host).exitStatus? = some 1 ∧
    finished.verdict = .finished { ending := .completed, cycles := 0, seed := 7 } ∧
    Seeded Memory.Ideal 7 ({} : ScriptedDesign) host finished := by
  intro fault options host refused finished
  have failed : refused.verdict = .refused (.resetEvaluation fault) := by decide +kernel
  have clocked : refused.journal.callsInOrder.any Call.clocks = true := by decide +kernel
  have ended : finished.verdict = .finished { ending := .completed, cycles := 0, seed := 7 } := by
    decide +kernel
  -- The program and the launch are told of by the same theorem.
  obtain ⟨refuses, -, -, -, inconsistent, -⟩ := @refused_before_first_cycle ScriptedDesign
    ScriptedHost (.failing fault) _ [] 7 { limit := 1 } {} {} host Memory.Ideal _ options
    Memory.idealFactory
  obtain ⟨-, seeds, -⟩ := refused_before_first_cycle [] 7 { limit := 1 } {} ({} : ScriptedDesign)
    host options Memory.idealFactory
  exact ⟨failed, clocked, (refuses _ failed).1, inconsistent options fault rfl failed,
    ended, seeds _ ended⟩

end Program

end Testbench.Session
