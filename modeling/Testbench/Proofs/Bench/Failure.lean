import Testbench.Proofs.Bench.Limit
import Testbench.Proofs.Bench.Staged
import Testbench.Proofs.Bench.Turns

/-! A cycle in which the design fails to settle is finished without service, and is the last one. -/

namespace Testbench.Bench

section Finishing

variable {D H M : Type} [Host H]

/-- Winding a run down leaves the counter and the budget as they are. -/
theorem progress_finish (bench : Bench D H M) : bench.finish.2.progress = bench.progress := by
  -- Winding down replaces parts of the bench that carry no progress.
  obtain ⟨_, _, _, _, same⟩ := bench.finish_snd_eq
  rw [same]
  rfl

end Finishing

section Failing

variable {D H M : Type} [Design D] [Host H] [Memory M]
variable {bench : Bench D H M} {fault : EvaluationFault}

/-- A failing cycle ends the budget and is counted, but nothing is served or watched in it. -/
theorem step_of_fault (found : bench.faultIn = some fault) (requested : Bool) :
    ∃ design sinks recorder journal, bench.step requested =
      { bench with
        design, sinks, recorder, journal
        channels := bench.channels.map Channel.afterShow
        link := bench.linkIn requested
        counter := bench.counter.advance
        budget := bench.counter.cycles
        evaluationFault := some fault } := by
  -- Each of the three phases replaces a few fields, and the last one to do so has its way.
  obtain ⟨_, _, settled⟩ := bench.settledIn_eq requested
  obtain ⟨_, _, _, _, observed⟩ := (bench.settledIn requested).2.observe_some_eq fault
  rw [step_eq_commit, beforeCommit, found, observed, settled]
  exact ⟨_, _, _, _, rfl⟩

/-- What a cycle leaves on a bench whose design fails to settle. -/
structure WindsDown (requested : Bool) (fault : EvaluationFault) (before after : Bench D H M) :
    Prop where
  /-- No memory is ticked, and no gate counts or remembers anything of the cycle. -/
  channels :
    let kept := fun channel : Channel M =>
      (channel.memory, channel.gate.tally, channel.gate.waiting)
    after.channels.map kept = before.channels.map kept
  host : after.host = before.host
  /-- The link keeps its frame and its counts, and only a request to stop may be new. -/
  link : after.link = before.linkIn requested
  detector : after.detector = before.detector
  benchmarks : after.benchmarks = before.benchmarks
  restarts : after.restarts = before.restarts
  /-- The budget is what the counter was, and the counter is one ahead of it. -/
  budget : after.budget = before.counter.cycles
  counter : after.counter.cycles.toNat = before.counter.cycles.toNat + 1
  evaluationFault : after.evaluationFault = some fault
  stops : after.mayContinue.1 = false
  /-- The channels are shown to the design, which is settled, printed, dumped and committed. -/
  calls : ∃ (printed? : Option (Option SystemFault))
      (dumped? : Option (UInt64 × Option SystemFault)),
    Makes (Cycle.calls { shown := before.shown, settled := .error fault, printed?, dumped? })
      before after

/-- A failing cycle in which the counter does not overflow winds the run down. -/
theorem windsDown_of_fault (found : bench.faultIn = some fault) (requested : Bool)
    (left : bench.counter.cycles < bench.budget) :
    WindsDown requested fault bench (bench.step requested) := by
  obtain ⟨design, sinks, recorder, journal, stepped⟩ := step_of_fault found requested
  -- The cycle ticks no memory, so the numbers of the channels do not matter.
  have wired : bench.faultIn = none → bench.Wired 0 := by
    intro sound
    rw [found] at sound
    cases sound
  obtain ⟨printed?, dumped?, made⟩ := makes_step requested wired
  constructor
  case channels =>
    -- What the gates remember is what they told the design, and no part of what is kept.
    intro kept
    rw [stepped, List.map_map]
    rfl
  case host => rw [stepped]
  case link => rw [stepped]
  case detector => rw [stepped]
  case benchmarks => rw [stepped]
  case restarts => rw [stepped]
  case budget => rw [stepped]
  case counter =>
    rw [stepped]
    exact bench.progress.advance_toNat left
  case evaluationFault => rw [stepped]
  case stops =>
    -- The fault alone is a reason to stop, and the counter beyond the budget is another.
    rw [stepped]
    simp [mayContinue]
  case calls =>
    have settled : bench.settledService requested = .error fault := by
      rw [settledService, found]
      rfl
    rw [settled] at made
    exact ⟨printed?, dumped?, made⟩

end Failing

section Run

variable {D H M : Type} [Design D] [Host H] [Memory M]
variable {requests : Nat → Bool} {cycle : Nat} {bench : Bench D H M} {fault : EvaluationFault}

/-- A failing cycle of a run winds the run down. -/
theorem windsDown_after (lasts : bench.Lasts requests (cycle + 1))
    (found : (bench.after requests cycle).asked.faultIn = some fault) :
    WindsDown (requests cycle) fault (bench.after requests cycle).asked
      (bench.after requests (cycle + 1)) := by
  -- The run went on, so its counter was below its budget.
  obtain ⟨-, left⟩ := going_of_mayContinue (lasts cycle (Nat.lt_succ_self cycle))
  have same : (bench.after requests cycle).asked.progress = (bench.after requests cycle).progress :=
    progress_asked _
  have counter := congrArg (fun progress => progress.counter.cycles) same
  have budget := congrArg Progress.budget same
  refine windsDown_of_fault found (requests cycle) ?_
  exact lt_of_eq_of_lt counter (lt_of_lt_of_eq left budget.symm)

/-- A run that ends returns as soon as its limit allows for all its cycles. -/
theorem isSome_run?_iff {cycles limit : Nat} {late : Bool}
    (ends : bench.EndsAfter requests cycles) :
    (bench.run? requests limit late).isSome = true ↔ cycles ≤ limit := by
  rw [Option.isSome_iff_exists]
  constructor
  · rintro ⟨⟨summary, final⟩, ran⟩
    obtain ⟨others, within, alsoEnds, -⟩ := run?_eq_some_iff.mp ran
    -- A run ends after one number of cycles only, so the two are the same.
    rw [ends.unique alsoEnds]
    exact within
  · intro within
    exact ⟨_, run?_eq_some_iff.mpr ⟨cycles, within, ends, rfl⟩⟩

/-- Neither the last question nor winding down counts anything, and the summary tells the counts. -/
theorem progress_of_run {cycles limit : Nat} {late : Bool} {summary : Summary}
    {final : Bench D H M} (ends : bench.EndsAfter requests cycles)
    (ran : bench.run? requests limit late = some (summary, final)) :
    final.progress = (bench.after requests cycles).progress ∧
      summary.cycles = (bench.after requests cycles).counter.cycles ∧
      summary.evaluationFault = (bench.after requests cycles).evaluationFault := by
  obtain ⟨others, -, alsoEnds, finished⟩ := run?_eq_some_iff.mp ran
  -- The cycles of the run are the given ones, as it ends once.
  rw [alsoEnds.unique ends] at finished
  let stopped := (bench.after requests cycles).asked.requestStopIf late
  have asked : stopped.progress = (bench.after requests cycles).progress :=
    (progress_requestStopIf late _).trans (progress_asked _)
  -- What is counted stays put from the last cycle on: asked, stopped late, wound down.
  have last : final.progress = stopped.progress := by
    rw [← stopped.progress_finish, finished]
  -- The summary is taken from the bench before it is wound down.
  have summed : summary = stopped.summary stopped.ending stopped.traceRecords := by
    rw [← stopped.finish_eq.1, finished]
  refine ⟨last.trans asked, ?_, ?_⟩
  · rw [summed]
    exact congrArg (fun progress : Progress => progress.counter.cycles) asked
  · rw [summed]
    exact congrArg Progress.fault asked

/--
A run ends with the cycle in which its design fails to settle, and reports the fault.

The failing cycle is finished without service, and the counter is left one ahead of the budget.
-/
theorem ends_of_fault (lasts : bench.Lasts requests (cycle + 1))
    (found : (bench.after requests cycle).asked.faultIn = some fault) :
    let before := (bench.after requests cycle).asked
    WindsDown (requests cycle) fault before (bench.after requests (cycle + 1)) ∧
    bench.EndsAfter requests (cycle + 1) ∧
    (∀ limit late, (bench.run? requests limit late).isSome = true ↔ cycle < limit) ∧
    (∀ limit late summary final, bench.run? requests limit late = some (summary, final) →
      summary.evaluationFault = some fault ∧
      final.budget = before.counter.cycles ∧
      summary.cycles.toNat = final.budget.toNat + 1) := by
  intro before
  have winds := windsDown_after lasts found
  have ends : bench.EndsAfter requests (cycle + 1) := ⟨lasts, winds.stops⟩
  refine ⟨winds, ends, fun limit late => isSome_run?_iff ends, ?_⟩
  intro limit late summary final ran
  -- The run that returns is one that ends with the failing cycle, as there is no other end.
  obtain ⟨progress, counter, reported⟩ := progress_of_run ends ran
  have budget : final.budget = before.counter.cycles :=
    (congrArg Progress.budget progress).trans winds.budget
  refine ⟨reported.trans winds.evaluationFault, budget, ?_⟩
  -- The counter has passed the budget in the failing cycle.
  rw [counter, budget, winds.counter]

/--
A write in flight and a frame on its way in survive a failing second cycle.

The design offers the beat that the write waits for, and is ready for the frame.
-/
theorem ends_of_staged_fault :
    let fault : EvaluationFault := ⟨"assertion failed"⟩
    let bench := stagedBench {}
      { channels := 1
        stages := [
          { offers := [{ write := { valid := true, address := 0x100 } }] },
          { fault
            offers := [{
              beat := { valid := true, data := [1, 2], strobe := 3, last := true } }] }] }
      { answers := [some [1, 2], some [3]] }
    let requests := fun _ => false
    let before := (bench.after requests 1).asked
    before.link.pendingFrame? = some 0x201 ∧
    (before.channels.map fun channel => channel.memory.burst.isSome) = [true] ∧
    WindsDown false fault before (bench.after requests 2) ∧
    bench.EndsAfter requests 2 ∧
    (∀ limit late, (bench.run? requests limit late).isSome = true ↔ 1 < limit) ∧
    (∀ limit late summary final, bench.run? requests limit late = some (summary, final) →
      summary.evaluationFault = some fault ∧
      final.budget = before.counter.cycles ∧
      summary.cycles.toNat = final.budget.toNat + 1) := by
  intro fault bench requests before
  have lasts : bench.Lasts requests 2 := by
    intro cycle within
    match cycle, within with
    | 0, _ => decide +kernel
    | 1, _ => decide +kernel
  -- The second stage fails, with a frame on its way and a write burst in flight.
  have found : before.faultIn = some fault := by decide +kernel
  have frame : before.link.pendingFrame? = some 0x201 := by decide +kernel
  have write : (before.channels.map fun channel => channel.memory.burst.isSome) = [true] := by
    decide +kernel
  -- What the stages are does not matter any more.
  clear_value bench
  exact ⟨frame, write, ends_of_fault lasts found⟩

end Run

end Testbench.Bench
