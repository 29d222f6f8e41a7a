import Testbench.Proofs.Bench.Asking
import Testbench.Proofs.Bench.Fresh

/-! Runs count their cycles within their limit, and stop after a fault. -/

namespace Testbench

namespace Progress

/-- The counter is within a limit, at which a run without a fault stops. -/
structure Within (limit : UInt64) (progress : Progress) : Prop where
  counter : progress.counter.cycles ≤ limit
  budget : progress.fault = none → progress.budget = limit

/-- Watching for markers may only set the counter back. -/
theorem watch_counter_le (instruction : UInt32) (progress : Progress) :
    (progress.watch instruction).counter.cycles ≤ progress.counter.cycles := by
  simp only [watch, takeStop, takeStart]
  -- A start marker sets the counter to zero, and a stop marker leaves it.
  split
  · exact UInt64.zero_le
  · exact UInt64.le_refl _

/-- A counter below some limit is advanced without overflow. -/
theorem advance_toNat {limit : UInt64} {progress : Progress}
    (left : progress.counter.cycles < limit) :
    progress.advance.counter.cycles.toNat = progress.counter.cycles.toNat + 1 := by
  -- The limit itself fits 64 bits, so a counter below it has room for one more.
  have bound := UInt64.lt_iff_toNat_lt.mp left
  have range := limit.toNat_lt
  simp only [advance, Counter.advance, UInt64.toNat_add, UInt64.toNat_one]
  omega

/-- A counter below some limit may be advanced once. -/
theorem Within.advance {limit : UInt64} {progress : Progress} (within : progress.Within limit)
    (left : progress.counter.cycles < limit) : progress.advance.Within limit where
  -- Strictly below the limit before, so at most the limit after.
  counter := by
    have bound := UInt64.lt_iff_toNat_lt.mp left
    rw [UInt64.le_iff_toNat_le, advance_toNat left]
    exact bound
  budget := within.budget

end Progress

namespace Bench

section Asking

variable {D H M : Type} [Host H]

/-- A run that goes on is below its limit. -/
theorem left_of_going {limit : UInt64} {bench : Bench D H M}
    (within : bench.progress.Within limit) (going : bench.mayContinue.1 = true) :
    bench.counter.cycles < limit := by
  obtain ⟨sound, left⟩ := going_of_mayContinue going
  -- Without a fault the budget is still the limit the run was given.
  have same : bench.budget = limit := within.budget sound
  rwa [same] at left

/-- A run that goes on is below its limit also once it was asked. -/
theorem within_asked {limit : UInt64} {bench : Bench D H M}
    (within : bench.progress.Within limit) (going : bench.mayContinue.1 = true) :
    bench.asked.progress.Within limit ∧ bench.asked.counter.cycles < limit := by
  -- The question is put to the host, and counts nothing.
  have counter : bench.asked.counter = bench.counter :=
    congrArg Progress.counter bench.progress_asked
  rw [progress_asked, counter]
  exact ⟨within, left_of_going within going⟩

end Asking

section Cycle

variable {D H M : Type} [Design D] [Host H] [Memory M]

/-- In a cycle that begins below the limit, the counter stays below it until the commit. -/
theorem within_beforeCommit {limit : UInt64} {bench : Bench D H M} (requested : Bool)
    (within : bench.progress.Within limit) (left : bench.counter.cycles < limit) :
    (bench.beforeCommit requested).progress.Within limit ∧
      (bench.beforeCommit requested).counter.cycles < limit := by
  cases watched : bench.watched? requested with
  | none =>
    -- A fault leaves the counter as it is, and allows any budget.
    obtain ⟨fault, found⟩ := Option.isSome_iff_exists.mp (watched?_eq_none_iff.mp watched)
    have counted : (bench.beforeCommit requested).progress = bench.progress.fail fault :=
      progress_beforeCommit_of_fault found
    have same : (bench.beforeCommit requested).counter = bench.counter :=
      congrArg Progress.counter counted
    rw [counted, same]
    exact ⟨⟨within.counter, nofun⟩, left⟩
  | some instruction =>
    have counted := progress_beforeCommit_of_watched watched
    have same : (bench.beforeCommit requested).counter =
        (bench.progress.watch instruction).counter := congrArg Progress.counter counted
    have earlier := bench.progress.watch_counter_le instruction
    rw [counted, same]
    exact ⟨⟨UInt64.le_trans earlier within.counter, within.budget⟩,
      UInt64.lt_of_le_of_lt earlier left⟩

/-- One cycle that begins below the limit keeps the counter within it. -/
theorem within_step {limit : UInt64} {bench : Bench D H M} (requested : Bool)
    (within : bench.progress.Within limit) (left : bench.counter.cycles < limit) :
    (bench.step requested).progress.Within limit := by
  -- Only the commit, at the end of the cycle, counts it.
  obtain ⟨still, below⟩ := within_beforeCommit requested within left
  rw [progress_step]
  exact still.advance below

/-- The first fault of a run is the one that the design finds in the cycle. -/
theorem evaluationFault_step {bench : Bench D H M} (requested : Bool)
    (sound : bench.evaluationFault = none) :
    (bench.step requested).evaluationFault = bench.faultIn := by
  have committed : (bench.step requested).evaluationFault =
      (bench.beforeCommit requested).progress.fault := congrArg Progress.fault (progress_step ..)
  rw [committed]
  cases found : bench.faultIn with
  | some fault => rw [progress_beforeCommit_of_fault found, Progress.fail]
  | none =>
    -- Watching for markers leaves the absence of a fault as it was.
    obtain ⟨instruction, watched⟩ : ∃ instruction,
        bench.watched? requested = some instruction := by simp [watched?, found]
    rw [progress_beforeCommit_of_watched watched]
    exact sound

end Cycle

section Run

variable {D H M : Type} [Design D] [Host H] [Memory M]

/-- The design fails to settle in one of the first cycles of a run. -/
def failsWithin (requests : Nat → Bool) (cycles : Nat) (bench : Bench D H M) : Bool :=
  (List.range cycles).any fun cycle => (bench.after requests cycle).asked.faultIn.isSome

variable {requests : Nat → Bool} {cycles : Nat} {bench : Bench D H M}

/-- The counter of a run on a fresh bench stays within the limit. -/
theorem Fresh.within (fresh : bench.Fresh) (lasts : bench.Lasts requests cycles) :
    (bench.after requests cycles).progress.Within bench.settings.cycleLimit := by
  induction cycles with
  | zero =>
    rw [after, fresh.progress]
    exact ⟨UInt64.zero_le, fun _ => rfl⟩
  | succ cycles ih =>
    have earlier := ih (lasts.mono (Nat.le_succ cycles))
    -- The last cycle began below the limit, since the run went on to it.
    obtain ⟨within, left⟩ := within_asked earlier (lasts cycles (Nat.lt_succ_self cycles))
    exact within_step (requests cycles) within left

/-- Every commit of a run on a fresh bench counts one cycle, without overflow. -/
theorem Fresh.commits (fresh : bench.Fresh) (lasts : bench.Lasts requests cycles)
    {cycle : Nat} (earlier : cycle < cycles) :
    let committing := (bench.after requests cycle).asked.beforeCommit (requests cycle)
    committing.counter.cycles < bench.settings.cycleLimit ∧
      (bench.after requests (cycle + 1)).counter.cycles.toNat =
        committing.counter.cycles.toNat + 1 := by
  -- Induction over the earlier cycles is in this invariant: the counter is within its limit.
  have before := fresh.within (lasts.mono (Nat.le_of_lt earlier))
  obtain ⟨within, left⟩ := within_asked before (lasts cycle earlier)
  obtain ⟨-, below⟩ := within_beforeCommit (requests cycle) within left
  have advanced : (bench.after requests (cycle + 1)).counter =
      ((bench.after requests cycle).asked.beforeCommit (requests cycle)).progress.advance.counter :=
    congrArg Progress.counter (progress_step ..)
  refine ⟨below, ?_⟩
  rw [advanced]
  exact Progress.advance_toNat below

/-- The fault of a run on a fresh bench is one that the design finds in a cycle of it. -/
theorem Fresh.failsWithin_eq (fresh : bench.Fresh) (lasts : bench.Lasts requests cycles) :
    bench.failsWithin requests cycles =
      (bench.after requests cycles).evaluationFault.isSome := by
  induction cycles with
  | zero =>
    have sound : bench.evaluationFault = none := congrArg Progress.fault fresh.progress
    simp [failsWithin, after, sound]
  | succ cycles ih =>
    have earlier := ih (lasts.mono (Nat.le_succ cycles))
    -- The run went on, so only its last cycle can have failed.
    have sound := (going_of_mayContinue (lasts cycles (Nat.lt_succ_self cycles))).1
    have asked : (bench.after requests cycles).asked.evaluationFault = none :=
      (congrArg Progress.fault (progress_asked _)).trans sound
    rw [failsWithin, sound] at earlier
    simp only [Option.isSome_none] at earlier
    rw [failsWithin, List.range_succ, List.any_append, earlier, after,
      evaluationFault_step _ asked]
    simp

/-- A cycle in which the design fails to settle is the last one of a run. -/
theorem Fresh.succ_eq_of_fault (fresh : bench.Fresh) (lasts : bench.Lasts requests cycles)
    {cycle : Nat} (earlier : cycle < cycles)
    (fails : (bench.after requests cycle).asked.faultIn.isSome = true) :
    cycle + 1 = cycles := by
  refine Nat.le_antisymm earlier (Nat.le_of_not_lt fun later => ?_)
  -- The run would have gone on after the failing cycle.
  have sound := (going_of_mayContinue (lasts (cycle + 1) later)).1
  have failed := fresh.failsWithin_eq (lasts.mono earlier)
  rw [sound, failsWithin, List.range_succ, List.any_append] at failed
  simp [fails] at failed

end Run

end Bench

end Testbench
