import Mathlib.Data.Nat.Find
import Testbench.Proofs.Bench.Benchmarks
import Testbench.Proofs.Bench.Failure

/-! A run takes no more cycles than its limit and the start markers in it allow for. -/

namespace Testbench

open Marker

namespace Progress

/--
The most cycles in which a run with a limit can have come this far.

A restart can take back all cycles up to the limit but the one in which it happens.
-/
def mostCycles (limit : UInt64) (progress : Progress) : Nat :=
  progress.counter.cycles.toNat + progress.restarts * (limit.toNat - 1)

/-- What a restart takes back from a counter below the limit is allowed for. -/
theorem mostCycles_watch_ge {limit : UInt64} {progress : Progress} (instruction : UInt32)
    (left : progress.counter.cycles < limit) :
    progress.mostCycles limit ≤ (progress.watch instruction).mostCycles limit := by
  have bound := UInt64.lt_iff_toNat_lt.mp left
  simp only [mostCycles, watch, takeStop, takeStart]
  cases (progress.detector.observe instruction).started with
  | false => simp
  | true =>
    -- The counter is back at zero, and there is one more restart.
    have restarted : progress.counter.restart.cycles.toNat = 0 := rfl
    simp only [if_true, restarted, Bool.toNat_true, Nat.add_mul, Nat.one_mul]
    omega

/-- A commit below the limit is one more cycle. -/
theorem mostCycles_advance {limit : UInt64} {progress : Progress}
    (left : progress.counter.cycles < limit) :
    progress.advance.mostCycles limit = progress.mostCycles limit + 1 := by
  -- A commit restarts nothing, and below the limit the counter does not overflow.
  have restarts : progress.advance.restarts = progress.restarts := rfl
  rw [mostCycles, mostCycles, advance_toNat left, restarts, Nat.add_right_comm]

end Progress

namespace Bench

section Ends

variable {D H M : Type} [Design D] [Host H] [Memory M]

/-- A run that never lasts longer than some cycles ends within them. -/
theorem exists_endsAfter_of_short {requests : Nat → Bool} {bound : Nat} {bench : Bench D H M}
    (short : ∀ cycles, bench.Lasts requests cycles → cycles ≤ bound) :
    ∃ cycles ≤ bound, bench.EndsAfter requests cycles := by
  -- A run that never finds a reason to stop would last a cycle more than the bound.
  have stops : ∃ cycles, (bench.after requests cycles).mayContinue.1 = false := by
    by_contra never
    have lasts : bench.Lasts requests (bound + 1) := fun cycle _ =>
      eq_true_of_ne_false fun stop => never ⟨cycle, stop⟩
    exact absurd (short _ lasts) (Nat.not_succ_le_self bound)
  -- The first cycle that finds a reason to stop is the one before which the run ends.
  have ends : bench.EndsAfter requests (Nat.find stops) :=
    ⟨fun cycle earlier => eq_true_of_ne_false (Nat.find_min stops earlier),
      Nat.find_spec stops⟩
  exact ⟨Nat.find stops, short _ ends.1, ends⟩

end Ends

variable {D H M : Type} [Design D] [Host H] [Memory M]
variable {limit : UInt64} {requests : Nat → Bool} {bench : Bench D H M}

/-- A cycle that begins below the limit adds a cycle to what is allowed for. -/
theorem mostCycles_step (requested : Bool) (within : bench.progress.Within limit)
    (left : bench.counter.cycles < limit) :
    bench.progress.mostCycles limit + 1 ≤ (bench.step requested).progress.mostCycles limit := by
  obtain ⟨-, below⟩ := within_beforeCommit requested within left
  rw [progress_step, Progress.mostCycles_advance below]
  refine Nat.succ_le_succ ?_
  cases watched : bench.watched? requested with
  | none =>
    -- A fault neither restarts the counter nor sets it back.
    obtain ⟨fault, found⟩ := Option.isSome_iff_exists.mp (watched?_eq_none_iff.mp watched)
    rw [progress_beforeCommit_of_fault found]
    exact Nat.le_refl _
  | some instruction =>
    rw [progress_beforeCommit_of_watched watched]
    exact Progress.mostCycles_watch_ge instruction left

/-- A run that is within its limit stays so, and its cycles are all allowed for. -/
theorem mostCycles_after (within : bench.progress.Within limit) {cycles : Nat}
    (lasts : bench.Lasts requests cycles) :
    (bench.after requests cycles).progress.Within limit ∧
      cycles + bench.progress.mostCycles limit ≤
        (bench.after requests cycles).progress.mostCycles limit := by
  induction cycles with
  | zero => exact ⟨within, Nat.le_of_eq (Nat.zero_add _)⟩
  | succ cycles ih =>
    obtain ⟨earlier, allowed⟩ := ih (lasts.mono (Nat.le_succ cycles))
    -- The run went on to its last cycle, so that began below the limit.
    obtain ⟨asked, left⟩ := within_asked earlier (lasts cycles (Nat.lt_succ_self cycles))
    have further := mostCycles_step (requests cycles) asked left
    rw [progress_asked] at further
    refine ⟨within_step (requests cycles) asked left, ?_⟩
    rw [after]
    omega

/-- The cycles of a run are at most its limit, and the limit less one for each completed start. -/
theorem Fresh.cycles_le (fresh : bench.Fresh) {cycles : Nat}
    (lasts : bench.Lasts requests cycles) :
    let limit := bench.settings.cycleLimit.toNat
    let starts := (completions startMarker (bench.seen (fun _ => true) requests cycles)).length
    cycles ≤ limit + starts * (limit - 1) := by
  intro limit starts
  have start : bench.progress.Within bench.settings.cycleLimit :=
    (fresh.within (lasts.mono (Nat.zero_le cycles)) :)
  obtain ⟨within, allowed⟩ := mostCycles_after start lasts
  -- Every restart comes from a start marker that was completed.
  have accounts := fresh.accounts (fun _ => true) requests cycles
  rw [steps_eq_after] at accounts
  have counter := UInt64.le_iff_toNat_le.mp within.counter
  rw [Progress.mostCycles, Progress.mostCycles, accounts.restarts] at allowed
  exact Nat.le_trans (Nat.le_add_right _ _) (Nat.le_trans allowed (Nat.add_le_add_right counter _))

/--
A run ends after its limit at the latest, and the limit less one for each completed start.

It returns as soon as it is given all its cycles, whatever the host does.
Without a start it ends within its limit, and with no cycles allowed at once.
-/
theorem ends_of_few_starts (fresh : bench.Fresh) (requests : Nat → Bool) :
    let limit := bench.settings.cycleLimit.toNat
    let starts := fun cycles =>
      (completions startMarker (bench.seen (fun _ => true) requests cycles)).length
    (∀ most, (∀ cycles, bench.Lasts requests cycles → starts cycles ≤ most) →
      ∃ cycles ≤ if limit = 0 then 0 else limit + most * (limit - 1),
        bench.EndsAfter requests cycles ∧
        ∀ given late, (bench.run? requests given late).isSome = true ↔ cycles ≤ given) ∧
    ((∀ cycles, bench.Lasts requests cycles → starts cycles = 0) →
      ∃ cycles ≤ limit, bench.EndsAfter requests cycles ∧
        ∀ given late, (bench.run? requests given late).isSome = true ↔ cycles ≤ given) := by
  intro limit starts
  have bounded : ∀ most, (∀ cycles, bench.Lasts requests cycles → starts cycles ≤ most) →
      ∃ cycles ≤ limit + most * (limit - 1), bench.EndsAfter requests cycles ∧
        ∀ given late, (bench.run? requests given late).isSome = true ↔ cycles ≤ given := by
    intro most few
    -- Few starts leave few cycles, however long the run is taken to last.
    have short : ∀ cycles, bench.Lasts requests cycles → cycles ≤ limit + most * (limit - 1) := by
      intro cycles lasts
      have again := Nat.mul_le_mul_right (limit - 1) (few cycles lasts)
      exact Nat.le_trans (fresh.cycles_le lasts) (Nat.add_le_add_left again limit)
    obtain ⟨cycles, within, ends⟩ := exists_endsAfter_of_short short
    exact ⟨cycles, within, ends, fun given late => isSome_run?_iff ends⟩
  constructor
  · intro most few
    obtain ⟨cycles, within, ends⟩ := bounded most few
    refine ⟨cycles, ?_, ends⟩
    -- With no cycles allowed, the starts do not add any.
    split
    · rename_i empty
      simpa [empty] using within
    · exact within
  · intro none
    obtain ⟨cycles, within, ends⟩ := bounded 0 fun cycles lasts => Nat.le_of_eq (none cycles lasts)
    exact ⟨cycles, by simpa using within, ends⟩

/-- Two starts that share an instruction give a run with the limit four its full ten cycles. -/
theorem ends_of_two_starts :
    let bench := scriptedBench 4 { program := startMarker ++ startMarker.tail } {}
    let requests := fun _ => false
    (∀ cycles, bench.Lasts requests cycles →
      (completions startMarker (bench.seen (fun _ => true) requests cycles)).length ≤ 2) ∧
    bench.EndsAfter requests 10 ∧
    ∃ cycles ≤ if (4 : Nat) = 0 then 0 else 4 + 2 * (4 - 1),
      bench.EndsAfter requests cycles ∧
      ∀ given late, (bench.run? requests given late).isSome = true ↔ cycles ≤ given := by
  intro bench requests
  -- The run lasts for ten cycles, and there is no eleventh one.
  have going : ∀ cycle < 10, (bench.after requests cycle).mayContinue.1 = true := by decide +kernel
  have ends : bench.EndsAfter requests 10 := ⟨going, by decide +kernel⟩
  have few : ∀ cycles, bench.Lasts requests cycles →
      (completions startMarker (bench.seen (fun _ => true) requests cycles)).length ≤ 2 := by
    intro cycles lasts
    -- So only the cycles up to the end have to be looked through for starts.
    have starts : ∀ cycles < 11,
        (completions startMarker (bench.seen (fun _ => true) requests cycles)).length ≤ 2 := by
      decide +kernel
    exact starts cycles (Nat.lt_succ_of_le (ends.le lasts))
  have fresh : bench.Fresh := fresh_scriptedBench 4 _ {}
  exact ⟨few, ends, (ends_of_few_starts fresh requests).1 2 few⟩

end Bench

end Testbench
