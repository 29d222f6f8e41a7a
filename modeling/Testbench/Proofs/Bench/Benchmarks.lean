import Mathlib.Algebra.Group.Nat.Defs
import Testbench.Proofs.Bench.Limit
import Testbench.Proofs.Bench.Scripted
import Testbench.Proofs.Marker.Completions

/-! Restarts, benchmarks and the final counter follow from the markers that a run has seen. -/

namespace Testbench

open Marker

namespace Progress

/-- The progress of a run that has seen some instructions, with counters that may overflow. -/
structure Accounts (seen : List (Option UInt32)) (progress : Progress) : Prop where
  detector : progress.detector = .on seen.reduceOption
  restarts : progress.restarts = (completions startMarker seen).length
  benchmarks : progress.benchmarks =
    (completions stopMarker seen).map fun cycle => UInt64.ofNat (sinceStart seen cycle)
  counter : progress.counter.cycles = UInt64.ofNat (sinceStart seen seen.length)

/-- The benchmarks of the earlier cycles stay when one more cycle was seen. -/
theorem benchmarks_concat (seen : List (Option UInt32)) (sample : Option UInt32) :
    ((completions stopMarker (seen ++ [sample])).map fun cycle =>
        UInt64.ofNat (sinceStart (seen ++ [sample]) cycle)) =
      ((completions stopMarker seen).map fun cycle => UInt64.ofNat (sinceStart seen cycle)) ++
        if sample.any (completes stopMarker seen.reduceOption) then
          [UInt64.ofNat (sinceStart seen seen.length)]
        else [] := by
  rw [completions_concat, List.map_append]
  congr 1
  · apply List.map_congr_left
    intro cycle completed
    rw [sinceStart_concat_of_le (Nat.le_of_lt (lt_of_mem_completions completed))]
  · -- Only a start before the last cycle counts for a benchmark that stops in it.
    have before := sinceStart_concat_of_le (Nat.le_refl seen.length) sample
    split <;> simp [before]

/-- A cycle without an instruction is counted like any other. -/
theorem Accounts.fail {seen : List (Option UInt32)} {progress : Progress}
    (accounts : progress.Accounts seen) (fault : EvaluationFault) :
    (progress.fail fault).advance.Accounts (seen ++ [none]) := by
  constructor
  case detector =>
    -- The stream of instructions stays as it is, and so do the markers in it.
    have stream : (seen ++ [none]).reduceOption = seen.reduceOption := by
      simp [List.reduceOption_append]
    rw [stream]
    exact accounts.detector
  case restarts =>
    rw [completions_concat, Option.any_none, if_neg Bool.false_ne_true, List.append_nil]
    exact accounts.restarts
  case benchmarks =>
    rw [benchmarks_concat, Option.any_none, if_neg Bool.false_ne_true, List.append_nil]
    exact accounts.benchmarks
  case counter =>
    rw [List.length_append, List.length_singleton, sinceStart_concat_length, Option.any_none,
      if_neg Bool.false_ne_true, UInt64.ofNat_add, ← accounts.counter]
    rfl

/-- A marker is acted on in the cycle in which it completes. -/
theorem watch_of_on {stream : List UInt32} {progress : Progress}
    (watching : progress.detector = .on stream) (instruction : UInt32) :
    progress.watch instruction =
      { progress with
        detector := .on (stream ++ [instruction])
        counter :=
          if completes startMarker stream instruction then progress.counter.restart
          else progress.counter
        restarts := progress.restarts + (completes startMarker stream instruction).toNat
        benchmarks := progress.benchmarks ++
          if completes stopMarker stream instruction then [progress.counter.cycles] else [] } := by
  rw [watch, watching, Detector.observe_on]
  cases starts : completes startMarker stream instruction with
  | false => rfl
  | true =>
    -- Nothing stops with a start, so no restarted counter is reported.
    rw [completes_exclusive starts]
    rfl

/-- A cycle with an instruction is counted since the last start, which may be this cycle. -/
theorem Accounts.watch {seen : List (Option UInt32)} {progress : Progress}
    (accounts : progress.Accounts seen) (instruction : UInt32) :
    (progress.watch instruction).advance.Accounts (seen ++ [some instruction]) := by
  rw [watch_of_on accounts.detector]
  constructor
  case detector =>
    have stream : (seen ++ [some instruction]).reduceOption =
        seen.reduceOption ++ [instruction] := by simp [List.reduceOption_append]
    rw [stream]
    rfl
  case restarts =>
    rw [completions_concat, Option.any_some, List.length_append, ← accounts.restarts]
    cases completes startMarker seen.reduceOption instruction <;> rfl
  case benchmarks =>
    rw [benchmarks_concat, Option.any_some, ← accounts.benchmarks, ← accounts.counter]
    rfl
  case counter =>
    -- A start sets the counter back before the cycle itself is counted.
    rw [List.length_append, List.length_singleton, sinceStart_concat_length, Option.any_some,
      UInt64.ofNat_add, apply_ite UInt64.ofNat, ← accounts.counter]
    cases completes startMarker seen.reduceOption instruction <;> rfl

end Progress

/-- The account that is given of the cycles in which some instructions were seen. -/
structure Accounted (seen : List (Option UInt32)) (restarts : Nat) (benchmarks : List UInt64)
    (cycles : UInt64) : Prop where
  /-- Every start counts as a restart. -/
  restarts : restarts = (completions startMarker seen).length
  /-- Every stop gives the cycles since the last start, in order. -/
  benchmarks : benchmarks.map UInt64.toNat = (completions stopMarker seen).map (sinceStart seen)
  /-- At the end, the counter gives the cycles since the last start. -/
  cycles : cycles.toNat = sinceStart seen seen.length

/-- Counters that do not overflow are exact. -/
theorem Progress.Accounts.accounted {seen : List (Option UInt32)} {progress : Progress}
    (accounts : progress.Accounts seen)
    (fits : ∀ cycle ≤ seen.length, sinceStart seen cycle < 2 ^ 64) :
    Accounted seen progress.restarts progress.benchmarks progress.counter.cycles where
  restarts := accounts.restarts
  benchmarks := by
    -- Stops complete within the cycles seen, where nothing overflows.
    rw [accounts.benchmarks, List.map_map]
    apply List.map_congr_left
    intro cycle completed
    exact UInt64.toNat_ofNat_of_lt' (fits cycle (Nat.le_of_lt (lt_of_mem_completions completed)))
  cycles := by
    rw [accounts.counter]
    exact UInt64.toNat_ofNat_of_lt' (fits seen.length (Nat.le_refl _))

namespace Bench

section Asking

variable {D H M : Type} [Host H]

/-- Asking counts nothing, whether it is done or not. -/
theorem progress_ready (ask : Bool) (bench : Bench D H M) :
    (bench.ready ask).progress = bench.progress := by
  cases ask with
  | false => rfl
  -- The question may tell the host to finish, which is not counted.
  | true => exact progress_asked bench

end Asking

section Steps

variable {D H M : Type} [Design D] [Host H] [Memory M]

/-- What is watched for markers in some cycles, which is nothing in those that fail. -/
def seen (asks requests : Nat → Bool) (count : Nat) (bench : Bench D H M) :
    List (Option UInt32) :=
  (List.range count).map fun cycle =>
    ((bench.steps asks requests cycle).ready (asks cycle)).watched? (requests cycle)

/-- One more cycle adds what is watched in it. -/
theorem seen_succ (asks requests : Nat → Bool) (count : Nat) (bench : Bench D H M) :
    bench.seen asks requests (count + 1) =
      bench.seen asks requests count ++
        [((bench.steps asks requests count).ready (asks count)).watched? (requests count)] := by
  -- The cycles are listed by their numbers, of which the new one is the last.
  rw [seen, List.range_succ, List.map_append]
  rfl

/-- As many cycles are seen as there are. -/
theorem length_seen (asks requests : Nat → Bool) (count : Nat) (bench : Bench D H M) :
    (bench.seen asks requests count).length = count := by
  -- Each of them adds one entry, whether an instruction is watched in it or not.
  rw [seen, List.length_map, List.length_range]

/-- The progress on a fresh bench accounts for all cycles, whichever of them fail. -/
theorem Fresh.accounts {bench : Bench D H M} (fresh : bench.Fresh) (asks requests : Nat → Bool)
    (count : Nat) :
    (bench.steps asks requests count).progress.Accounts (bench.seen asks requests count) := by
  induction count with
  | zero =>
    -- Nothing was seen, and nothing is counted on a fresh bench.
    rw [steps, fresh.progress]
    exact ⟨rfl, rfl, rfl, rfl⟩
  | succ count ih =>
    rw [← progress_ready (asks count)] at ih
    rw [seen_succ, steps, progress_step]
    cases watched : ((bench.steps asks requests count).ready (asks count)).watched?
        (requests count) with
    | none =>
      -- A fault is counted before the commit, and nothing is watched.
      obtain ⟨fault, found⟩ := Option.isSome_iff_exists.mp (watched?_eq_none_iff.mp watched)
      rw [progress_beforeCommit_of_fault found]
      exact ih.fail fault
    | some instruction =>
      rw [progress_beforeCommit_of_watched watched]
      exact ih.watch instruction

/-- In a run on a fresh bench, the cycles since the last start never get beyond the limit. -/
theorem Fresh.sinceStart_lt {bench : Bench D H M} (fresh : bench.Fresh) {requests : Nat → Bool}
    {count : Nat} (lasts : bench.Lasts requests count) :
    ∀ cycle ≤ count, sinceStart (bench.seen (fun _ => true) requests count) cycle < 2 ^ 64 := by
  -- Induction on the cycles: below the limit of the last question, then at most one more.
  induction count with
  | zero =>
    intro cycle within
    rw [sinceStart]
    omega
  | succ count ih =>
    have shorter := lasts.mono (Nat.le_succ count)
    have length := length_seen (fun _ => true) requests count bench
    intro cycle within
    rw [seen_succ]
    rcases Nat.le_succ_iff.mp within with earlier | last
    · rw [sinceStart_concat_of_le (by omega)]
      exact ih shorter cycle earlier
    · -- Before the last cycle, the counter was exact, and below the limit.
      have accounts := fresh.accounts (fun _ => true) requests count
      rw [steps_eq_after] at accounts
      have counted : (bench.after requests count).counter.cycles =
          UInt64.ofNat (sinceStart (bench.seen (fun _ => true) requests count) count) :=
        accounts.counter.trans (by rw [length])
      have before := ih shorter count (Nat.le_refl count)
      -- The run went on, so the counter, which is this number, was below its limit.
      have left : (bench.after requests count).counter.cycles < bench.settings.cycleLimit :=
        left_of_going (fresh.within shorter) (lasts count (Nat.lt_succ_self count))
      rw [counted, UInt64.lt_iff_toNat_lt, UInt64.toNat_ofNat_of_lt' before] at left
      have range := bench.settings.cycleLimit.toNat_lt
      have next := sinceStart_concat_length (bench.seen (fun _ => true) requests count)
        (((bench.steps (fun _ => true) requests count).ready true).watched? (requests count))
      rw [length] at next
      rw [last, next]
      -- A marker that ends in the last cycle starts over, and else it is one more.
      split <;> omega

/--
Cycles and runs on a fresh bench are accounted for exactly by the markers seen in them.

Cycles may be run one by one, unless they are so many that the counter could overflow.
-/
theorem accounted_of_fresh {bench : Bench D H M} (fresh : bench.Fresh) :
    (∀ asks requests, ∀ count < 2 ^ 64,
      let stepped := bench.steps asks requests count
      Accounted (bench.seen asks requests count)
        stepped.restarts stepped.benchmarks stepped.counter.cycles) ∧
    (∀ requests count, bench.Lasts requests count →
      let running := bench.after requests count
      Accounted (bench.seen (fun _ => true) requests count)
        running.restarts running.benchmarks running.counter.cycles) ∧
    (∀ requests limit late summary final,
      bench.run? requests limit late = some (summary, final) →
      ∃ count ≤ limit, bench.EndsAfter requests count ∧
        Accounted (bench.seen (fun _ => true) requests count)
          summary.restarts summary.benchmarks summary.cycles) := by
  -- A run goes on only below its limit, so it counts exactly however long it takes.
  have running : ∀ requests count, bench.Lasts requests count →
      Accounted (bench.seen (fun _ => true) requests count)
        (bench.after requests count).restarts (bench.after requests count).benchmarks
        (bench.after requests count).counter.cycles := by
    intro requests count lasts
    have accounts := fresh.accounts (fun _ => true) requests count
    rw [steps_eq_after] at accounts
    refine accounts.accounted ?_
    rw [length_seen]
    exact fresh.sinceStart_lt lasts
  refine ⟨?_, running, ?_⟩
  · -- No count of cycles can get beyond the number of all cycles.
    intro asks requests count short
    refine (fresh.accounts asks requests count).accounted ?_
    intro cycle within
    rw [length_seen] at within
    rw [sinceStart]
    omega
  · intro requests limit late summary final ran
    obtain ⟨count, within, ends, stopped, same, summed, -⟩ := summary_of_run ran
    refine ⟨count, within, ends, ?_⟩
    have account := running requests count ends.1
    -- Neither the last question nor a late request counts anything, and the summary takes over
    -- what was counted.
    have counted : stopped.progress = (bench.after requests count).progress := by
      rw [← same]
      exact (progress_requestStopIf late _).trans (progress_asked _)
    have restarts : summary.restarts = (bench.after requests count).restarts := by
      rw [summed]
      exact congrArg Progress.restarts counted
    have benchmarks : summary.benchmarks = (bench.after requests count).benchmarks := by
      rw [summed]
      exact congrArg Progress.benchmarks counted
    have cycles : summary.cycles = (bench.after requests count).counter.cycles := by
      rw [summed]
      exact congrArg (fun progress : Progress => progress.counter.cycles) counted
    rw [restarts, benchmarks, cycles]
    exact account

/-- A benchmark of five cycles, on a bench that stops twelve cycles after its start. -/
theorem accounted_of_benchmark :
    let bench := scriptedBench 12 { program := startMarker ++ 0x13 :: stopMarker } {}
    ∃ summary final, bench.run? (fun _ => false) 15 = some (summary, final) ∧
      summary.benchmarks = [5] ∧
      ∃ count ≤ 15, bench.EndsAfter (fun _ => false) count ∧
        Accounted (bench.seen (fun _ => true) (fun _ => false) count)
          summary.restarts summary.benchmarks summary.cycles :=
  -- The run is computed, and the fifteen cycles that it is given are more than enough.
  ⟨_, _, rfl, rfl, (accounted_of_fresh (fresh_scriptedBench 12 _ {})).2.2 _ _ false _ _ rfl⟩

end Steps

end Bench

end Testbench
