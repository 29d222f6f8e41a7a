import Testbench.Memory.Ideal
import Testbench.Proofs.Bench.Limit
import Testbench.Proofs.Bench.Scripted

/-! Runs end for the reason that their summary gives, but may learn of a failure too late. -/

namespace Testbench

/-- A summary and the host tell the same: success together, and a failure of the host as it is. -/
def Summary.Truthful {H : Type} [Host H] (host : H) (failed : Bool) (summary : Summary) : Prop :=
  (summary.exitStatus = 0 ↔
    Host.finished host = true ∧ Host.status host = 0 ∧ failed = false) ∧
  (Host.status host ≠ 0 → summary.exitStatus = Host.status host)

/-- A run is out of time when nothing else explains why it ended. -/
theorem Ending.of_eq_timedOut_iff {status : Int32} {failed finished : Bool} :
    Ending.of status failed finished = .timedOut ↔
      status = 0 ∧ failed = false ∧ finished = false := by
  -- The reasons are tried in their order, and each of them has to be missing.
  unfold Ending.of
  split
  · simp_all
  · cases failed <;> cases finished <;> simp_all

/-- Success is reported for completion only, since no host fails with the status zero. -/
theorem Ending.exitStatus_of_eq_zero_iff {status : Int32} {failed finished : Bool} :
    (Ending.of status failed finished).exitStatus = successStatus ↔
      Ending.of status failed finished = .completed := by
  -- With a satisfied host the four endings left are told apart by their statuses.
  by_cases satisfied : status = 0
  · cases failed <;> cases finished <;> simp [Ending.of, satisfied, Ending.exitStatus] <;> decide
  · -- Otherwise the status is that of the host, which is not zero.
    simp [Ending.of, satisfied, Ending.exitStatus, successStatus]

/-- A run has no failure line when it was completed. -/
theorem Summary.failureLine?_eq_none_iff {summary : Summary} :
    summary.failureLine? = none ↔ summary.ending = .completed := by
  -- Only completion is no failure, whatever is put into the line.
  unfold failureLine? Ending.isFailure
  cases summary.ending <;> simp

namespace Bench

section Stopping

variable {D H M : Type} [Host H]

/--
A host that fails only when it is told at the end, after its status was read.

A host that has not finished by then may fail with the status of a run that is out of time.
-/
def SpoiltByStop (bench : Bench D H M) : Prop :=
  bench.evaluationFault = none ∧ bench.stopOutstanding = true ∧
    Host.status bench.host = 0 ∧
    Host.status (Host.stop bench.host) ≠ 0 ∧
    (Host.finished (Host.stop bench.host) = true ∨
      Host.status (Host.stop bench.host) ≠ timeoutStatus)

/-- A host that reports a failure decides how the run ended, and is left alone. -/
theorem ending_of_status {bench : Bench D H M} (failed : Host.status bench.host ≠ 0) :
    bench.ending = .hostFailed (Host.status bench.host) ∧ bench.endHost = bench.host := by
  -- The status is looked at before anything else, so the host is not asked again.
  constructor
  · rw [ending, Ending.of, if_pos failed]
  · rw [endHost, if_neg fun both => failed both.1]

/-- A fault decides how a run ended when the host is satisfied, which is left alone then too. -/
theorem ending_of_fault {bench : Bench D H M} (satisfied : Host.status bench.host = 0)
    (fault : bench.evaluationFault.isSome = true) :
    bench.ending = .evaluationFailed ∧ bench.endHost = bench.host := by
  -- The fault is looked at before the host could be asked again.
  constructor
  · rw [ending, Ending.of, if_neg (not_not_intro satisfied), if_pos fault]
  · rw [endHost, if_neg fun both => by simp [both.2] at fault]

/-- Without a failure the host is told, and a run ended well if it has finished by then. -/
theorem ending_of_sound {bench : Bench D H M} (satisfied : Host.status bench.host = 0)
    (sound : bench.evaluationFault = none) :
    bench.ending = (if Host.finished bench.toldHost = true then .completed else .timedOut) ∧
      bench.endHost = bench.toldHost := by
  -- Here nothing but the question to the host is left to tell how the run ended.
  constructor
  · rw [ending, Ending.of, if_neg (not_not_intro satisfied), sound]
    rfl
  · rw [endHost, if_pos ⟨satisfied, sound⟩]

/--
A summary that goes by what the host said last is truthful if the host is satisfied.

It is right about a failure of the host only by accident, when it takes it for want of time.
-/
theorem truthful_of_answer {host : H} {summary : Summary}
    (answer : summary.ending = if Host.finished host = true then .completed else .timedOut) :
    summary.Truthful host false ↔
      Host.status host = 0 ∨
        Host.finished host = false ∧ Host.status host = timeoutStatus := by
  rw [Summary.Truthful, Summary.exitStatus, answer]
  have distinct : timeoutStatus ≠ 0 := by decide
  -- Only two endings are possible, and neither of them has the status of a failing host.
  cases finished : Host.finished host <;>
    by_cases satisfied : Host.status host = 0 <;>
      simp [Ending.exitStatus, successStatus, satisfied, distinct, eq_comm]

/-- The summary of a stopped run is truthful unless the host is spoilt by the stop. -/
theorem truthful_iff {traceRecords : Nat} {bench : Bench D H M} :
    (bench.summary bench.ending traceRecords).Truthful bench.endHost
        bench.evaluationFault.isSome ↔
      ¬ bench.SpoiltByStop := by
  by_cases satisfied : Host.status bench.host = 0
  · cases fault : bench.evaluationFault with
    | some found =>
      -- The status of a fault is not zero, and nothing is said about a satisfied host.
      obtain ⟨failed, alone⟩ := ending_of_fault satisfied (by rw [fault]; rfl)
      have distinct : evaluationStatus ≠ 0 := by decide
      simp [Summary.Truthful, Summary.exitStatus, summary, failed, alone, satisfied, SpoiltByStop,
        fault, Ending.exitStatus, distinct]
    | none =>
      obtain ⟨answered, told⟩ := ending_of_sound satisfied fault
      rw [Option.isSome_none, told, truthful_of_answer answered]
      -- A host that is not told anything at the end is still satisfied.
      cases outstanding : bench.stopOutstanding with
      | false => simp [toldHost, SpoiltByStop, outstanding, satisfied]
      | true =>
        simp only [toldHost, SpoiltByStop, outstanding, satisfied, fault, if_true, true_and]
        -- What remains is the status of the told host, and whether it has finished.
        by_cases content : Host.status (Host.stop bench.host) = 0
        · simp [content]
        · cases Host.finished (Host.stop bench.host) <;> simp [content]
  · -- The status of a host that fails by itself is passed on as it is.
    obtain ⟨failed, alone⟩ := ending_of_status satisfied
    simp [Summary.Truthful, Summary.exitStatus, summary, failed, alone, satisfied, SpoiltByStop,
      Ending.exitStatus]

/-- A host that has not finished when it is told late had not finished before, unless it goes on. -/
theorem unknown_of_unfinished {late : Bool} {bench : Bench D H M}
    (honest : late = true → Host.finished bench.host = true →
      Host.finished (Host.stop bench.host) = true)
    (unfinished : Host.finished (bench.requestStopIf late).toldHost = false) :
    bench.stopOutstanding = true ∨ Host.finished bench.toldHost = false := by
  cases outstanding : bench.stopOutstanding with
  | true => exact Or.inl rfl
  | false =>
    -- The host was not told, so its answer was its own.
    refine Or.inr ?_
    have alone : bench.toldHost = bench.host := by simp [toldHost, outstanding]
    rw [alone]
    cases requested : late with
    | false => simpa [requested, requestStopIf, alone] using unfinished
    | true =>
      cases forwarded : bench.link.stopForwarded with
      | true =>
        -- A host that was told before is not told again.
        have again : (bench.requestStopIf late).toldHost = bench.host := by
          simp [requestStopIf_eq, toldHost, stopOutstanding, forwarded]
        rwa [again] at unfinished
      | false =>
        have told : (bench.requestStopIf late).toldHost = Host.stop bench.host := by
          simp [requestStopIf_eq, toldHost, stopOutstanding, forwarded, requested]
        rw [told] at unfinished
        -- Had it finished before, it would not have gone on.
        cases finished : Host.finished bench.host with
        | false => rfl
        | true => exact (honest requested finished).symm.trans unfinished

end Stopping

section Run

variable {D H M : Type} [Design D] [Host H] [Memory M]

/-- A run that ends after some cycles, within its limit and for the reason its summary gives. -/
structure EndsAsReported (requests : Nat → Bool) (late : Bool) (cycles : Nat)
    (summary : Summary) (bench : Bench D H M) : Prop where
  ends : bench.EndsAfter requests cycles
  /-- Between its cycles, the counter is within the limit. -/
  within : ∀ cycle ≤ cycles,
    (bench.after requests cycle).counter.cycles ≤ bench.settings.cycleLimit
  /-- Within a cycle, the counter stays below the limit, so a commit advances it by one. -/
  commits : ∀ cycle < cycles,
    let committing := (bench.after requests cycle).asked.beforeCommit (requests cycle)
    committing.counter.cycles < bench.settings.cycleLimit ∧
      (bench.after requests (cycle + 1)).counter.cycles.toNat =
        committing.counter.cycles.toNat + 1
  /-- Only in its last cycle can the design fail to settle. -/
  last : ∀ cycle < cycles,
    (bench.after requests cycle).asked.faultIn.isSome = true → cycle + 1 = cycles
  /-- The reason is the status of the host, else a fault, and else the answer of a told host. -/
  reason :
    let stopped := (bench.after requests cycles).asked.requestStopIf late
    summary.ending = .of (Host.status stopped.host) (bench.failsWithin requests cycles)
      (Host.finished stopped.toldHost)
  /--
  A run is out of time at the limit only.

  The exception is a host that had finished, and that goes on when it is told to finish late.
  -/
  timedOut : summary.ending = .timedOut →
    let host := (bench.after requests cycles).asked.host
    (late = true → Host.finished host = true → Host.finished (Host.stop host) = true) →
      summary.cycles = bench.settings.cycleLimit

variable {requests : Nat → Bool} {limit cycles : Nat} {late : Bool} {bench final : Bench D H M}
variable {summary : Summary}

/-- The fault on the bench on which a run stopped tells whether a cycle of it failed. -/
theorem Fresh.failsWithin_stopped (fresh : bench.Fresh) (late : Bool)
    (lasts : bench.Lasts requests cycles) :
    bench.failsWithin requests cycles =
      ((bench.after requests cycles).asked.requestStopIf late).evaluationFault.isSome := by
  -- Neither the last question nor a late request has anything to do with faults.
  have counted :=
    (progress_requestStopIf late _).trans (progress_asked (bench.after requests cycles))
  rw [fresh.failsWithin_eq lasts]
  exact congrArg (fun progress : Progress => progress.fault.isSome) counted.symm

/--
A run that stops without a fault, while its host is not known to have finished, is at the limit.

Neither the status of the host nor an answer of a host that is told only now matters.
-/
theorem Fresh.counter_eq_limit (fresh : bench.Fresh) (ends : bench.EndsAfter requests cycles)
    (sound : (bench.after requests cycles).asked.evaluationFault = none)
    (unknown : (bench.after requests cycles).asked.stopOutstanding = true ∨
      Host.finished (bench.after requests cycles).asked.toldHost = false) :
    (bench.after requests cycles).asked.counter.cycles = bench.settings.cycleLimit := by
  have within := fresh.within ends.1
  rw [← progress_asked] at within
  have budget : (bench.after requests cycles).asked.budget = bench.settings.cycleLimit :=
    within.budget sound
  rcases asked_of_stop ends.2 with fault | used | ⟨told, finished⟩
  · simp [sound] at fault
  · -- The budget is used up, and it still is the limit.
    rw [budget] at used
    exact UInt64.le_antisymm within.counter used
  · -- The host was told and has finished, so its answer is known.
    have alone : (bench.after requests cycles).asked.toldHost =
        (bench.after requests cycles).asked.host := by simp [toldHost, told]
    rw [told, alone, finished] at unknown
    simp at unknown

/-- A run ends with its counter within the limit, and for the reason that its summary gives. -/
theorem ending_of_run (fresh : bench.Fresh)
    (ran : bench.run? requests limit late = some (summary, final)) :
    ∃ cycles ≤ limit, bench.EndsAsReported requests late cycles summary := by
  obtain ⟨cycles, short, ends, stopped, same, summed, -⟩ := summary_of_run ran
  have failed := fresh.failsWithin_stopped late ends.1
  have reason : summary.ending = stopped.ending := by rw [summed]; rfl
  rw [same] at failed
  refine ⟨cycles, short, ?_⟩
  constructor
  case ends => exact ends
  case within =>
    intro cycle earlier
    exact (fresh.within (ends.1.mono earlier)).counter
  case commits =>
    intro cycle earlier
    exact fresh.commits ends.1 earlier
  case last =>
    intro cycle earlier fails
    exact fresh.succ_eq_of_fault ends.1 earlier fails
  case reason =>
    rw [reason, failed, same]
    rfl
  case timedOut =>
    intro timedOut host honest
    -- A run out of time has neither a fault nor a host that has finished once it was told.
    rw [reason, ending, Ending.of_eq_timedOut_iff, ← same] at timedOut
    obtain ⟨-, sound, unfinished⟩ := timedOut
    -- Had the host finished by itself, it would have finished when told, as it is honest.
    have unknown := unknown_of_unfinished honest unfinished
    rw [summed, ← same, requestStopIf_eq]
    rw [requestStopIf_eq] at sound
    exact fresh.counter_eq_limit ends (by simpa using sound) unknown

/-- A run that nothing stops is out of time at its limit, and a late request completes it there. -/
theorem ending_of_idle_run :
    let bench := scriptedBench 2 {} {}
    let requests := fun _ => false
    (∃ summary final, bench.run? requests 3 = some (summary, final) ∧
      summary.ending = .timedOut ∧ summary.cycles = 2 ∧
      ∃ cycles ≤ 3, bench.EndsAsReported requests false cycles summary) ∧
    ∃ summary final, bench.run? requests 3 true = some (summary, final) ∧
      summary.ending = .completed ∧
      ∃ cycles ≤ 3, bench.EndsAsReported requests true cycles summary := by
  intro bench requests
  have fresh : bench.Fresh := fresh_scriptedBench 2 {} {}
  -- Both runs are computed, the second one with a stop that comes after the last question.
  have idle : (bench.run? requests 3).map (fun run => (run.1.ending, run.1.cycles)) =
      some (.timedOut, 2) := by decide +kernel
  have told : (bench.run? requests 3 true).map (fun run => run.1.ending) = some .completed := by
    decide +kernel
  obtain ⟨⟨summary, final⟩, ran, ended⟩ := Option.map_eq_some_iff.mp idle
  obtain ⟨⟨later, last⟩, ranOn, completed⟩ := Option.map_eq_some_iff.mp told
  obtain ⟨timedOut, cycles⟩ := Prod.mk.inj ended
  exact ⟨⟨summary, final, ran, timedOut, cycles, ending_of_run fresh ran⟩,
    later, last, ranOn, completed, ending_of_run fresh ranOn⟩

/--
The summary of a run is truthful unless its host is spoilt by a stop.

A stop that was requested before the run stopped can spoil it at the limit only.
-/
theorem truthful_of_run_iff (fresh : bench.Fresh)
    (ran : bench.run? requests limit late = some (summary, final)) :
    ∃ cycles ≤ limit, bench.EndsAfter requests cycles ∧
      (summary.exitStatus = successStatus ↔ summary.failureLine? = none) ∧
      (summary.Truthful final.host (bench.failsWithin requests cycles) ↔
        ¬ ((bench.after requests cycles).asked.requestStopIf late).SpoiltByStop) ∧
      ((bench.after requests cycles).asked.SpoiltByStop →
        (bench.after requests cycles).asked.counter.cycles = bench.settings.cycleLimit) := by
  obtain ⟨cycles, short, ends, stopped, same, summed, host⟩ := summary_of_run ran
  refine ⟨cycles, short, ends, ?_, ?_, ?_⟩
  · -- The status and the line both go by the ending alone.
    rw [Summary.failureLine?_eq_none_iff, summed]
    exact Ending.exitStatus_of_eq_zero_iff
  · -- The bench that is summed up has the late request, if there is one.
    rw [summed, host, fresh.failsWithin_stopped late ends.1, same]
    exact truthful_iff
  · -- A stop that is outstanding after the question shows that the question was left out.
    rintro ⟨sound, outstanding, -⟩
    exact fresh.counter_eq_limit ends sound (Or.inl outstanding)

/-- A stop in the first of two cycles comes early enough for the status of the host to count. -/
theorem truthful_of_early_stop :
    ∃ summary final,
      (scriptedBench 2 {} { lastStatus := 5 }).run? (· == 0) 2 = some (summary, final) ∧
      summary.exitStatus = 5 ∧
      ∃ cycles ≤ 2,
        let bench := scriptedBench 2 {} { lastStatus := 5 }
        bench.EndsAfter (· == 0) cycles ∧
        (summary.exitStatus = successStatus ↔ summary.failureLine? = none) ∧
        (summary.Truthful final.host (bench.failsWithin (· == 0) cycles) ↔
          ¬ ((bench.after (· == 0) cycles).asked.requestStopIf false).SpoiltByStop) ∧
        ((bench.after (· == 0) cycles).asked.SpoiltByStop →
          (bench.after (· == 0) cycles).asked.counter.cycles = bench.settings.cycleLimit) :=
  -- The host is told before its status is read, and the run is computed.
  ⟨_, _, rfl, rfl, truthful_of_run_iff (fresh_scriptedBench 2 {} { lastStatus := 5 }) rfl⟩

/-- A stop in the second of two cycles makes the host fail, and the run is reported a success. -/
theorem untruthful_of_late_stop :
    (scriptedBench 2 {} { lastStatus := 5 }).Fresh ∧
    ∃ summary final,
      (scriptedBench 2 {} { lastStatus := 5 }).run? (· == 1) 2 = some (summary, final) ∧
      Host.status final.host = 5 ∧ summary.exitStatus = successStatus ∧
      summary.failureLine? = none ∧ ∀ failed, ¬ summary.Truthful final.host failed := by
  refine ⟨fresh_scriptedBench 2 {} { lastStatus := 5 }, _, _, rfl, rfl, rfl, rfl, ?_⟩
  intro failed truthful
  -- The status of the host is not passed on.
  have passed := truthful.2 (by decide)
  exact absurd passed (by decide)

end Run

end Bench

end Testbench
