import Testbench.Proofs.Bench.Progress

/-! What a run asks its host, and what the summary makes of the answers. -/

namespace Testbench

/-- How a run ended, by the host's status, a fault of the design, and whether the host finished. -/
def Ending.of (status : Int32) (failed finished : Bool) : Ending :=
  if status ≠ 0 then .hostFailed status
  else if failed then .evaluationFailed
  else if finished then .completed
  else .timedOut

namespace Bench

variable {D H M : Type} [Host H]

/-- A stop was requested, and the host was not told yet. -/
def stopOutstanding (bench : Bench D H M) : Bool :=
  bench.link.stopRequested && !bench.link.stopForwarded

/-- The host once an outstanding stop was forwarded to it. -/
def toldHost (bench : Bench D H M) : H :=
  if bench.stopOutstanding then Host.stop bench.host else bench.host

/-- The bench once an outstanding stop was forwarded to the host, with its journal. -/
def told (journal : Journal) (bench : Bench D H M) : Bench D H M :=
  { bench with
    host := bench.toldHost
    link := { bench.link with
      stopForwarded := bench.link.stopForwarded || bench.link.stopRequested }
    journal }

/-- The host is asked whether it has finished after an outstanding stop was forwarded. -/
theorem hostFinished_eq (bench : Bench D H M) :
    ∃ journal, bench.hostFinished = (Host.finished bench.toldHost, bench.told journal) := by
  refine ⟨bench.hostFinished.2.journal, ?_⟩
  unfold hostFinished Host.Connection.finished Host.Connection.forwardStop told toldHost
    stopOutstanding
  -- A stop is forwarded when it is requested and was not forwarded before.
  cases link : bench.link with
  | mk frameBytes pending word requested forwarded tally =>
    cases requested <;> cases forwarded <;> simp [connection, withConnection, link]

/-- The host is asked in a run without a fault and with cycles left, and otherwise left alone. -/
theorem mayContinue_cases (bench : Bench D H M) :
    (bench.evaluationFault = none ∧ bench.counter.cycles < bench.budget ∧
      ∃ journal, bench.mayContinue = (!Host.finished bench.toldHost, bench.told journal)) ∨
    ((bench.evaluationFault.isSome = true ∨ bench.budget ≤ bench.counter.cycles) ∧
      bench.mayContinue = (false, bench)) := by
  -- The host is the last one to be asked.
  cases fault : bench.evaluationFault with
  | some found => exact Or.inr ⟨Or.inl rfl, by simp [mayContinue, fault]⟩
  | none =>
    by_cases left : bench.counter.cycles < bench.budget
    · obtain ⟨journal, answer⟩ := bench.hostFinished_eq
      exact Or.inl ⟨rfl, left, journal, by simp [mayContinue, fault, left, answer]⟩
    · exact Or.inr ⟨Or.inr (UInt64.not_lt.mp left), by simp [mayContinue, fault, left]⟩

/-- A run that goes on has no fault and has cycles left. -/
theorem going_of_mayContinue {bench : Bench D H M} (going : bench.mayContinue.1 = true) :
    bench.evaluationFault = none ∧ bench.counter.cycles < bench.budget := by
  rcases bench.mayContinue_cases with ⟨sound, left, -⟩ | ⟨-, same⟩
  · exact ⟨sound, left⟩
  · -- Without the question the answer is always to stop.
    rw [same] at going
    cases going

/-- Asking whether to go on may tell the host, and goes into the journal. -/
theorem asked_eq (bench : Bench D H M) :
    ∃ stopForwarded host journal, bench.asked =
      { bench with host, journal, link := { bench.link with stopForwarded } } := by
  rcases bench.mayContinue_cases with ⟨-, -, journal, same⟩ | ⟨-, same⟩
  · -- A host that is asked is told first, if a stop is outstanding.
    refine ⟨bench.link.stopForwarded || bench.link.stopRequested, bench.toldHost, journal, ?_⟩
    rw [asked, same]
    rfl
  · -- Without the question the bench is as it was.
    refine ⟨bench.link.stopForwarded, bench.host, bench.journal, ?_⟩
    rw [asked, same]

/-- Asking counts nothing. -/
theorem progress_asked (bench : Bench D H M) : bench.asked.progress = bench.progress := by
  obtain ⟨_, _, _, same⟩ := bench.asked_eq
  -- What the host is told and what it answers are no part of the progress.
  rw [same]
  rfl

/-- A told host is not told again. -/
theorem stopOutstanding_told (journal : Journal) (bench : Bench D H M) :
    (bench.told journal).stopOutstanding = false := by
  simp only [stopOutstanding, told]
  -- Without a request there is nothing to forward, and a request was forwarded just now.
  cases bench.link.stopRequested <;> simp

/-- A run stops for a fault, for want of cycles, or because a host told to finish has finished. -/
theorem asked_of_stop {bench : Bench D H M} (stops : bench.mayContinue.1 = false) :
    bench.asked.evaluationFault.isSome = true ∨
      bench.asked.budget ≤ bench.asked.counter.cycles ∨
      bench.asked.stopOutstanding = false ∧ Host.finished bench.asked.host = true := by
  rcases bench.mayContinue_cases with ⟨-, -, journal, same⟩ | ⟨fault | used, same⟩
  · -- With no other reason to stop, the host must have finished.
    rw [same] at stops
    rw [asked, same]
    exact Or.inr (Or.inr ⟨stopOutstanding_told journal bench, by simpa [told] using stops⟩)
  · rw [asked, same]
    exact Or.inl fault
  · rw [asked, same]
    exact Or.inr (Or.inl used)

/-- How a run that stopped on a bench ends: by its host and its fault. -/
def ending (bench : Bench D H M) : Ending :=
  .of (Host.status bench.host) bench.evaluationFault.isSome (Host.finished bench.toldHost)

/-- The host is told at the end only if neither its status nor a fault settles how the run ended. -/
def endHost (bench : Bench D H M) : H :=
  if Host.status bench.host = 0 ∧ bench.evaluationFault = none then bench.toldHost else bench.host

/-- Finding out how a run ended may tell the host, and goes into the journal. -/
theorem findEnding_eq (bench : Bench D H M) :
    ∃ link journal, link.tally = bench.link.tally ∧
      bench.findEnding = (bench.ending, { bench with host := bench.endHost, link, journal }) := by
  -- The status comes first, then a fault, and only then the answer of the host.
  let asked := bench.call (.status (Host.status bench.host))
  by_cases satisfied : Host.status bench.host = 0
  · by_cases sound : bench.evaluationFault = none
    · -- Only here is the host asked again, as it was before each cycle.
      obtain ⟨journal, answer⟩ := asked.hostFinished_eq
      have same : asked.toldHost = bench.toldHost := rfl
      have opened : bench.findEnding =
          (if Host.finished bench.toldHost then .completed else .timedOut, asked.told journal) := by
        rw [findEnding, if_neg (by simpa using satisfied), if_neg (by simp [sound]), answer, same]
        cases Host.finished bench.toldHost <;> rfl
      have ended : bench.ending =
          if Host.finished bench.toldHost then .completed else .timedOut := by
        simp [ending, Ending.of, satisfied, sound]
      have host : bench.endHost = bench.toldHost := by simp [endHost, satisfied, sound]
      refine ⟨(asked.told journal).link, journal, rfl, ?_⟩
      rw [opened, ended, host]
      rfl
    · have fault : bench.evaluationFault.isSome = true := Option.isSome_iff_ne_none.mpr sound
      refine ⟨bench.link, asked.journal, rfl, ?_⟩
      simp [findEnding, ending, Ending.of, endHost, satisfied, sound, fault, asked, call]
  · refine ⟨bench.link, asked.journal, rfl, ?_⟩
    simp [findEnding, ending, Ending.of, endHost, satisfied, asked, call]

/-- Winding a run down sums up what is on its bench, and may tell the host. -/
theorem finish_eq (bench : Bench D H M) :
    bench.finish.1 = bench.summary bench.ending bench.traceRecords ∧
      bench.finish.2.host = bench.endHost := by
  obtain ⟨recorder, sinks, remarks, closed⟩ := bench.closeTrace_eq
  obtain ⟨sinks', remarks', flushed⟩ := bench.closeTrace.flushNotices_eq
  obtain ⟨link, journal, same, found⟩ := bench.closeTrace.flushNotices.findEnding_eq
  -- Neither closing the trace nor flushing the notices touches what is summed up.
  rw [flushed, closed] at found same
  have whole : bench.finish =
      (summary bench.ending bench.traceRecords { bench with
          host := bench.endHost, link, recorder, sinks := sinks', journal },
        remark (.runFinished bench.ending bench.counter.cycles) { bench with
          host := bench.endHost, link, recorder, sinks := sinks', journal }) := by
    rw [finish, flushed, closed, found]
    rfl
  rw [whole]
  refine ⟨?_, rfl⟩
  simp only [summary, same]

/-- Winding a run down may tell the host, and neither counts nor touches a channel. -/
theorem finish_snd_eq (bench : Bench D H M) :
    ∃ link recorder sinks journal, bench.finish.2 =
      { bench with host := bench.endHost, link, recorder, sinks, journal } := by
  -- The trace is closed first, then the notices are flushed, and then the ending is found.
  obtain ⟨recorder, _, _, closed⟩ := bench.closeTrace_eq
  obtain ⟨sinks, _, flushed⟩ := bench.closeTrace.flushNotices_eq
  obtain ⟨link, journal, -, found⟩ := bench.closeTrace.flushNotices.findEnding_eq
  rw [finish, found, flushed, closed]
  exact ⟨link, recorder, sinks, _, rfl⟩

section Run

variable {D : Type} [Design D] [Memory M]

/--
A run that returns has ended after some cycles, and sums up the bench on which it stopped.

A late request has reached that bench, but has not been looked at yet.
-/
theorem summary_of_run {requests : Nat → Bool} {limit : Nat} {late : Bool}
    {bench final : Bench D H M} {summary : Summary}
    (ran : bench.run? requests limit late = some (summary, final)) :
    ∃ cycles ≤ limit, bench.EndsAfter requests cycles ∧
      ∃ stopped, (bench.after requests cycles).asked.requestStopIf late = stopped ∧
        summary = stopped.summary stopped.ending stopped.traceRecords ∧
        final.host = stopped.endHost := by
  -- The bench that is wound down is the one that was asked last, with a late request on its link.
  obtain ⟨cycles, short, ends, finished⟩ := run?_eq_some_iff.mp ran
  obtain ⟨summed, host⟩ := ((bench.after requests cycles).asked.requestStopIf late).finish_eq
  rw [finished] at summed host
  exact ⟨cycles, short, ends, _, rfl, summed, host⟩

end Run

end Bench

end Testbench
