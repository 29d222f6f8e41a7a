import Testbench.Proofs.Bench.Requests
import Testbench.Proofs.Bench.Resetting

/-! A request to stop reaches the host once, between cycles, and ends the run if the host obeys. -/

namespace Testbench.Bench

section Account

variable {D H M : Type} {bench : Bench D H M}

/-- The host was told to finish as often as the link knows of, and not without a request. -/
structure ToldOnce (bench : Bench D H M) : Prop where
  count : bench.journal.callsInOrder.count .stop = bench.link.stopForwarded.toNat
  requested : bench.link.stopForwarded = true → bench.link.stopRequested = true

/-- The host was told at most once, and not at all without a request. -/
theorem ToldOnce.count_le (told : bench.ToldOnce) :
    bench.journal.callsInOrder.count .stop ≤ bench.link.stopRequested.toNat := by
  -- The link remembers what was forwarded, and that only follows on a request.
  rw [told.count]
  cases forwarded : bench.link.stopForwarded with
  | false => simp
  | true => simp [told.requested forwarded]

/-- As long as no stop is requested, the host was not told to finish. -/
theorem ToldOnce.unforwarded (told : bench.ToldOnce)
    (unrequested : bench.link.stopRequested = false) : bench.link.stopForwarded = false := by
  -- Telling without a request would break the account.
  by_contra forwarded
  have requested := told.requested (by simpa using forwarded)
  simp [unrequested] at requested

/-- On an assembled bench, nobody was told anything. -/
theorem toldOnce_of_assemble [Design D] {settings : Settings} {design : D} {host : H}
    {memories : List M} (assembled : assemble settings design host memories = .ok bench) :
    bench.ToldOnce := by
  -- Its journal is empty, and its link new.
  obtain ⟨-, size, rfl⟩ := eq_of_assemble assembled
  exact ⟨rfl, nofun⟩

/-- A request that may be made is on the link afterwards, like the one before. -/
theorem stopRequested_requestStopIf (requested : Bool) (bench : Bench D H M) :
    (bench.requestStopIf requested).link.stopRequested =
      (bench.link.stopRequested || requested) := by
  -- The flag of the link is raised by the request and never lowered.
  rw [requestStopIf_eq]

/-- A request tells the host nothing, and may come at any time. -/
theorem ToldOnce.requestStopIf (told : bench.ToldOnce) (requested : Bool) :
    (bench.requestStopIf requested).ToldOnce := by
  rw [requestStopIf_eq]
  -- Neither the journal nor what was forwarded changes, and a request only adds.
  refine ⟨told.count, fun forwarded => ?_⟩
  simp [told.requested forwarded]

end Account

section Ending

variable {D H M : Type} [Host H]

/-- What a report and a question to the host preserve is preserved by finding out the ending. -/
theorem findEnding_preserves (holds : Bench D H M → Prop)
    (reports : ∀ bench status, holds bench → holds (bench.call (.status status)))
    (asks : ∀ bench, holds bench → holds bench.hostFinished.2) {bench : Bench D H M}
    (before : holds bench) : holds bench.findEnding.2 := by
  have reported := reports bench (Host.status bench.host) before
  have asked := asks _ reported
  unfold findEnding
  simp only
  split
  · exact reported
  · split
    · exact reported
    · -- The bench is handed back as it was asked, whatever the answer.
      split
      · rename_i told answer
        simpa only [answer] using asked
      · rename_i told answer
        simpa only [answer] using asked

/-- A question to the host leaves the request as it is. -/
theorem stopRequested_hostFinished (bench : Bench D H M) :
    bench.hostFinished.2.link.stopRequested = bench.link.stopRequested := by
  obtain ⟨journal, same⟩ := bench.hostFinished_eq
  -- Forwarding sets another flag than the one of the request.
  rw [same]
  rfl

/-- Asking whether to go on leaves the request as it is. -/
theorem stopRequested_asked (bench : Bench D H M) :
    bench.asked.link.stopRequested = bench.link.stopRequested := by
  obtain ⟨_, _, _, same⟩ := bench.asked_eq
  -- A question may change whether the stop was forwarded, not whether it was requested.
  rw [same]

/-- Winding a run down leaves the request as it is. -/
theorem stopRequested_finish (bench : Bench D H M) :
    bench.finish.2.link.stopRequested = bench.link.stopRequested := by
  -- Closing the trace and flushing the notices are none of the link's business.
  obtain ⟨_, _, _, closed⟩ := bench.closeTrace_eq
  obtain ⟨_, _, flushed⟩ := bench.closeTrace.flushNotices_eq
  have ended : bench.closeTrace.flushNotices.findEnding.2.link.stopRequested =
      bench.link.stopRequested := by
    apply findEnding_preserves fun after : Bench D H M =>
      after.link.stopRequested = bench.link.stopRequested
    case reports => exact fun _ _ same => same
    case asks => exact fun after same => (stopRequested_hostFinished after).trans same
    case before => rw [flushed, closed]
  exact ended

/-- A host that was told of one request is not told of a later one. -/
theorem stopOutstanding_requestStopIf_told {journal : Journal} {late : Bool} {bench : Bench D H M}
    (outstanding : bench.stopOutstanding = true) :
    ((bench.told journal).requestStopIf late).stopOutstanding = false := by
  -- The first request was forwarded, which happens once.
  rw [stopOutstanding, Bool.and_eq_true] at outstanding
  simp [requestStopIf_eq, stopOutstanding, told, outstanding.1]

/-- The host that finishes when it is told decides by its status how the run ended. -/
theorem ending_asked_of_outstanding {bench : Bench D H M} (late : Bool)
    (outstanding : bench.stopOutstanding = true) (sound : bench.evaluationFault = none)
    (left : bench.counter.cycles < bench.budget)
    (finished : Host.finished (Host.stop bench.host) = true) :
    (bench.asked.requestStopIf late).ending =
      if Host.status (Host.stop bench.host) = 0 then .completed
      else .hostFailed (Host.status (Host.stop bench.host)) := by
  rcases bench.mayContinue_cases with ⟨-, -, journal, answer⟩ | ⟨fault | used, -⟩
  · have told : bench.asked = bench.told journal := by rw [asked, answer]
    have host : (bench.told journal).host = Host.stop bench.host := by
      rw [Bench.told, toldHost, if_pos outstanding]
    -- The host is not told again, so its answer and its status are those after the stop.
    have once : ((bench.told journal).requestStopIf late).toldHost = Host.stop bench.host := by
      rw [toldHost, stopOutstanding_requestStopIf_told outstanding, requestStopIf_eq, ← host]
      rfl
    have same : ((bench.told journal).requestStopIf late).host = Host.stop bench.host := by
      rw [requestStopIf_eq, ← host]
    have still : ((bench.told journal).requestStopIf late).evaluationFault = none := by
      rw [requestStopIf_eq]
      exact sound
    rw [told, ending, same, once, still, finished]
    unfold Ending.of
    split <;> simp_all
  · -- The other two reasons to stop are ruled out: no fault, and cycles are left.
    simp [sound] at fault
  · exact absurd left (UInt64.not_lt.mpr used)

end Ending

section Telling

variable {D H M : Type} [Design D] [Host H] [Memory M]
variable {bench after : Bench D H M} {calls : List Call}

/-- Calls among which the host is not told to finish leave the account as it is. -/
theorem ToldOnce.of_makes (told : bench.ToldOnce) (made : Makes calls bench after)
    (silent : .stop ∉ calls) (forwarded : after.link.stopForwarded = bench.link.stopForwarded)
    (requested : bench.link.stopRequested = true → after.link.stopRequested = true) :
    after.ToldOnce where
  count := by
    -- The journal grows by calls without a stop, so the count stays.
    rw [made.noted, List.count_append, List.count_eq_zero.mpr silent, forwarded, told.count,
      Nat.add_zero]
  requested := by
    rw [forwarded]
    exact fun before => requested (told.requested before)

/-- Calls up to here tell the host once at most, and not at all without a request. -/
theorem ToldOnce.count_le_of_makes (told : after.ToldOnce) (made : Makes calls bench after) :
    calls.count .stop ≤ after.link.stopRequested.toNat := by
  -- The journal may hold earlier calls as well, and still has no more than one.
  have counted := told.count_le
  rw [made.noted, List.count_append] at counted
  exact Nat.le_trans (Nat.le_add_left _ _) counted

/-- A question to the host first forwards a request that is outstanding. -/
theorem ToldOnce.hostFinished (told : bench.ToldOnce) : bench.hostFinished.2.ToldOnce := by
  obtain ⟨journal, same⟩ := bench.hostFinished_eq
  have noted := bench.makes_hostFinished.noted
  have forwarded : bench.hostFinished.2.link.stopForwarded =
      (bench.link.stopForwarded || bench.link.stopRequested) := by rw [same]; rfl
  have requested := bench.stopRequested_hostFinished
  have earlier := told.requested
  constructor
  case count =>
    -- A request counts once: either it was forwarded before, or it is outstanding.
    rw [noted, List.count_append, told.count, forwarded, Question.calls, stopOutstanding]
    cases stop : bench.link.stopRequested <;> cases sent : bench.link.stopForwarded <;>
      simp [stop, sent] at earlier ⊢
  case requested =>
    rw [forwarded, requested, Bool.or_eq_true]
    rintro (before | now)
    · exact earlier before
    · exact now

/-- Asking whether to go on keeps the account. -/
theorem ToldOnce.asked (told : bench.ToldOnce) : bench.asked.ToldOnce := by
  unfold Bench.asked mayContinue
  -- The question is the only part that may tell the host.
  split
  · exact told.hostFinished
  · exact told

/-- A cycle tells the host nothing. -/
theorem ToldOnce.step {count : Nat} (told : bench.ToldOnce) (wired : bench.Wired count)
    (requested : Bool) : (bench.step requested).ToldOnce := by
  -- No call of a cycle is among those that ask the host to go on.
  obtain ⟨printed?, dumped?, made⟩ := makes_step requested fun _ => wired
  obtain ⟨request, forwarded⟩ := bench.stop_step requested
  refine told.of_makes made ?_ forwarded ?_
  · intro tells
    exact Cycle.purpose_ne_ask_of_mem tells rfl
  · intro before
    simp [request, before]

/-- A reset tells the host nothing. -/
theorem ToldOnce.reset (told : bench.ToldOnce) : bench.reset.2.ToldOnce := by
  obtain ⟨calls, made, inReset⟩ := bench.makes_reset
  have link : bench.reset.2.link = bench.link := by
    obtain ⟨_, _, same⟩ := bench.reset_snd_eq
    rw [same]
  -- The calls of a reset settle and commit, so no stop is among them.
  refine told.of_makes made ?_ (by rw [link]) (by simp [link])
  intro tells
  simpa [Call.inReset] using inReset .stop tells

/-- Winding a run down keeps the account. -/
theorem ToldOnce.finish (told : bench.ToldOnce) : bench.finish.2.ToldOnce := by
  obtain ⟨_, _, _, closed⟩ := bench.closeTrace_eq
  obtain ⟨_, _, flushed⟩ := bench.closeTrace.flushNotices_eq
  have quiet : bench.closeTrace.flushNotices.ToldOnce := by
    refine told.of_makes bench.makes_flushes (by simp) ?_ ?_ <;> rw [flushed, closed]
    exact id
  have ended : bench.closeTrace.flushNotices.findEnding.2.ToldOnce := by
    apply findEnding_preserves ToldOnce
    case reports =>
      intro before status told
      refine ⟨?_, told.requested⟩
      -- A report is noted as one more call, which is another one.
      show (before.journal.call (.status status)).callsInOrder.count .stop = _
      rw [Journal.callsInOrder_call, List.count_append, told.count]
      rfl
    case asks => exact fun before told => told.hostFinished
    case before => exact quiet
  exact ⟨ended.count, ended.requested⟩

/-- Whatever is done on a bench, its host is told to finish once at most. -/
theorem Reached.toldOnce {count : Nat} {start : Bench D H M} (reached : start.Reached bench)
    (wired : start.Wired count) (told : start.ToldOnce) : bench.ToldOnce := by
  -- Equipping a bench and requesting a stop make no calls, and a request may come at any time.
  induction reached with
  | start => exact told
  | attach _ _ _ ih => exact ⟨ih.count, ih.requested⟩
  | requestStop _ ih => exact ⟨ih.count, fun _ => rfl⟩
  | reset _ ih => exact ih.reset
  | ask _ ih => exact ih.asked
  | step before requested ih => exact ih.step (before.wired wired) requested
  | finish _ ih => exact ih.finish

end Telling

section Run

variable {D H M : Type} [Design D] [Host H] [Memory M]

/-- A stop was requested by the time when a run comes to a cycle. -/
def requestedBefore (requests : Nat → Bool) (cycle : Nat) (bench : Bench D H M) : Bool :=
  bench.link.stopRequested || (List.range cycle).any requests

/--
The request that a run finds when it comes to a cycle was made just before.

It was made in the last cycle as the first one, or before the run and not forwarded yet.
-/
def NewlyRequested (requests : Nat → Bool) (cycle : Nat) (bench : Bench D H M) : Prop :=
  match cycle with
  | 0 => bench.stopOutstanding = true
  | last + 1 => bench.requestedBefore requests last = false ∧ requests last = true

/-- A new request waits when a run comes to a cycle, which nothing else keeps it from. -/
structure Due (requests : Nat → Bool) (cycle : Nat) (bench : Bench D H M) : Prop where
  lasts : bench.Lasts requests cycle
  requested : bench.NewlyRequested requests cycle
  sound : (bench.after requests cycle).evaluationFault = none
  left : (bench.after requests cycle).counter.cycles < (bench.after requests cycle).budget

/-- How a run on a bench with some channels heeds the requests to stop. -/
structure Heeds (channels : Nat) (requests : Nat → Bool) (bench : Bench D H M) : Prop where
  /-- Up to any cycle, the host is told at most once, and only after a request. -/
  told : ∀ cycles, bench.Lasts requests cycles → ∃ calls,
    Makes calls bench (bench.after requests cycles).asked ∧
      calls.count .stop ≤ (bench.requestedBefore requests cycles).toNat
  /-- The same holds of a whole run, up to the last question to the host. -/
  toldAll : ∀ limit late summary final, bench.run? requests limit late = some (summary, final) →
    ∃ cycles ≤ limit, bench.EndsAfter requests cycles ∧ ∃ calls, Makes calls bench final ∧
      calls.count .stop ≤ (bench.requestedBefore requests cycles || late).toNat
  /-- A cycle in which a stop is requested makes all its calls, and does all that it would do. -/
  finishes : ∀ cycle, bench.Lasts requests (cycle + 1) → requests cycle = true →
    let before := (bench.after requests cycle).asked
    bench.after requests (cycle + 1) = (before.step false).requestStop ∧
      ∃ phases : Cycle, phases.Covers channels true before ∧
        Makes phases.calls before (bench.after requests (cycle + 1))
  /-- A request that is due is forwarded before another cycle, and before the host is asked. -/
  forwards : ∀ cycle, bench.Due requests cycle →
    let before := bench.after requests cycle
    Makes [.stop, .finished (Host.finished (Host.stop before.host))] before before.asked
  /-- A host that finishes when it is told ends the run there. -/
  ends : ∀ cycle, bench.Due requests cycle →
    let before := bench.after requests cycle
    let told := Host.stop before.host
    Host.finished told = true →
      bench.EndsAfter requests cycle ∧
      (∀ limit late, (bench.run? requests limit late).isSome = true ↔ cycle ≤ limit) ∧
      ∀ limit late summary final, bench.run? requests limit late = some (summary, final) →
        summary.cycles = before.counter.cycles ∧
        summary.ending =
          if Host.status told = 0 then .completed else .hostFailed (Host.status told)

variable {bench : Bench D H M} {requests : Nat → Bool}

/-- The link knows of the requests up to a cycle when a run comes to it. -/
theorem stopRequested_after (requests : Nat → Bool) (cycle : Nat) (bench : Bench D H M) :
    (bench.after requests cycle).link.stopRequested = bench.requestedBefore requests cycle := by
  induction cycle with
  | zero => simp [after, requestedBefore]
  | succ cycle ih =>
    -- The last cycle adds its own request to those before.
    rw [after, (stop_step _ _).1, stopRequested_asked, ih]
    simp [requestedBefore, List.range_succ, Bool.or_assoc]

/-- The cycles of a run are among what may be done on a bench. -/
theorem Reached.after {start : Bench D H M} (reached : start.Reached bench)
    (requests : Nat → Bool) (cycles : Nat) : start.Reached (bench.after requests cycles) := by
  -- Induction on the cycles: each is a question and a step that may be requested.
  induction cycles with
  | zero => exact reached
  | succ cycles ih => exact ih.ask.step (requests cycles)

/-- A new request is outstanding when the run comes to the cycle. -/
theorem outstanding_of_newlyRequested {cycle : Nat}
    (told : ∀ earlier, (bench.after requests earlier).ToldOnce)
    (requested : bench.NewlyRequested requests cycle) :
    (bench.after requests cycle).stopOutstanding = true := by
  cases cycle with
  | zero => exact requested
  | succ last =>
    obtain ⟨unrequested, now⟩ := requested
    -- Up to the last cycle nobody asked for a stop, so none was forwarded either.
    have before := unrequested
    rw [← stopRequested_after, ← stopRequested_asked] at before
    have unforwarded := (told last).asked.unforwarded before
    obtain ⟨request, forwarded⟩ := (bench.after requests last).asked.stop_step (requests last)
    rw [stopOutstanding, after, request, forwarded, now, unforwarded]
    simp

/-- The question about a cycle that is due tells the host before it asks. -/
theorem makes_asked_of_outstanding (outstanding : bench.stopOutstanding = true)
    (sound : bench.evaluationFault = none) (left : bench.counter.cycles < bench.budget) :
    Makes [.stop, .finished (Host.finished (Host.stop bench.host))] bench bench.asked := by
  obtain ⟨_, answer⟩ := bench.hostFinished_eq
  -- Nothing but the host is left to be asked, and it is told first.
  have question : bench.question? =
      some { told := true, answer := Host.finished (Host.stop bench.host) } := by
    simp [question?, sound, left, outstanding, answer, toldHost]
  have made := bench.makes_asked
  rw [question] at made
  exact made

/-- The calls of a run up to its last question tell the host once at most, if it was requested. -/
theorem makes_asked_after {channels cycles : Nat} (wired : bench.Wired channels)
    (told : (bench.after requests cycles).ToldOnce) (lasts : bench.Lasts requests cycles) :
    ∃ calls, Makes calls bench (bench.after requests cycles).asked ∧
      calls.count .stop ≤ (bench.requestedBefore requests cycles).toNat := by
  obtain ⟨rounds, -, cycled, -⟩ := makes_after wired cycles lasts
  have made := cycled.append (bench.after requests cycles).makes_asked
  -- The account at the end bounds what the calls in between have added.
  have counted := told.asked.count_le_of_makes made
  rw [stopRequested_asked, stopRequested_after] at counted
  exact ⟨_, made, counted⟩

/-- The calls of a whole run tell the host once at most, if it was requested. -/
theorem makes_finish_after {channels cycles : Nat} (wired : bench.Wired channels) (late : Bool)
    (told : (bench.after requests cycles).ToldOnce) (lasts : bench.Lasts requests cycles) :
    ∃ calls,
      Makes calls bench ((bench.after requests cycles).asked.requestStopIf late).finish.2 ∧
      calls.count .stop ≤ (bench.requestedBefore requests cycles || late).toNat := by
  obtain ⟨rounds, -, cycled, -⟩ := makes_after wired cycles lasts
  obtain ⟨closing, closed⟩ := (bench.after requests cycles).makes_finish late
  have made := cycled.append closed
  -- The account is kept by a late request and by winding down, so it holds at the end.
  have counted := (told.asked.requestStopIf late).finish.count_le_of_makes made
  -- Requested at the end means requested before the last question, or late.
  rw [stopRequested_finish, stopRequested_requestStopIf, stopRequested_asked,
    stopRequested_after] at counted
  exact ⟨_, made, counted⟩

/-- A run ends at a request that is due when the host finishes as soon as it is told. -/
theorem endsAfter_of_outstanding {cycle : Nat} (lasts : bench.Lasts requests cycle)
    (outstanding : (bench.after requests cycle).stopOutstanding = true)
    (finished : Host.finished (Host.stop (bench.after requests cycle).host) = true) :
    bench.EndsAfter requests cycle := by
  -- Either the host is asked and says that it has finished, or there is another reason to stop.
  refine ⟨lasts, ?_⟩
  rcases (bench.after requests cycle).mayContinue_cases with ⟨-, -, _, answer⟩ | ⟨-, same⟩
  · rw [answer, toldHost, if_pos outstanding, finished]
    rfl
  · rw [same]

/--
A request to stop is forwarded once, behind its cycle, and a host that obeys ends the run.

The bench may have been run before, and a stop may have been requested at any time.
-/
theorem heeds_of_reached {settings : Settings} {design : D} {host : H} {memories : List M}
    {start : Bench D H M} (assembled : assemble settings design host memories = .ok start)
    (reached : start.Reached bench) (requests : Nat → Bool) :
    bench.Heeds (Design.geometry design).channels requests := by
  have wired := wired_of_assemble assembled
  have still := reached.wired wired
  have told : ∀ cycles, (bench.after requests cycles).ToldOnce := fun cycles =>
    (reached.after requests cycles).toldOnce wired (toldOnce_of_assemble assembled)
  constructor
  case told => exact fun cycles lasts => makes_asked_after still (told cycles) lasts
  case toldAll =>
    intro limit late summary final ran
    obtain ⟨cycles, within, ends, finished⟩ := run?_eq_some_iff.mp ran
    refine ⟨cycles, within, ends, ?_⟩
    have made := makes_finish_after still late (told cycles) ends.1
    rwa [finished] at made
  case finishes =>
    intro cycle lasts requested before
    -- The question keeps the channels, so the cycle still covers all of them.
    have ready : before.Wired (Design.geometry design).channels :=
      (still.after requests cycle).of_numbers (by rw [channels_asked])
    obtain ⟨printed?, dumped?, made⟩ := makes_step true fun _ => ready
    have next : bench.after requests (cycle + 1) = before.step true := by
      rw [after, requested]
    rw [next]
    exact ⟨step_true before, _, covers_of_wired ready true printed? dumped?, made⟩
  case forwards =>
    intro cycle due
    exact makes_asked_of_outstanding (outstanding_of_newlyRequested told due.requested)
      due.sound due.left
  case ends =>
    intro cycle due before stopped finished
    -- A request made in the cycle before is outstanding, as nothing has forwarded it since.
    have outstanding := outstanding_of_newlyRequested told due.requested
    have ends := endsAfter_of_outstanding due.lasts outstanding finished
    refine ⟨ends, fun limit late => isSome_run?_iff ends, ?_⟩
    intro limit late summary final ran
    obtain ⟨-, counter, -⟩ := progress_of_run ends ran
    refine ⟨counter, ?_⟩
    -- The run that returns is the one that ends here, and its summary is of the host as it is now.
    obtain ⟨others, -, alsoEnds, _, same, summed, -⟩ := summary_of_run ran
    rw [alsoEnds.unique ends] at same
    rw [summed, ← same]
    exact ending_asked_of_outstanding late outstanding due.sound due.left finished

/-- A stop that is requested in the second cycle ends a run after two cycles. -/
theorem heeds_of_second_cycle :
    let bench := stagedBench { cycleLimit := 9 } { channels := 1 } {}
    bench.Heeds 1 (· == 1) ∧ bench.Due (· == 1) 2 ∧ bench.EndsAfter (· == 1) 2 ∧
      ∀ limit late summary final, bench.run? (· == 1) limit late = some (summary, final) →
        summary.cycles = 2 ∧ summary.ending = .completed := by
  intro bench
  have heeds : bench.Heeds 1 (· == 1) :=
    heeds_of_reached (assemble_staged { cycleLimit := 9 } { channels := 1 } {}) .start (· == 1)
  -- The host finishes once it is told to, which is after the second cycle at the earliest.
  have lasts : bench.Lasts (· == 1) 2 := by
    intro cycle within
    match cycle, within with
    | 0, _ => decide +kernel
    | 1, _ => decide +kernel
  have due : bench.Due (· == 1) 2 := by
    constructor
    case lasts => exact lasts
    case requested => exact ⟨by decide +kernel, rfl⟩
    case sound => decide +kernel
    case left => decide +kernel
  obtain ⟨ends, -, summed⟩ := heeds.ends 2 due (by decide +kernel)
  have counter : (bench.after (· == 1) 2).counter.cycles = 2 := by decide +kernel
  -- Told to finish, the host has the status of success.
  have satisfied : Host.status (Host.stop (bench.after (· == 1) 2).host) = 0 := by decide +kernel
  refine ⟨heeds, due, ends, fun limit late summary final ran => ?_⟩
  obtain ⟨cycles, ending⟩ := summed limit late summary final ran
  rw [if_pos satisfied] at ending
  exact ⟨cycles.trans counter, ending⟩

end Run

end Testbench.Bench
