import Testbench.Bench.Run

/-! What each part of a cycle, and the end of a run, may change on the bench at most. -/

namespace Testbench.Bench

section Requests

variable {D H M : Type}

/-- A stop that may be requested is noted on the link, where the host is not told of it yet. -/
theorem requestStopIf_eq (requested : Bool) (bench : Bench D H M) :
    bench.requestStopIf requested =
      { bench with link := { bench.link with
        stopRequested := bench.link.stopRequested || requested } } := by
  -- Without a request, what was requested before stays as it was.
  cases requested <;> simp [requestStopIf, requestStop, Host.Link.requestStop]

end Requests

section Sinks

variable {D H M : Type}

/-- A remark about a failure goes into the journal, among the other remarks. -/
theorem remarkFault_eq (remark : SystemFault → Remark) (cause : Option SystemFault)
    (bench : Bench D H M) :
    ∃ remarks, bench.remarkFault remark cause =
      { bench with journal := { bench.journal with remarks } } := by
  -- Without a failure there is no remark, and the journal stays.
  cases cause with
  | none => exact ⟨bench.journal.remarks, rfl⟩
  | some fault => exact ⟨remark fault :: bench.journal.remarks, rfl⟩

/-- A line about a benchmark goes to the notices, and a failure to write it is remarked. -/
theorem notice_eq (line : String) (bench : Bench D H M) :
    ∃ notices remarks, bench.notice line =
      { bench with
        sinks := { bench.sinks with notices }
        journal := { bench.journal with remarks } } := by
  -- The written sink is put back over what the remark about a failure left.
  let written := bench.sinks.notices.writeLine line
  obtain ⟨remarks, same⟩ := bench.remarkFault_eq .noticeFailed written.1
  exact ⟨written.2, remarks, congrArg (fun told : Bench D H M =>
    { told with sinks := { bench.sinks with notices := written.2 } }) same⟩

/-- Restarting the counter tells the notices, and counts the restart. -/
theorem restartCounter_eq (bench : Bench D H M) :
    ∃ notices remarks, bench.restartCounter =
      { bench with
        sinks := { bench.sinks with notices }
        journal := { bench.journal with remarks }
        counter := bench.counter.restart
        restarts := bench.restarts + 1 } := by
  -- The notice is the one step that may fail, and it changes its sink and the remarks only.
  obtain ⟨notices, remarks, same⟩ :=
    (bench.remark (.startMarker bench.counter.cycles)).notice_eq "Emulator: resetting cycle count"
  exact ⟨notices, remarks, congrArg (fun noticed : Bench D H M =>
    { noticed with counter := bench.counter.restart, restarts := bench.restarts + 1 }) same⟩

/-- Reporting the counter tells the notices, and keeps the report. -/
theorem reportCounter_eq (bench : Bench D H M) :
    ∃ notices remarks, bench.reportCounter =
      { bench with
        sinks := { bench.sinks with notices }
        journal := { bench.journal with remarks }
        benchmarks := bench.benchmarks ++ [bench.counter.cycles] } := by
  -- The counter is read before the notice, which leaves it alone.
  obtain ⟨notices, remarks, same⟩ :=
    (bench.remark (.stopMarker bench.counter.cycles)).notice_eq
      s!"Emulator: Cycle count is {bench.counter.cycles.toNat}"
  exact ⟨notices, remarks, congrArg (fun noticed : Bench D H M =>
    { noticed with benchmarks := bench.benchmarks ++ [bench.counter.cycles] }) same⟩

/-- A failure to settle is told to the diagnostics, and makes the current cycle the last one. -/
theorem recordFault_eq (fault : EvaluationFault) (bench : Bench D H M) :
    ∃ diagnostics remarks, bench.recordFault fault =
      { bench with
        sinks := { bench.sinks with diagnostics }
        journal := { bench.journal with remarks }
        budget := bench.counter.cycles
        evaluationFault := some fault } := by
  -- The line is attempted first: its answer is remarked on, whatever it is.
  let written := bench.sinks.diagnostics.writeLine fault.message
  obtain ⟨remarks, same⟩ :=
    (bench.remark (.evaluationFailed bench.counter.cycles fault)).remarkFault_eq
      .evaluationUnreported written.1
  exact ⟨written.2, remarks, congrArg (fun told : Bench D H M =>
    { told with
      sinks := { bench.sinks with diagnostics := written.2 }
      budget := bench.counter.cycles
      evaluationFault := some fault }) same⟩

/-- Pushing the notices out changes their sink and the remarks. -/
theorem flushNotices_eq (bench : Bench D H M) :
    ∃ sinks remarks, bench.flushNotices =
      { bench with sinks, journal := { bench.journal with remarks } } := by
  -- The answer of the flush is turned into a remark, over the sink it leaves.
  obtain ⟨remarks, same⟩ := remarkFault_eq .noticesUnflushed bench.sinks.notices.flush.1
    { bench with sinks := { bench.sinks with notices := bench.sinks.notices.flush.2 } }
  exact ⟨_, remarks, same⟩

/-- Ending the trace changes its sink, the recorder and the remarks. -/
theorem closeTrace_eq (bench : Bench D H M) :
    ∃ recorder sinks remarks, bench.closeTrace =
      { bench with recorder, sinks, journal := { bench.journal with remarks } } := by
  unfold closeTrace
  -- Without a recorder nothing is pushed out.
  split
  · exact ⟨bench.recorder, bench.sinks, bench.journal.remarks, rfl⟩
  · obtain ⟨remarks, same⟩ := remarkFault_eq .traceUnflushed bench.sinks.traceSink.flush.1
      { bench with
        recorder := none
        sinks := bench.sinks.withTrace bench.sinks.traceSink.flush.2 }
    exact ⟨_, _, remarks, same⟩

/-- Acting on a start marker changes what a restart changes, and the detector. -/
theorem handleStart_eq (bench : Bench D H M) :
    ∃ detector counter restarts notices remarks, bench.handleStart =
      { bench with
        detector, counter, restarts
        sinks := { bench.sinks with notices }
        journal := { bench.journal with remarks } } := by
  unfold handleStart
  simp only
  -- The event is taken from the detector in both cases, and acted on if it was set.
  split
  · obtain ⟨notices, remarks, same⟩ :=
      restartCounter_eq { bench with detector := bench.detector.takeStarted.2 }
    exact ⟨_, _, _, notices, remarks, same⟩
  · exact ⟨_, bench.counter, bench.restarts, bench.sinks.notices, bench.journal.remarks, rfl⟩

/-- Acting on a stop marker changes what a report changes, and the detector. -/
theorem handleStop_eq (bench : Bench D H M) :
    ∃ detector benchmarks notices remarks, bench.handleStop =
      { bench with
        detector, benchmarks
        sinks := { bench.sinks with notices }
        journal := { bench.journal with remarks } } := by
  unfold handleStop
  simp only
  -- As for a start marker, but the counter is reported and keeps its value.
  split
  · obtain ⟨notices, remarks, same⟩ :=
      reportCounter_eq { bench with detector := bench.detector.takeStopped.2 }
    exact ⟨_, _, notices, remarks, same⟩
  · exact ⟨_, bench.benchmarks, bench.sinks.notices, bench.journal.remarks, rfl⟩

end Sinks

section Design

variable {D H M : Type} [Design D]

/-- Watching for markers changes the counts, the notices and the remarks, and asks for nothing. -/
theorem observeMarkers_eq (bench : Bench D H M) :
    ∃ detector counter restarts benchmarks notices remarks, bench.observeMarkers =
      { bench with
        detector, counter, restarts, benchmarks
        sinks := { bench.sinks with notices }
        journal := { bench.journal with remarks } } := by
  -- The start is handled before the stop, on a detector that has seen the instruction.
  let watching := { bench with
    detector := bench.detector.observe (Design.instruction bench.design) }
  obtain ⟨_, counter, restarts, _, _, started⟩ := watching.handleStart_eq
  obtain ⟨detector, benchmarks, notices, remarks, stopped⟩ := watching.handleStart.handleStop_eq
  refine ⟨detector, counter, restarts, benchmarks, notices, remarks, ?_⟩
  have opened : bench.observeMarkers = watching.handleStart.handleStop := rfl
  rw [opened, stopped, started]

/-- Printing writes to the diagnostics, and leaves the design as it is. -/
theorem printDesign_eq (bench : Bench D H M) :
    ∃ diagnostics journal, bench.printDesign =
      { bench with sinks := { bench.sinks with diagnostics }, journal } := by
  unfold printDesign
  -- Only a verbose run prints, and only from the start of its trace on.
  split
  · let printed := Design.print bench.design bench.sinks.diagnostics
    obtain ⟨remarks, same⟩ := (bench.call (.print printed.1)).remarkFault_eq .printFailed printed.1
    exact ⟨printed.2, _, congrArg (fun told : Bench D H M =>
      { told with sinks := { bench.sinks with diagnostics := printed.2 } }) same⟩
  · exact ⟨bench.sinks.diagnostics, bench.journal, rfl⟩

/-- Recording a cycle may change the design, the sinks, the recorder and the journal. -/
theorem recordTrace_eq (bench : Bench D H M) :
    ∃ design sinks recorder journal, bench.recordTrace =
      { bench with design, sinks, recorder, journal } := by
  unfold recordTrace
  -- A failed dump drops the recorder, which is why it is among the parts that change.
  split
  · exact ⟨bench.design, bench.sinks, bench.recorder, bench.journal, rfl⟩
  · rename_i recorder _
    let recorded := recorder.record bench.counter.cycles bench.design bench.sinks.traceSink
    obtain ⟨remarks, same⟩ := remarkFault_eq .traceFailed recorded.fault
      { bench with
        design := recorded.design
        sinks := bench.sinks.withTrace recorded.sink
        recorder := recorded.recorder?
        journal := bench.journal.callAll (recorded.calls bench.counter.cycles) }
    exact ⟨_, _, _, _, same⟩

end Design

section Observing

variable {D H M : Type} [Design D] [Host H] [Memory M]

/-- A design that failed to settle ends the budget, and is printed and traced. -/
theorem observe_some_eq (fault : EvaluationFault) (bench : Bench D H M) :
    ∃ design sinks recorder journal, bench.observe (some fault) =
      { bench with
        design, sinks, recorder, journal
        budget := bench.counter.cycles
        evaluationFault := some fault } := by
  -- No service and no markers: the record, the print and the dump follow each other.
  obtain ⟨_, _, recorded⟩ := bench.recordFault_eq fault
  obtain ⟨_, _, printed⟩ := (bench.recordFault fault).printDesign_eq
  obtain ⟨_, _, _, _, traced⟩ := (bench.recordFault fault).printDesign.recordTrace_eq
  rw [observe, traced, printed, recorded]
  exact ⟨_, _, _, _, rfl⟩

/-- A design that has settled is served, and then printed, watched and traced. -/
theorem observe_none_eq (bench : Bench D H M) :
    ∃ design detector counter restarts benchmarks sinks recorder journal,
      bench.observe none =
        { bench.passOffers.exchange with
          design, detector, counter, restarts, benchmarks, sinks, recorder, journal } := by
  let served := bench.passOffers.exchange
  -- Each part is given on the bench the previous one leaves.
  obtain ⟨_, _, printed⟩ := served.printDesign_eq
  obtain ⟨_, _, _, _, _, _, watched⟩ := served.printDesign.observeMarkers_eq
  obtain ⟨_, _, _, _, traced⟩ := served.printDesign.observeMarkers.recordTrace_eq
  have opened : bench.observe none = served.printDesign.observeMarkers.recordTrace := rfl
  rw [opened, traced, watched, printed]
  exact ⟨_, _, _, _, _, _, _, _, rfl⟩

end Observing

end Testbench.Bench
