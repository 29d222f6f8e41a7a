import Testbench.Proofs.Bench.Asking
import Testbench.Proofs.Bench.Reporting
import Testbench.Proofs.Host.Exchange

/-! What observes a run has no say in it: prints, the trace, all sinks and the journal. -/

namespace Testbench

/-- A dump of a silent design tells its state, and leaves it as it is. -/
def Silent (D : Type) [Design D] : Prop :=
  ∀ (cycle : UInt64) (design : D) (sink : Sink), (Design.dump cycle design sink).2.1 = design

namespace Bench

section Erasing

variable {D H M : Type}

/-- The bench without anything that only observes it. -/
def unobserved (bench : Bench D H M) : Bench D H M :=
  { bench with
    settings := { bench.settings with traceStart := 0, verbose := false }
    recorder := none
    sinks := {}
    journal := {} }

/-- The summary and the bench of a run, without the records and all that observed the run. -/
def account (outcome : Summary × Bench D H M) : Summary × Bench D H M :=
  ({ outcome.1 with traceRecords := 0 }, outcome.2.unobserved)

/-- What is erased once is gone. -/
@[simp]
theorem unobserved_unobserved (bench : Bench D H M) :
    bench.unobserved.unobserved = bench.unobserved := rfl

/-- A part of a cycle is blind when it does the same whatever observes the bench. -/
def Blind (part : Bench D H M → Bench D H M) : Prop :=
  ∀ bench, (part bench).unobserved = (part bench.unobserved).unobserved

/-- Blind parts that follow one another are blind together. -/
theorem Blind.comp {first second : Bench D H M → Bench D H M} (earlier : Blind first)
    (later : Blind second) : Blind fun bench => second (first bench) := by
  intro bench
  -- What the first part leaves to be observed is erased before the second one.
  rw [later (first bench), earlier bench, ← later (first bench.unobserved)]

/-- A part is blind when all that it does can be erased. -/
theorem Blind.of_erased {part : Bench D H M → Bench D H M}
    (erased : ∀ bench, (part bench).unobserved = bench.unobserved) : Blind part := by
  -- Erasing before the part and erasing what it did both leave the erased bench.
  intro bench
  rw [erased bench, erased bench.unobserved, unobserved_unobserved]

/-- What can be read off a bench without what observes it is the same on benches that are alike. -/
theorem reading_alike {α : Type} (read : Bench D H M → α)
    (blind : ∀ bench, read bench.unobserved = read bench)
    {bench other : Bench D H M} (alike : bench.unobserved = other.unobserved) :
    read bench = read other := by
  -- Both readings are the reading of the bench they share once erased.
  rw [← blind bench, alike, blind other]

/-- Benches that differ at most in what observes them still do after a blind part. -/
theorem Blind.alike {part : Bench D H M → Bench D H M} (blind : Blind part)
    {bench other : Bench D H M} (alike : bench.unobserved = other.unobserved) :
    (part bench).unobserved = (part other).unobserved :=
  -- What the part leaves, erased, is itself a reading that erasure does not change.
  reading_alike (fun bench => (part bench).unobserved) (fun bench => (blind bench).symm) alike

/-- A remark can be erased. -/
theorem unobserved_remarkFault (remark : SystemFault → Remark) (cause : Option SystemFault)
    (bench : Bench D H M) : (bench.remarkFault remark cause).unobserved = bench.unobserved := by
  -- The remark is the only change, and remarks are erased.
  obtain ⟨_, same⟩ := bench.remarkFault_eq remark cause
  rw [same]
  rfl

/-- A start marker restarts the counter on both benches, whether that could be noticed or not. -/
theorem blind_handleStart : Blind (handleStart (D := D) (H := H) (M := M)) := by
  intro bench
  unfold handleStart
  -- The detector alone decides, and it is the same on both benches.
  cases started : bench.detector.takeStarted with
  | mk found detector =>
    have same : bench.unobserved.detector.takeStarted = (found, detector) := started
    rw [same]
    cases found with
    | false => rfl
    | true =>
      obtain ⟨_, _, told⟩ := restartCounter_eq { bench with detector }
      obtain ⟨_, _, untold⟩ := restartCounter_eq { bench.unobserved with detector }
      simp only [if_true]
      rw [told, untold]
      rfl

/-- A stop marker is reported on both benches with the same counter. -/
theorem blind_handleStop : Blind (handleStop (D := D) (H := H) (M := M)) := by
  intro bench
  unfold handleStop
  cases stopped : bench.detector.takeStopped with
  | mk found detector =>
    -- The detector is kept by erasure, so both benches take the same event from it.
    have same : bench.unobserved.detector.takeStopped = (found, detector) := stopped
    rw [same]
    cases found with
    | false => rfl
    | true =>
      -- The notices and remarks differ, and the counter that is kept does not.
      obtain ⟨_, _, told⟩ := reportCounter_eq { bench with detector }
      obtain ⟨_, _, untold⟩ := reportCounter_eq { bench.unobserved with detector }
      simp only [if_true]
      rw [told, untold]
      rfl

/-- A fault ends the budget, whether its line could be written or not. -/
theorem blind_recordFault (fault : EvaluationFault) :
    Blind (recordFault (D := D) (H := H) (M := M) fault) := by
  intro bench
  obtain ⟨_, _, told⟩ := bench.recordFault_eq fault
  obtain ⟨_, _, untold⟩ := bench.unobserved.recordFault_eq fault
  -- Whatever the two diagnostics answered is gone once both benches are erased.
  rw [told, untold]
  rfl

/-- A request to stop is noted on the link, whatever observes the bench. -/
theorem blind_requestStopIf (requested : Bool) :
    Blind fun bench : Bench D H M => bench.requestStopIf requested := by
  intro bench
  -- Both outcomes of the request change the link at most, which erasure keeps.
  cases requested <;> rfl

end Erasing

section Design

variable {D H M : Type} [Design D]

/-- A print can be erased. -/
theorem unobserved_printDesign (bench : Bench D H M) :
    bench.printDesign.unobserved = bench.unobserved := by
  obtain ⟨_, _, same⟩ := bench.printDesign_eq
  -- Diagnostics and journal are all that a print changes.
  rw [same]
  rfl

/-- A record of a silent design can be erased, and so can the end of the trace. -/
theorem unobserved_recordTrace (silent : Silent D) (bench : Bench D H M) :
    bench.recordTrace.unobserved = bench.unobserved := by
  unfold recordTrace
  split
  · rfl
  · rename_i recorder _
    rw [unobserved_remarkFault]
    -- The design is dumped at most, and that leaves it as it is.
    have design : (recorder.record bench.counter.cycles bench.design
        bench.sinks.traceSink).design = bench.design := by
      unfold Trace.Recorder.record
      split
      · exact silent _ _ _
      · rfl
    simp only [unobserved, design]

/-- Watching for markers takes the retiring instruction, and nothing that observes the bench. -/
theorem blind_observeMarkers : Blind (observeMarkers (D := D) (H := H) (M := M)) := by
  -- The instruction is read from the design, which erasure keeps.
  have watching : Blind fun bench : Bench D H M =>
      { bench with detector := bench.detector.observe (Design.instruction bench.design) } :=
    fun _ => rfl
  exact (watching.comp blind_handleStart).comp blind_handleStop

end Design

section Link

variable {D H M : Type} [Design D] [Host H]

/-- Frames pass over the link whatever is noted of them. -/
theorem blind_exchange : Blind (exchange (D := D) (H := H) (M := M)) := by
  intro bench
  unfold exchange
  cases edge : HostPins.hostEdge bench.design with
  | false =>
    rw [bench.connection.exchange_of_idle edge, bench.unobserved.connection.exchange_of_idle edge]
    rfl
  | true =>
    -- What passes over the link follows from its ends and not from the journal.
    obtain ⟨_, passed⟩ := bench.connection.exchange_of_edge edge
    obtain ⟨_, same⟩ := bench.unobserved.connection.exchange_of_edge edge
    rw [passed, same]
    rfl

end Link

section Cycle

variable {D H M : Type} [Design D] [Host H] [Memory M]

/-- Between settling and committing, only the service and the markers act on the bench. -/
theorem blind_observe (silent : Silent D) (fault : Option EvaluationFault) :
    Blind (observe (D := D) (H := H) (M := M) fault) := by
  have prints : Blind (printDesign (D := D) (H := H) (M := M)) :=
    .of_erased unobserved_printDesign
  have traces : Blind (recordTrace (D := D) (H := H) (M := M)) :=
    .of_erased (unobserved_recordTrace silent)
  -- Blind parts compose, so only the order of the parts is left to follow.
  cases fault with
  | none =>
    have serves : Blind (passOffers (D := D) (H := H) (M := M)) := fun _ => rfl
    exact (((serves.comp blind_exchange).comp prints).comp blind_observeMarkers).comp traces
  | some found => exact ((blind_recordFault found).comp prints).comp traces

/-- A cycle of a silent design is the same whatever observes it. -/
theorem blind_step (silent : Silent D) (requested : Bool) :
    Blind (step (D := D) (H := H) (M := M) requested) := by
  intro bench
  -- Up to settling, nothing is done to what observes the bench but notes in the journal.
  have settles : Blind fun bench : Bench D H M => (bench.settledIn requested).2 := by
    intro bench
    cases requested <;> rfl
  have fault : bench.unobserved.faultIn = bench.faultIn := rfl
  have commits : Blind (commit (D := D) (H := H) (M := M)) := fun _ => rfl
  rw [step_eq_commit, step_eq_commit, beforeCommit, beforeCommit, fault]
  exact ((settles.comp (blind_observe silent bench.faultIn)).comp commits) bench

end Cycle

section Asking

variable {D H M : Type} [Host H]

/-- The host is asked the same, and told the same, on both benches. -/
theorem hostFinished_unobserved (bench : Bench D H M) :
    bench.unobserved.hostFinished.1 = bench.hostFinished.1 ∧
      bench.unobserved.hostFinished.2.unobserved = bench.hostFinished.2.unobserved := by
  obtain ⟨_, told⟩ := bench.hostFinished_eq
  obtain ⟨_, untold⟩ := bench.unobserved.hostFinished_eq
  -- The question goes to the host, and the call it notes is erased.
  rw [told, untold]
  exact ⟨rfl, rfl⟩

/-- Whether a run goes on is decided without what observes it. -/
theorem mayContinue_unobserved (bench : Bench D H M) :
    bench.unobserved.mayContinue.1 = bench.mayContinue.1 ∧
      bench.unobserved.asked.unobserved = bench.asked.unobserved := by
  obtain ⟨answer, told⟩ := bench.hostFinished_unobserved
  -- Both benches have the same fault and the same cycles left.
  have same : (bench.unobserved.evaluationFault.isNone &&
      decide (bench.unobserved.counter.cycles < bench.unobserved.budget)) =
      (bench.evaluationFault.isNone && decide (bench.counter.cycles < bench.budget)) := rfl
  unfold asked mayContinue
  rw [same]
  split
  · exact ⟨congrArg (! ·) answer, told⟩
  · exact ⟨rfl, rfl⟩

/-- Benches that differ at most in what observes them go on together, or stop together. -/
theorem mayContinue_alike {bench other : Bench D H M}
    (alike : bench.unobserved = other.unobserved) : bench.mayContinue.1 = other.mayContinue.1 :=
  -- Whether a run goes on can be read off the erased bench.
  reading_alike (fun bench => bench.mayContinue.1) (fun bench => bench.mayContinue_unobserved.1)
    alike

/-- The question whether to go on is asked the same on both benches, or on neither. -/
theorem blind_ready (ask : Bool) : Blind (ready (D := D) (H := H) (M := M) ask) := by
  intro bench
  -- A cycle that is not asked about changes nothing.
  cases ask with
  | false => rfl
  | true => exact bench.mayContinue_unobserved.2.symm

/-- How a run ended is found out without what observed it. -/
theorem findEnding_unobserved (bench : Bench D H M) :
    bench.unobserved.findEnding.1 = bench.findEnding.1 ∧
      bench.unobserved.findEnding.2.unobserved = bench.findEnding.2.unobserved := by
  let reported := bench.call (.status (Host.status bench.host))
  let unreported := bench.unobserved.call (.status (Host.status bench.host))
  -- The call for the status is noted on both benches, and erased from both.
  have alike : unreported.unobserved = reported.unobserved := rfl
  obtain ⟨answer, told⟩ := reported.hostFinished_unobserved
  obtain ⟨answer', told'⟩ := unreported.hostFinished_unobserved
  rw [alike] at answer' told'
  unfold findEnding
  have status : Host.status bench.unobserved.host = Host.status bench.host := rfl
  have fault : bench.unobserved.evaluationFault = bench.evaluationFault := rfl
  simp only [status, fault]
  split
  · exact ⟨rfl, rfl⟩
  · split
    · exact ⟨rfl, rfl⟩
    · -- The host is asked once more, and answers the same.
      have both : unreported.hostFinished.1 = reported.hostFinished.1 := answer'.symm.trans answer
      have after : unreported.hostFinished.2.unobserved = reported.hostFinished.2.unobserved :=
        told'.symm.trans told
      rcases first : reported.hostFinished with ⟨finished, bench₁⟩
      rcases second : unreported.hostFinished with ⟨finished', bench₂⟩
      rw [first, second] at both after
      subst both
      cases finished' <;> exact ⟨rfl, after⟩

/-- How a run winds down is blind, although the trace ends and the notices are flushed in it. -/
theorem blind_finish : Blind fun bench : Bench D H M => bench.finish.2 := by
  have closes : Blind (closeTrace (D := D) (H := H) (M := M)) := by
    refine .of_erased fun bench => ?_
    obtain ⟨_, _, _, closed⟩ := bench.closeTrace_eq
    rw [closed]
    rfl
  have flushes : Blind (flushNotices (D := D) (H := H) (M := M)) := by
    refine .of_erased fun bench => ?_
    obtain ⟨_, _, flushed⟩ := bench.flushNotices_eq
    rw [flushed]
    rfl
  have ends : Blind fun bench : Bench D H M => bench.findEnding.2 :=
    fun bench => bench.findEnding_unobserved.2.symm
  -- The remark that follows goes into the journal.
  exact (closes.comp flushes).comp ends

/-- A run that stopped on benches of which the one is observed is summed up the same. -/
theorem account_finish {bench other : Bench D H M}
    (alike : bench.unobserved = other.unobserved) :
    account bench.finish = account other.finish := by
  -- All that is summed up of a bench but the records is left when what observes it is erased.
  have told : ∀ bench : Bench D H M, { bench.finish.1 with traceRecords := 0 } =
      bench.unobserved.summary bench.unobserved.ending 0 := by
    intro bench
    rw [bench.finish_eq.1]
    rfl
  unfold account
  rw [told bench, told other, alike, blind_finish.alike alike]

end Asking

section Reset

variable {D H M : Type} [Design D]

/-- Clocking in reset takes as many cycles, or fails the same, whatever observes it. -/
theorem resetCycles_alike (missing clocked left : Nat) {bench other : Bench D H M}
    (alike : bench.unobserved = other.unobserved) :
    (bench.resetCycles missing clocked left).1 = (other.resetCycles missing clocked left).1 ∧
      (bench.resetCycles missing clocked left).2.unobserved =
        (other.resetCycles missing clocked left).2.unobserved := by
  induction left generalizing missing clocked bench other with
  | zero =>
    unfold resetCycles
    split <;> exact ⟨rfl, alike⟩
  | succ left ih =>
    -- Only the journal, which is erased, tells the benches of one cycle apart.
    have fault : bench.settleReset.1 = other.settleReset.1 :=
      reading_alike (fun bench => bench.settleReset.1) (fun _ => rfl) alike
    have settles : Blind fun bench : Bench D H M => bench.settleReset.2 := fun _ => rfl
    have commits : Blind (commitReset (D := D) (H := H) (M := M)) := fun _ => rfl
    have settled := settles.alike alike
    have committed := commits.alike settled
    have edge : HostPins.hostEdge bench.settleReset.2.commitReset.design =
        HostPins.hostEdge other.settleReset.2.commitReset.design :=
      reading_alike (fun bench => HostPins.hostEdge bench.design) (fun _ => rfl) committed
    unfold resetCycles
    split
    · exact ⟨rfl, alike⟩
    · rcases first : bench.settleReset with ⟨found, settled₁⟩
      rcases second : other.settleReset with ⟨found', settled₂⟩
      rw [first, second] at fault settled committed edge
      -- Both benches find the same, so they take the same branch.
      subst fault
      cases found with
      | some => exact ⟨rfl, settled⟩
      | none =>
        simp only [edge]
        exact ih _ _ committed

/-- A reset takes the same number of cycles, or fails the same, whatever observes it. -/
theorem reset_alike {bench other : Bench D H M} (alike : bench.unobserved = other.unobserved) :
    bench.reset.1 = other.reset.1 ∧ bench.reset.2.unobserved = other.reset.2.unobserved := by
  have idles : Blind (holdIdle (D := D) (H := H) (M := M)) := fun _ => rfl
  -- The clocks in reset agree first; the last remark follows their common answer.
  obtain ⟨cycles, clocked⟩ :=
    resetCycles_alike resetEdges 0 maxResetCycles (idles.alike alike)
  unfold reset
  rcases first : bench.holdIdle.resetCycles resetEdges 0 maxResetCycles with ⟨answer, bench₁⟩
  rcases second : other.holdIdle.resetCycles resetEdges 0 maxResetCycles with ⟨answer', bench₂⟩
  rw [first, second] at cycles clocked
  subst cycles
  cases answer <;> exact ⟨rfl, clocked⟩

end Reset

section Runs

variable {D H M : Type} [Design D] [Host H] [Memory M]

/-- Any number of cycles of a silent design is the same whatever observes it. -/
theorem blind_steps (silent : Silent D) (asks requests : Nat → Bool) (count : Nat) :
    Blind (steps (D := D) (H := H) (M := M) asks requests count) := by
  -- Induction on the cycles: each is the question, if asked, and then a step.
  induction count with
  | zero => exact fun _ => rfl
  | succ count ih => exact (ih.comp (blind_ready (asks count))).comp (blind_step silent _)

/-- A run of a silent design ends after as many cycles when it is not observed. -/
theorem endsAfter_alike (silent : Silent D) (requests : Nat → Bool) (cycles : Nat)
    {bench other : Bench D H M} (alike : bench.unobserved = other.unobserved) :
    bench.EndsAfter requests cycles ↔ other.EndsAfter requests cycles := by
  -- After equally many cycles the two benches are still alike, and so is their answer.
  have going : ∀ cycle, (bench.after requests cycle).mayContinue.1 =
      (other.after requests cycle).mayContinue.1 := by
    intro cycle
    rw [← steps_eq_after, ← steps_eq_after]
    exact mayContinue_alike ((blind_steps silent _ requests cycle).alike alike)
  simp only [EndsAfter, Lasts, going]

/-- A run of a silent design stops within its limit on benches that are alike, or on neither. -/
theorem cyclesUntilStop_alike (silent : Silent D) (requests : Nat → Bool) (done left : Nat)
    {bench other : Bench D H M} (alike : bench.unobserved = other.unobserved) :
    (bench.cyclesUntilStop requests done left).map unobserved =
      (other.cyclesUntilStop requests done left).map unobserved := by
  induction left generalizing done bench other with
  | zero =>
    have going := mayContinue_alike alike
    cases answer : other.mayContinue.1 with
    | true =>
      rw [cyclesUntilStop_zero_of_go (going.trans answer), cyclesUntilStop_zero_of_go answer]
    | false =>
      rw [cyclesUntilStop_of_stop (going.trans answer), cyclesUntilStop_of_stop answer]
      exact congrArg some ((blind_ready true).alike alike)
  | succ left ih =>
    have going := mayContinue_alike alike
    cases answer : other.mayContinue.1 with
    | true =>
      rw [cyclesUntilStop_succ_of_go (going.trans answer), cyclesUntilStop_succ_of_go answer]
      -- Both run one more cycle, and are alike after it.
      have cycle : Blind fun bench : Bench D H M => bench.asked.step (requests done) :=
        (blind_ready true).comp (blind_step silent _)
      exact ih (done + 1) (cycle.alike alike)
    | false =>
      rw [cyclesUntilStop_of_stop (going.trans answer), cyclesUntilStop_of_stop answer]
      exact congrArg some ((blind_ready true).alike alike)

/-- A run of a silent design is summed up the same whatever observed it, but for the records. -/
theorem account_run (silent : Silent D) (requests : Nat → Bool) (limit : Nat) (late : Bool)
    {bench other : Bench D H M} (alike : bench.unobserved = other.unobserved) :
    (bench.run? requests limit late).map account =
      (other.run? requests limit late).map account := by
  have stopped := cyclesUntilStop_alike silent requests 0 limit alike
  unfold run?
  -- The two loops stop after the same cycles, or both run out of them.
  cases found : bench.cyclesUntilStop requests 0 limit with
  | none =>
    rw [found] at stopped
    rw [Option.map_eq_none_iff.mp stopped.symm]
  | some last =>
    rw [found] at stopped
    obtain ⟨last', found', same⟩ := Option.map_eq_some_iff.mp stopped.symm
    rw [found']
    -- A late request keeps the last benches alike, and so does winding down.
    exact congrArg some (account_finish ((blind_requestStopIf late).alike same.symm))

/-- Two benches run alike when nothing tells their runs apart but what observes them. -/
structure SameRuns (bench other : Bench D H M) : Prop where
  /-- Both are out of reset after the same number of cycles, or fail the same. -/
  resets : bench.reset.1 = other.reset.1 ∧
    bench.reset.2.unobserved = other.reset.2.unobserved
  /-- After any number of cycles, the benches differ at most in what observes them. -/
  cycles : ∀ asks requests count,
    (bench.steps asks requests count).unobserved = (other.steps asks requests count).unobserved
  /-- Both runs end after the same number of cycles, or neither ends. -/
  ends : ∀ requests cycles, bench.EndsAfter requests cycles ↔ other.EndsAfter requests cycles
  /-- Both runs return, with the same summary but for the records, or neither returns. -/
  summaries : ∀ requests limit late,
    (bench.run? requests limit late).map account = (other.run? requests limit late).map account

/-- Observation does not disturb a run. -/
theorem sameRuns_of_silent (silent : Silent D) {bench other : Bench D H M}
    (alike : bench.unobserved = other.unobserved) : SameRuns bench other where
  resets := reset_alike alike
  cycles asks requests count := (blind_steps silent asks requests count).alike alike
  ends requests cycles := endsAfter_alike silent requests cycles alike
  summaries requests limit late := account_run silent requests limit late alike

/-- A benchmark runs the same with full sinks, prints and a trace as it does with none of them. -/
theorem sameRuns_of_full_sinks :
    SameRuns
      (reportingBench { cycleLimit := 12 } (Marker.startMarker ++ Marker.stopMarker) none {})
      (reportingBench { cycleLimit := 12, traceStart := 2, verbose := true }
        (Marker.startMarker ++ Marker.stopMarker) (some { start := 2 })
        { notices := .withRoom 1
          diagnostics := .withRoom 3
          trace := some (.withRoom 2) }) :=
  sameRuns_of_silent (fun _ _ _ => rfl) rfl

end Runs

end Bench

end Testbench
