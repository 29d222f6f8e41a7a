import Testbench.Proofs.Bench.Reporting
import Testbench.Proofs.Bench.Rounds

/-! The trace of a run: a dump that fails ends it, and takes the count of its records with it. -/

namespace Testbench

/-- The cycle that a call dumps, and the fault of the dump, if it is one. -/
def Call.dump? : Call → Option (UInt64 × Option SystemFault)
  | .dump cycle fault => some (cycle, fault)
  | _ => none

/-- Calls for other purposes dump nothing. -/
theorem Call.filterMap_dump?_eq_nil {calls : List Call}
    (others : ∀ call ∈ calls, call.purpose ≠ .dump) : calls.filterMap dump? = [] := by
  rw [List.filterMap_eq_nil_iff]
  intro call made
  -- The purpose names the call, so only a dump is left to rule out.
  cases call with
  | dump => exact absurd rfl (others _ made)
  | _ => rfl

namespace Trace

/-- No dump has failed. -/
def Whole (dumps : List (UInt64 × Option SystemFault)) : Prop :=
  ∀ dump ∈ dumps, dump.2 = none

instance (dumps : List (UInt64 × Option SystemFault)) : Decidable (Whole dumps) :=
  inferInstanceAs (Decidable (∀ dump ∈ dumps, dump.2 = none))

/-- The number of dumps that were written. -/
def written (dumps : List (UInt64 × Option SystemFault)) : Nat :=
  dumps.countP fun dump => dump.2.isNone

/-- Dumps leave a recorder that has counted them, until one fails and leaves none. -/
inductive Leaves :
    List (UInt64 × Option SystemFault) → Option Recorder → Option Recorder → Prop where
  | nothing (recorder? : Option Recorder) : Leaves [] recorder? recorder?
  | record (cycle : UInt64) {dumps : List (UInt64 × Option SystemFault)} {recorder : Recorder}
    {last? : Option Recorder}
    (rest : Leaves dumps (some { recorder with written := recorder.written + 1 }) last?) :
    Leaves ((cycle, none) :: dumps) (some recorder) last?
  | fail (cycle : UInt64) (fault : SystemFault) (recorder : Recorder) :
    Leaves [(cycle, some fault)] (some recorder) none

/-- Further dumps go on with the recorder that the first ones have left. -/
theorem Leaves.append {dumps others : List (UInt64 × Option SystemFault)}
    {first? between? last? : Option Recorder} (first : Leaves dumps first? between?)
    (second : Leaves others between? last?) : Leaves (dumps ++ others) first? last? := by
  induction first with
  | nothing _ => exact second
  | record cycle _ ih => exact .record cycle (ih second)
  | fail cycle fault recorder =>
    -- Without a recorder nothing is dumped any more.
    cases second
    exact .fail cycle fault recorder

/-- A recorder is left with the count of all dumps, unless the last one has failed. -/
theorem Leaves.result {dumps : List (UInt64 × Option SystemFault)} {recorder : Recorder}
    {last? : Option Recorder} (leaves : Leaves dumps (some recorder) last?) :
    Whole dumps ∧ last? = some { recorder with written := recorder.written + written dumps } ∨
      ¬Whole dumps ∧ last? = none := by
  generalize start : some recorder = first? at leaves
  induction leaves generalizing recorder with
  | nothing recorder? => exact Or.inl ⟨by simp [Whole], by simp [← start, written]⟩
  | @record cycle dumps recorder _ _ ih =>
    cases start
    -- The first dump was written, so the others decide.
    have same : Whole ((cycle, none) :: dumps) ↔ Whole dumps := by simp [Whole]
    rw [same]
    rcases ih rfl with ⟨sound, counted⟩ | broken
    · refine Or.inl ⟨sound, ?_⟩
      have more : written ((cycle, none) :: dumps) = written dumps + 1 := by simp [written]
      rw [counted, more, Nat.add_assoc, Nat.add_comm 1]
    · exact Or.inr broken
  | fail cycle fault recorder => exact Or.inr ⟨by simp [Whole], rfl⟩

/-- A recorder that is offered a cycle is left as by the dumps it asked for. -/
theorem leaves_record {D : Type} [Design D] (recorder : Recorder) (cycle : UInt64) (design : D)
    (sink : Sink) :
    let recorded := recorder.record cycle design sink
    Leaves ((recorded.calls cycle).filterMap Call.dump?) (some recorder) recorded.recorder? := by
  unfold Recorder.record
  split
  · -- In the window: the dump succeeds and is counted, or fails and the recorder is gone.
    rcases Design.dump cycle design sink with ⟨_ | fault, dumped, written⟩
    · exact .record cycle (.nothing _)
    · exact .fail cycle fault recorder
  · -- Outside of it nothing is dumped, and the recorder stays.
    exact .nothing _

end Trace

namespace Bench

/-- The dumps that were asked for on a bench, in order. -/
def dumps {D H M : Type} (bench : Bench D H M) : List (UInt64 × Option SystemFault) :=
  bench.journal.callsInOrder.filterMap Call.dump?

/-- Between two states of a bench some dumps were made, and the later one has the recorder left. -/
structure Traces {D H M : Type} (dumps : List (UInt64 × Option SystemFault))
    (before after : Bench D H M) : Prop where
  noted : after.dumps = before.dumps ++ dumps
  leaves : Trace.Leaves dumps before.recorder after.recorder

section Parts

variable {D H M : Type}

/-- Nothing is traced between a state and itself. -/
theorem Traces.refl (bench : Bench D H M) : Traces [] bench bench where
  noted := by simp
  leaves := .nothing _

/-- Dumps that are made first come before those that are made later. -/
theorem Traces.append {dumps others : List (UInt64 × Option SystemFault)}
    {before between after : Bench D H M} (first : Traces dumps before between)
    (second : Traces others between after) : Traces (dumps ++ others) before after where
  -- The recorder is followed by its own composition, the dumps by that of lists.
  noted := by rw [second.noted, first.noted, List.append_assoc]
  leaves := first.leaves.append second.leaves

/-- Nothing is traced by calls for other purposes that leave the recorder alone. -/
theorem Traces.none {calls : List Call} {before after : Bench D H M}
    (noted : after.journal.callsInOrder = before.journal.callsInOrder ++ calls)
    (others : ∀ call ∈ calls, call.purpose ≠ .dump)
    (recorder : after.recorder = before.recorder) : Traces [] before after where
  noted := by
    -- The journal may have grown, but by no dump.
    rw [Bench.dumps, noted, List.filterMap_append, Call.filterMap_dump?_eq_nil others]
    rfl
  leaves := recorder ▸ .nothing _

/-- Passing offers to the memories traces nothing. -/
theorem traces_passOffers [Design D] [Memory M] (bench : Bench D H M) :
    Traces [] bench bench.passOffers := by
  refine .none (Journal.callsInOrder_callAll ..) ?_ rfl
  intro call made
  obtain ⟨_, _, rfl⟩ := List.mem_map.mp made
  -- Each call is the tick of a memory.
  nofun

/-- Frames that pass over the link are not traced. -/
theorem traces_exchange [Design D] [Host H] [Memory M] (bench : Bench D H M) :
    Traces [] bench bench.exchange := by
  refine .none bench.makes_exchange.noted ?_ rfl
  intro call made
  obtain ⟨turn, -, passed⟩ := List.mem_flatMap.mp made
  -- Each call belongs to the turn of the link, whose purpose is the exchange.
  simp [Host.Turn.purpose_of_mem passed]

/-- Printing the design is not tracing it. -/
theorem traces_printDesign [Design D] [Host H] [Memory M] (bench : Bench D H M) :
    Traces [] bench bench.printDesign := by
  obtain ⟨printed?, -, made⟩ := bench.makes_printDesign
  obtain ⟨_, _, same⟩ := bench.printDesign_eq
  -- A print is at most one call, of a purpose of its own.
  exact .none made.noted (by simp [Call.purpose]) (by rw [same])

/-- Recording a cycle traces it, and leaves the recorder as the dump does. -/
theorem traces_recordTrace [Design D] (bench : Bench D H M) :
    ∃ dumps, Traces dumps bench bench.recordTrace := by
  unfold recordTrace
  -- Without a recorder nothing is asked to be dumped.
  cases attached : bench.recorder with
  | none => exact ⟨[], .refl bench⟩
  | some recorder =>
    let cycle := bench.counter.cycles
    let recorded := recorder.record cycle bench.design bench.sinks.traceSink
    let told : Bench D H M := { bench with
      design := recorded.design
      sinks := bench.sinks.withTrace recorded.sink
      recorder := recorded.recorder?
      journal := bench.journal.callAll (recorded.calls cycle) }
    obtain ⟨_, same⟩ := told.remarkFault_eq .traceFailed recorded.fault
    -- The dump is noted before a failure is remarked on, and the remark is no call.
    have traced : (told.remarkFault .traceFailed recorded.fault).dumps =
        bench.dumps ++ (recorded.calls cycle).filterMap Call.dump? := by
      rw [same, Bench.dumps, Bench.dumps, ← List.filterMap_append,
        ← Journal.callsInOrder_callAll]
      rfl
    have left : (told.remarkFault .traceFailed recorded.fault).recorder =
        recorded.recorder? := by rw [same]
    exact ⟨_, traced, by rw [attached, left]; exact Trace.leaves_record recorder cycle _ _⟩

end Parts

section Asking

variable {D H M : Type} [Host H]

/-- Asking whether to go on leaves the recorder alone. -/
theorem recorder_asked (bench : Bench D H M) : bench.asked.recorder = bench.recorder := by
  obtain ⟨_, _, _, same⟩ := bench.asked_eq
  -- The recorder is not among the parts that a question changes.
  rw [same]

end Asking

section Run

variable {D H M : Type} [Design D] [Host H] [Memory M]

/-- Between settling and committing, a cycle is traced after all else, also when it has failed. -/
theorem traces_observe (fault : Option EvaluationFault) (bench : Bench D H M) :
    ∃ dumps, Traces dumps bench (bench.observe fault) := by
  cases fault with
  | none =>
    have served := bench.traces_passOffers.append bench.passOffers.traces_exchange
    have printed := served.append (traces_printDesign _)
    -- Markers are remarked and counted, which is no call.
    let shown := bench.passOffers.exchange.printDesign
    obtain ⟨_, _, _, _, _, _, same⟩ := shown.observeMarkers_eq
    have watched : Traces [] shown shown.observeMarkers :=
      .none shown.makes_observeMarkers.noted (by simp) (by rw [same])
    obtain ⟨dumps, traced⟩ := shown.observeMarkers.traces_recordTrace
    exact ⟨dumps, (printed.append watched).append traced⟩
  | some found =>
    obtain ⟨_, _, same⟩ := bench.recordFault_eq found
    have recorded : Traces [] bench (bench.recordFault found) :=
      .none (bench.makes_recordFault found).noted (by simp) (by rw [same])
    have printed := recorded.append (traces_printDesign _)
    obtain ⟨dumps, traced⟩ := (bench.recordFault found).printDesign.traces_recordTrace
    exact ⟨dumps, printed.append traced⟩

/-- What a cycle traces is traced between settling and committing. -/
theorem traces_step (requested : Bool) (bench : Bench D H M) :
    ∃ dumps, Traces dumps bench (bench.step requested) := by
  have settles : Traces [] bench (bench.settledIn requested).2 := by
    refine .none (bench.makes_settledIn requested).noted ?_ (by cases requested <;> rfl)
    intro call made
    -- Up to settling, channels are shown to the design, and then it settles.
    rcases List.mem_append.mp made with shows | settles
    · obtain ⟨_, _, rfl⟩ := List.mem_map.mp shows
      nofun
    · rw [List.mem_singleton.mp settles]
      nofun
  obtain ⟨dumps, observed⟩ := (bench.settledIn requested).2.traces_observe bench.faultIn
  have commits : Traces [] (bench.beforeCommit requested) (bench.step requested) := by
    rw [step_eq_commit]
    exact .none (makes_commit _).noted (by simp [Call.purpose]) rfl
  -- What is traced stands in the middle, between two parts that trace nothing.
  exact ⟨_, (settles.append observed).append commits⟩

/-- A question to the host is not traced. -/
theorem traces_asked (bench : Bench D H M) : Traces [] bench bench.asked := by
  refine .none bench.makes_asked.noted ?_ bench.recorder_asked
  intro call made
  obtain ⟨question, -, asks⟩ := List.mem_flatMap.mp made
  -- The calls of a question tell the host to finish, or ask whether it has.
  simp [Question.purpose_of_mem asks]

/-- The cycles of a run are traced one after another. -/
theorem traces_after (requests : Nat → Bool) (cycles : Nat) (bench : Bench D H M) :
    ∃ dumps, Traces dumps bench (bench.after requests cycles) := by
  induction cycles with
  | zero => exact ⟨[], .refl bench⟩
  | succ cycles ih =>
    -- The dumps so far are followed by those of one more cycle.
    obtain ⟨dumps, traced⟩ := ih
    obtain ⟨others, stepped⟩ := (bench.after requests cycles).asked.traces_step (requests cycles)
    exact ⟨_, (traced.append (traces_asked _)).append stepped⟩

/-- A run counts its records as long as no dump fails, and has none in the end if one does. -/
theorem traceRecords_of_run {requests : Nat → Bool} {limit : Nat} {late : Bool}
    {bench final : Bench D H M} {summary : Summary} {recorder : Trace.Recorder}
    (attached : bench.recorder = some recorder)
    (ran : bench.run? requests limit late = some (summary, final)) :
    ∃ dumps, final.dumps = bench.dumps ++ dumps ∧
      summary.traceRecords =
        (if Trace.Whole dumps then recorder.written + Trace.written dumps else 0) ∧
      (summary.traceRecords = recorder.written + Trace.written dumps ↔
        Trace.Whole dumps ∨ recorder.written + Trace.written dumps = 0) := by
  obtain ⟨cycles, -, -, finished⟩ := run?_eq_some_iff.mp ran
  let stopped := bench.after requests cycles
  obtain ⟨dumps, traced⟩ := bench.traces_after requests cycles
  -- Behind the last cycle the host is asked and reports, and nothing is dumped.
  obtain ⟨closing, closed⟩ := stopped.makes_finish late
  have quiet : closing.calls.filterMap Call.dump? = [] := by
    refine Call.filterMap_dump?_eq_nil fun call made => ?_
    rcases Closing.purpose_of_mem made with purpose | purpose <;> simp [purpose]
  rw [finished] at closed
  have noted : final.dumps = bench.dumps ++ dumps := by
    rw [← traced.noted, Bench.dumps, closed.noted, List.filterMap_append, quiet, List.append_nil]
    rfl
  -- The records are those of the recorder that is left when the run stops.
  have counted : summary.traceRecords = (stopped.recorder.map Trace.Recorder.written).getD 0 := by
    have summed := (stopped.asked.requestStopIf late).finish_eq.1
    rw [finished] at summed
    have records : (stopped.asked.requestStopIf late).traceRecords =
        (stopped.recorder.map Trace.Recorder.written).getD 0 := by
      rw [traceRecords, requestStopIf_eq, recorder_asked]
    exact (congrArg Summary.traceRecords summed).trans records
  refine ⟨dumps, noted, ?_⟩
  rcases (attached ▸ traced.leaves).result with ⟨whole, left⟩ | ⟨broken, dropped⟩
  · rw [counted, left, if_pos whole]
    exact ⟨rfl, fun _ => Or.inl whole, fun _ => rfl⟩
  · rw [counted, dropped, if_neg broken]
    exact ⟨rfl, fun none => Or.inr none.symm, fun either => (either.resolve_left broken).symm⟩

/-- All four cycles of a run are recorded on a sink that takes them. -/
theorem traceRecords_of_open_trace :
    let bench := reportingBench { cycleLimit := 4 } [] (some { start := 0 }) { trace := some {} }
    ∃ summary final, bench.run? (fun _ => false) 4 = some (summary, final) ∧
      summary.traceRecords = 4 ∧
      ∃ dumps, final.dumps = bench.dumps ++ dumps ∧
        summary.traceRecords = (if Trace.Whole dumps then 0 + Trace.written dumps else 0) ∧
        (summary.traceRecords = 0 + Trace.written dumps ↔
          Trace.Whole dumps ∨ 0 + Trace.written dumps = 0) := by
  intro bench
  have attached : bench.recorder = some { start := 0 } := rfl
  -- The sink has no limit, so every dump is taken.
  have records : (bench.run? (fun _ => false) 4).map (fun run => run.1.traceRecords) = some 4 := by
    decide +kernel
  obtain ⟨⟨summary, final⟩, ran, counted⟩ := Option.map_eq_some_iff.mp records
  exact ⟨summary, final, ran, counted,
    traceRecords_of_run attached ran⟩

/-- Two cycles are in the trace of a run when its sink is full, but the run has no records. -/
theorem traceRecords_ne_written_of_full_trace :
    let bench := reportingBench { cycleLimit := 4 } [] (some { start := 0 })
      { trace := some (.withRoom 2) }
    bench.dumps = [] ∧
      ∃ summary final, bench.run? (fun _ => false) 4 = some (summary, final) ∧
        Trace.written final.dumps = 2 ∧ summary.traceRecords = 0 := by
  intro bench
  -- The third line does not fit, and the recorder is dropped with its count.
  have both : (bench.run? (fun _ => false) 4).map
      (fun run => (Trace.written run.2.dumps, run.1.traceRecords)) = some (2, 0) := by
    decide +kernel
  obtain ⟨⟨summary, final⟩, ran, counts⟩ := Option.map_eq_some_iff.mp both
  obtain ⟨written, records⟩ := Prod.mk.inj counts
  exact ⟨rfl, summary, final, ran, written, records⟩

end Run

end Bench

end Testbench
