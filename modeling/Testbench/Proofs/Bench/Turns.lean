import Testbench.Proofs.Bench.Calls

/-! The calls of one cycle come in a fixed order, which the step of a bench follows. -/

namespace Testbench

/-- What is asked of the memories and the host in a cycle whose design settles. -/
structure Service where
  /-- The offers passed to the memories, each with the number of its channel. -/
  offers : List (Nat × Offers)
  /-- What passes over the link, if the host clock has an edge. -/
  turn? : Option Host.Turn

/-- Every memory is ticked before anything passes over the link. -/
def Service.calls (service : Service) : List Call :=
  (service.offers.map fun (channel, offers) => .tick channel offers) ++
    service.turn?.toList.flatMap Host.Turn.calls

/-- What is asked of the parties in one cycle. -/
structure Cycle where
  /-- What the memories present to the design, each with the number of its channel. -/
  shown : List (Nat × Presented)
  /-- The inconsistency that the design finds while settling, or else the service that follows. -/
  settled : Except EvaluationFault Service
  /-- The failure of a print, if there is one, in a cycle in which the design is printed. -/
  printed? : Option (Option SystemFault)
  /-- The number of the cycle and the failure, if any, when the design is dumped. -/
  dumped? : Option (UInt64 × Option SystemFault)

/-- The call that settles a design, with the inconsistency found. -/
def settleCall : Except EvaluationFault Service → Call
  | .error fault => .settle false (some fault)
  | .ok _ => .settle false none

/-- The calls of the service, of which there is none for a design that fails to settle. -/
def servingCalls : Except EvaluationFault Service → List Call
  | .error _ => []
  | .ok service => service.calls

/-- The calls of a cycle: drives, settling, service, at most one print and dump, and a commit. -/
def Cycle.calls (cycle : Cycle) : List Call :=
  (cycle.shown.map fun (channel, presented) => .driveChannel channel presented) ++
    [settleCall cycle.settled] ++
    servingCalls cycle.settled ++
    cycle.printed?.toList.map .print ++
    (cycle.dumped?.toList.map fun (cycle, fault) => .dump cycle fault) ++
    [.commit false]

namespace Bench

section Settling

variable {D H M : Type} [Design D] [Memory M]

/-- What the memories present to the design, each with the number of its channel. -/
def shown (bench : Bench D H M) : List (Nat × Presented) :=
  bench.channels.map fun channel => (channel.gate.channel, channel.presented)

/-- The channels are driven before the design is settled, and a request to stop is no call. -/
theorem makes_settledIn [Host H] (requested : Bool) (bench : Bench D H M) :
    Makes ((bench.shown.map fun (channel, presented) => .driveChannel channel presented) ++
      [.settle false bench.faultIn]) bench (bench.settledIn requested).2 := by
  -- A request only leaves a flag on the link, where the host is asked about it later.
  let started := bench.requestStopIf requested
  have start := bench.makes_requestStopIf requested
  have driven := makes_driveChannels started
  have settled := makes_settle started.driveChannels
  have channels : started.channels = bench.channels := bench.channels_requestStopIf requested
  -- Whether the design settles does not depend on the request.
  have fault : started.driveChannels.settle.1 = bench.faultIn := settledIn_fst requested bench
  rw [channels] at driven
  rw [fault] at settled
  have shown : (bench.shown.map fun (channel, presented) => Call.driveChannel channel presented) =
      bench.channels.map Channel.showCall := by
    simp [Bench.shown, Channel.showCall]
  rw [shown]
  exact start.append (driven.append settled)

end Settling

section Watching

variable {D H M : Type} [Design D]

/-- Printing and watching for markers leave the recorder alone. -/
theorem recorder_observeMarkers (bench : Bench D H M) :
    bench.printDesign.observeMarkers.recorder = bench.recorder := by
  obtain ⟨_, _, printed⟩ := bench.printDesign_eq
  obtain ⟨_, _, _, _, _, _, watched⟩ := bench.printDesign.observeMarkers_eq
  -- Neither of the two parts has the recorder among what it changes.
  rw [watched, printed]

/-- A dump leaves the counter alone. -/
theorem counter_recordTrace (bench : Bench D H M) : bench.recordTrace.counter = bench.counter :=
  congrArg Progress.counter bench.progress_recordTrace

end Watching

variable {D H M : Type} [Design D] [Host H] [Memory M]

/-- The service of a bench whose design has settled. -/
def service (bench : Bench D H M) : Service where
  offers := bench.offered.map fun (channel, offers) =>
    (channel.gate.channel, channel.gate.relocated offers)
  turn? := bench.turn?

/-- What follows on settling: the service of the bench, unless an inconsistency was found. -/
def serviceUnless (fault : Option EvaluationFault) (bench : Bench D H M) :
    Except EvaluationFault Service :=
  match fault with
  | some found => .error found
  | none => .ok bench.service

/-- How settling turns out in a cycle, and the service that follows when it succeeds. -/
def settledService (requested : Bool) (bench : Bench D H M) : Except EvaluationFault Service :=
  (bench.settledIn requested).2.serviceUnless bench.faultIn

/-- The memories are ticked before the link exchanges frames. -/
theorem makes_service {count : Nat} {bench : Bench D H M} (wired : bench.Wired count) :
    Makes bench.service.calls bench bench.passOffers.exchange := by
  have ticks := makes_passOffers wired
  have exchanged := makes_exchange bench.passOffers
  -- The link connects the design, which ticks leave alone.
  have turn : bench.passOffers.turn? = bench.turn? := rfl
  rw [turn] at exchanged
  have calls : bench.service.calls =
      (bench.offered.map fun (channel, offers) => channel.tickCall offers) ++
        bench.turn?.toList.flatMap Host.Turn.calls := by
    simp [Service.calls, service, Channel.tickCall]
  rw [calls]
  exact ticks.append exchanged

/--
Between settling and committing come the service, if any, and a print and a dump when due.

The print looks at the counter before markers are handled, and the dump after that.
-/
theorem makes_observe {count : Nat} {bench : Bench D H M} (fault : Option EvaluationFault)
    (wired : fault = none → bench.Wired count) :
    ∃ (printed? : Option (Option SystemFault)) (dumped? : Option (UInt64 × Option SystemFault)),
      printed?.isSome = bench.prints ∧
      dumped?.map Prod.fst = numberFor bench.recorder (bench.observe fault).counter.cycles ∧
      Makes (servingCalls (bench.serviceUnless fault) ++ printed?.toList.map .print ++
        dumped?.toList.map fun (cycle, fault) => .dump cycle fault)
        bench (bench.observe fault) := by
  cases fault with
  | none =>
    -- Printing follows on the service, so what is printed has seen the frames of the cycle.
    let served := bench.passOffers.exchange
    obtain ⟨printed?, due, printed⟩ := makes_printDesign served
    have watched := makes_observeMarkers served.printDesign
    obtain ⟨dumped?, numbered, dumped⟩ := makes_recordTrace served.printDesign.observeMarkers
    have made := (((makes_service (wired rfl)).append printed).append watched).append dumped
    rw [List.append_nil] at made
    -- A dump leaves the counter as the markers have left it.
    rw [recorder_observeMarkers, ← counter_recordTrace] at numbered
    exact ⟨printed?, dumped?, due, numbered, made⟩
  | some found =>
    -- A design that fails to settle is neither served nor watched.
    have told := makes_recordFault found bench
    obtain ⟨printed?, due, printed⟩ := makes_printDesign (bench.recordFault found)
    obtain ⟨dumped?, numbered, dumped⟩ := makes_recordTrace (bench.recordFault found).printDesign
    obtain ⟨_, _, failed⟩ := bench.recordFault_eq found
    obtain ⟨_, _, shown⟩ := (bench.recordFault found).printDesign_eq
    have kept : (bench.recordFault found).printDesign.recorder = bench.recorder := by
      rw [shown, failed]
    have same : (bench.recordFault found).prints = bench.prints := by
      rw [failed]
      rfl
    rw [kept, ← counter_recordTrace] at numbered
    exact ⟨printed?, dumped?, due.trans same, numbered, (told.append printed).append dumped⟩

/-- The counter in a cycle once markers are handled, which counts the cycle by its number. -/
def countIn (requested : Bool) (bench : Bench D H M) : UInt64 :=
  (bench.beforeCommit requested).counter.cycles

/--
One step makes the calls of one cycle, with a print and a dump when they are due.

The numbers of the channels matter only when the memories behind them are ticked.
-/
theorem makes_step_due {count : Nat} {bench : Bench D H M} (requested : Bool)
    (wired : bench.faultIn = none → bench.Wired count) :
    ∃ printed? dumped?,
      printed?.isSome = bench.prints ∧
      dumped?.map Prod.fst = numberFor bench.recorder (bench.countIn requested) ∧
      let settled := bench.settledService requested
      Makes (Cycle.calls { shown := bench.shown, settled, printed?, dumped? })
        bench (bench.step requested) := by
  have settled := makes_settledIn requested bench
  obtain ⟨printed?, dumped?, due, numbered, observed⟩ := makes_observe bench.faultIn
    fun sound => (wired sound).settledIn requested
  have committed := makes_commit (bench.beforeCommit requested)
  have made := (settled.append observed).append committed
  -- The call that settles the design carries the inconsistency found.
  have call : settleCall (bench.settledService requested) = .settle false bench.faultIn := by
    rw [settledService]
    cases bench.faultIn <;> rfl
  -- Up to settling, neither the counter nor the recorder has changed.
  obtain ⟨_, _, same⟩ := bench.settledIn_eq requested
  refine ⟨printed?, dumped?, ?_, ?_, ?_⟩
  · rw [due, same]
    rfl
  · have kept : (bench.settledIn requested).2.recorder = bench.recorder := by rw [same]
    rw [← kept]
    exact numbered
  · rw [step_eq_commit]
    -- The calls are the same ones, grouped by the parts of the step and not by those of a cycle.
    simp only [Cycle.calls, call]
    simpa only [settledService, List.append_assoc] using made

/-- One step makes the calls of one cycle. -/
theorem makes_step {count : Nat} {bench : Bench D H M} (requested : Bool)
    (wired : bench.faultIn = none → bench.Wired count) :
    ∃ printed? dumped?,
      let settled := bench.settledService requested
      Makes (Cycle.calls { shown := bench.shown, settled, printed?, dumped? })
        bench (bench.step requested) := by
  -- When the print and the dump are due is left out here.
  obtain ⟨printed?, dumped?, -, -, made⟩ := makes_step_due requested wired
  exact ⟨printed?, dumped?, made⟩

end Bench

section Covers

variable {D H M : Type} [Design D] [Host H] [Memory M]

/-- A cycle on a bench with some channels, each of which is shown and served once. -/
structure Cycle.Covers (channels : Nat) (requested : Bool) (bench : Bench D H M)
    (cycle : Cycle) : Prop where
  /-- The design is shown what the memories present, channel by channel. -/
  shown : cycle.shown = bench.shown
  shows : cycle.shown.map Prod.fst = List.range channels
  /-- The design is served what it asks for, unless it fails to settle. -/
  settled : cycle.settled = bench.settledService requested
  ticks : ∀ service, cycle.settled = .ok service →
    service.offers.map Prod.fst = List.range channels
  /-- Frames are exchanged at an edge of the host clock only. -/
  edge : ∀ service, cycle.settled = .ok service →
    service.turn?.isSome = HostPins.hostEdge (bench.settledIn requested).2.design

/-- The channels of a wired bench are shown and served in the order of their numbers. -/
theorem Bench.covers_of_wired {channels : Nat} {bench : Bench D H M}
    (wired : bench.Wired channels) (requested : Bool)
    (printed? : Option (Option SystemFault)) (dumped? : Option (UInt64 × Option SystemFault)) :
    let settled := bench.settledService requested
    Cycle.Covers channels requested bench
      { shown := bench.shown, settled, printed?, dumped? } := by
  -- Whatever is served is the service of the bench whose design has settled.
  have served : ∀ {found}, bench.settledService requested = .ok found →
      found = (bench.settledIn requested).2.service := by
    intro found settled
    unfold settledService serviceUnless at settled
    split at settled
    · cases settled
    · cases settled
      rfl
  constructor
  case shown => rfl
  case shows =>
    simp only [shown, List.map_map]
    exact wired
  case settled => rfl
  case ticks =>
    -- Every channel makes its offers, so the offers are numbered like the channels.
    intro found settled
    rw [served settled]
    simp only [service, offered, List.map_map]
    exact wired.settledIn requested
  case edge =>
    intro found settled
    rw [served settled]
    simp only [service, turn?]
    split <;> simp_all

end Covers

end Testbench
