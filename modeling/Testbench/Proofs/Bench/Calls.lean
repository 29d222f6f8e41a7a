import Testbench.Proofs.Bench.Wiring
import Testbench.Proofs.Host.Exchange

/-! The calls in the journal are answered as noted there, and nothing else changes the parties. -/

namespace Testbench

/-- The parties of a bench: the design, the host, and the memories behind the channels in order. -/
structure Parties (D H M : Type) where
  design : D
  host : H
  memories : List M

section Calls

variable {D H M : Type} [Design D] [Host H] [Memory M]

/-- A call is answered as noted by the party of which it is made, and changes that party alone. -/
def Call.Does (call : Call) (before after : Parties D H M) : Prop :=
  match call with
  | .initialise seed =>
    after = { before with design := Design.initialise seed before.design }
  | .driveChannel channel presented =>
    after = { before with design := Design.driveChannel channel presented before.design }
  | .settle reset fault =>
    ∃ design, Design.settle reset before.design = (fault, design) ∧ after = { before with design }
  | .commit reset =>
    after = { before with design := Design.commit reset before.design }
  | .tick channel offers =>
    after = { before with memories := before.memories.modify channel (Memory.tick offers) }
  | .receive size answer =>
    ∃ host, Host.receive size before.host = (answer, host) ∧ after = { before with host }
  | .driveHostIn valid word =>
    after = { before with design := HostPins.driveHostIn valid word before.design }
  | .send bytes =>
    after = { before with host := Host.send bytes before.host }
  | .driveHostReady ready =>
    after = { before with design := HostPins.driveHostReady ready before.design }
  -- A print and a dump also go to some sink, which is no party.
  | .print fault =>
    ∃ sink written, Design.print before.design sink = (fault, written) ∧ after = before
  | .dump cycle fault =>
    ∃ sink design written, Design.dump cycle before.design sink = (fault, design, written) ∧
      after = { before with design }
  | .stop =>
    after = { before with host := Host.stop before.host }
  | .finished answer =>
    Host.finished before.host = answer ∧ after = before
  | .status answer =>
    Host.status before.host = answer ∧ after = before

/-- Calls made one after another take the parties from one state to another. -/
inductive Performed : List Call → Parties D H M → Parties D H M → Prop where
  | none (parties : Parties D H M) : Performed [] parties parties
  | call {call : Call} {calls : List Call} {before between after : Parties D H M}
    (does : call.Does before between) (rest : Performed calls between after) :
    Performed (call :: calls) before after

/-- A single call does what it does. -/
theorem Performed.single {call : Call} {before after : Parties D H M}
    (does : call.Does before after) : Performed [call] before after :=
  -- Behind it there is no other call that could go wrong.
  .call does (.none after)

/-- Further calls go on from where the first ones led. -/
theorem Performed.append {calls others : List Call} {before between after : Parties D H M}
    (first : Performed calls before between) (second : Performed others between after) :
    Performed (calls ++ others) before after := by
  -- The second calls wait at the end of the first ones, which are taken off one by one.
  induction first with
  | none _ => exact second
  | call does _ ih => exact .call does (ih second)

/-- Driving several channels changes the design, one channel after another. -/
theorem Performed.driveChannels (channels : List (Channel M)) (design : D) (host : H)
    (memories : List M) :
    Performed (channels.map Channel.showCall) ⟨design, host, memories⟩
      ⟨channels.foldl (fun design channel =>
        Design.driveChannel channel.gate.channel channel.presented design) design,
        host, memories⟩ := by
  -- Each drive starts from the design that the drives before have left.
  induction channels generalizing design with
  | nil => exact .none _
  | cons channel channels ih => exact .call rfl (ih _)

/-- Ticks change the memories of channels that are numbered in order, one after another. -/
theorem Performed.ticks (design : D) (host : H) (offered : List (Channel M × Offers)) :
    ∀ ticked : List M,
      offered.map (fun (channel, _) => channel.gate.channel) =
          List.range' ticked.length offered.length →
        Performed (offered.map fun (channel, offers) => channel.tickCall offers)
          ⟨design, host, ticked ++ offered.map fun (channel, _) => channel.memory⟩
          ⟨design, host, ticked ++ offered.map fun (channel, offers) =>
            (channel.afterOffers offers).memory⟩ := by
  -- The memories ticked so far are as many as the number of the next channel.
  induction offered with
  | nil => exact fun ticked _ => .none _
  | cons item offered ih =>
    obtain ⟨channel, offers⟩ := item
    intro ticked numbered
    simp only [List.map_cons, List.length_cons, List.range'_succ, List.cons.injEq] at numbered
    obtain ⟨number, others⟩ := numbered
    let memory := (channel.afterOffers offers).memory
    have later := ih (ticked ++ [memory]) (by simpa using others)
    rw [List.append_assoc, List.append_assoc] at later
    refine .call ?_ later
    -- The tick finds the memory of its channel right behind those ticked before.
    have ticks := List.modifyTailIdx_add
      (List.modifyHead (Memory.tick (channel.gate.relocated offers))) 0 ticked
      (channel.memory :: offered.map fun (channel, _) => channel.memory)
    rw [Nat.add_zero, ← number] at ticks
    exact congrArg (Parties.mk design host) ticks.symm

end Calls

namespace Bench

variable {D H M : Type} [Design D] [Host H] [Memory M]

/-- The parties of a bench in their present states. -/
def parties (bench : Bench D H M) : Parties D H M where
  design := bench.design
  host := bench.host
  memories := bench.channels.map Channel.memory

/-- Between two states of a bench some calls were made: they were noted, and all else is theirs. -/
structure Makes (calls : List Call) (before after : Bench D H M) : Prop where
  noted : after.journal.callsInOrder = before.journal.callsInOrder ++ calls
  performed : Performed calls before.parties after.parties

/-- Calls are made when they are performed, and the journal notes them all. -/
theorem Makes.of_performed {calls : List Call} {before after : Bench D H M}
    (performed : Performed calls before.parties after.parties)
    (noted : after.journal.calls = (before.journal.callAll calls).calls) :
    Makes calls before after where
  -- The journal holds the latest call first, and the calls are told in order.
  noted := (congrArg List.reverse noted).trans (Journal.callsInOrder_callAll calls _)
  performed := performed

/-- A single call is made when it is performed, and the journal notes it. -/
theorem Makes.single {call : Call} {before after : Bench D H M}
    (does : call.Does before.parties after.parties)
    (noted : after.journal.calls = (before.journal.call call).calls) :
    Makes [call] before after where
  -- What one call adds to the journal comes behind all earlier calls.
  noted := (congrArg List.reverse noted).trans (Journal.callsInOrder_call call _)
  performed := .single does

/-- No call is made as long as neither the parties nor the calls in the journal change. -/
theorem Makes.none {before after : Bench D H M} (parties : after.parties = before.parties)
    (calls : after.journal.calls = before.journal.calls) : Makes [] before after := by
  -- The rest of the bench may well change, since no party gets to see it.
  refine .of_performed ?_ calls
  rw [parties]
  exact .none _

/-- Calls that are made first come before those that are made later. -/
theorem Makes.append {calls others : List Call} {before between after : Bench D H M}
    (first : Makes calls before between) (second : Makes others between after) :
    Makes (calls ++ others) before after where
  -- The journal only grows, so what was noted first stays in front.
  noted := by rw [second.noted, first.noted, List.append_assoc]
  performed := first.performed.append second.performed

/-- A remark about a failure is no call. -/
theorem Makes.remarkFault {calls : List Call} {before after : Bench D H M}
    (made : Makes calls before after) (remark : SystemFault → Remark)
    (cause : Option SystemFault) : Makes calls before (after.remarkFault remark cause) := by
  -- The remark goes into the journal as well, but not among the calls.
  obtain ⟨remarks, same⟩ := after.remarkFault_eq remark cause
  rw [same]
  exact ⟨made.noted, made.performed⟩

section Parts

/-- A request to stop is no call, and reaches none of the parties by itself. -/
theorem makes_requestStopIf (requested : Bool) (bench : Bench D H M) :
    Makes [] bench (bench.requestStopIf requested) := by
  -- It is noted on the link, which belongs to the bench.
  rw [requestStopIf_eq]
  exact .none rfl rfl

/-- Every channel is driven into the design. -/
theorem makes_driveChannels (bench : Bench D H M) :
    Makes (bench.channels.map Channel.showCall) bench bench.driveChannels := by
  refine .of_performed ?_ rfl
  -- What a gate remembers of the drive is no part of the memory behind it.
  have memories : bench.driveChannels.channels.map Channel.memory =
      bench.channels.map Channel.memory := by
    simp [driveChannels, Channel.afterShow]
  rw [parties, parties, memories]
  exact Performed.driveChannels bench.channels bench.design bench.host _

/-- The design is settled once. -/
theorem makes_settle (bench : Bench D H M) :
    Makes [.settle false bench.settle.1] bench bench.settle.2 :=
  -- The answer noted is the one that the design has just given.
  .single ⟨_, rfl, rfl⟩ rfl

/-- Every memory is ticked once, in the order of the channels. -/
theorem makes_passOffers {count : Nat} {bench : Bench D H M} (wired : bench.Wired count) :
    Makes (bench.offered.map fun (channel, offers) => channel.tickCall offers)
      bench bench.passOffers := by
  refine .of_performed ?_ rfl
  have counted : bench.offered.length = count := by
    rw [offered, List.length_map]
    exact wired.length
  -- The number of each channel tells the position of its memory among the parties.
  have numbered : (bench.offered.map fun (channel, _) => channel.gate.channel) =
      List.range' 0 bench.offered.length := by
    rw [counted, ← List.range_eq_range', ← wired]
    simp [offered]
  have ticks := Performed.ticks bench.design bench.host bench.offered [] numbered
  -- Before the ticks the memories are those of the bench, and after them those passed to it.
  have before : (bench.offered.map fun (channel, _) => channel.memory) =
      bench.channels.map Channel.memory := by
    simp [offered]
  have after : (bench.offered.map fun (channel, offers) =>
      (channel.afterOffers offers).memory) = bench.passOffers.channels.map Channel.memory := by
    simp [passOffers]
  rw [List.nil_append, List.nil_append, before, after] at ticks
  exact ticks

/-- What passes over the link in a cycle, if the host clock has an edge. -/
def turn? (bench : Bench D H M) : Option Host.Turn :=
  if HostPins.hostEdge bench.design then some bench.connection.turn else none

/-- The host is asked for a frame at most once. -/
theorem performed_receipt (connection : Host.Connection D H) (memories : List M) :
    Performed (Host.receiptCalls connection.receipt?)
      ⟨connection.pins, connection.host, memories⟩
      ⟨connection.pins, connection.hostAfterReceipt, memories⟩ := by
  unfold Host.Connection.receipt? Host.Connection.hostAfterReceipt
  cases connection.asks with
  -- A link with a frame to be accepted leaves the host alone.
  | false => exact .none _
  -- The answer noted is the one that the host gives in its state before.
  | true => exact .single ⟨_, rfl, rfl⟩

/-- The host is passed a frame at most once. -/
theorem performed_send (sent? : Option (List UInt8)) (design : D) (host : H)
    (memories : List M) :
    Performed (Host.sendCalls sent?) ⟨design, host, memories⟩
      ⟨design, Host.hostAfterSending sent? host, memories⟩ := by
  -- A host has to take what it is sent, so there is no answer to compare.
  cases sent? with
  | none => exact .none _
  | some bytes => exact .single rfl

/-- The link passes frames at an edge of the host clock only. -/
theorem makes_exchange (bench : Bench D H M) :
    Makes (bench.turn?.toList.flatMap Host.Turn.calls) bench bench.exchange := by
  unfold turn?
  cases edge : HostPins.hostEdge bench.design with
  | false =>
    -- Taking the bench apart into its link and putting it together again changes nothing.
    have idle : bench.exchange = bench.withConnection bench.connection :=
      congrArg bench.withConnection (bench.connection.exchange_of_idle edge)
    rw [idle]
    exact .none rfl rfl
  | true =>
    obtain ⟨remarks, passed⟩ := bench.connection.exchange_of_edge edge
    have exchanged : bench.exchange = bench.withConnection bench.connection.exchange := rfl
    rw [exchanged, passed]
    simp only [if_true, Option.toList_some, List.flatMap_singleton]
    refine .of_performed ?_ rfl
    let turn := bench.connection.turn
    let memories := bench.channels.map Channel.memory
    let received := bench.connection.hostAfterReceipt
    let driven := HostPins.driveHostIn turn.valid turn.word bench.design
    -- The host and the design take turns, so each call leaves one of them as it was.
    have asked := performed_receipt bench.connection memories
    have driveIn : Performed [.driveHostIn turn.valid turn.word]
        ⟨bench.design, received, memories⟩ ⟨driven, received, memories⟩ := .single rfl
    have sent := performed_send turn.sent? driven received memories
    have driveReady : Performed [.driveHostReady true]
        ⟨driven, Host.hostAfterSending turn.sent? received, memories⟩
        ⟨HostPins.driveHostReady true driven, Host.hostAfterSending turn.sent? received,
          memories⟩ := .single rfl
    exact ((asked.append driveIn).append sent).append driveReady

/-- A verbose run prints the design from some value of the counter on. -/
def prints (bench : Bench D H M) : Bool :=
  bench.settings.verbose && bench.settings.traceStart ≤ bench.counter.cycles

/-- The design is printed at most once, and only when it is to be printed. -/
theorem makes_printDesign (bench : Bench D H M) :
    ∃ printed? : Option (Option SystemFault), printed?.isSome = bench.prints ∧
      Makes (printed?.toList.map .print) bench bench.printDesign := by
  unfold printDesign
  -- A quiet run prints nothing, and neither does a cycle before the first one to print.
  split
  · rename_i due
    let fault := (Design.print bench.design bench.sinks.diagnostics).1
    have printed : Makes [.print fault] bench (bench.call (.print fault)) :=
      .single ⟨_, _, rfl, rfl⟩ rfl
    have told := printed.remarkFault .printFailed fault
    -- The sink that was written on is put back last.
    exact ⟨some fault, due.symm, told.noted, told.performed⟩
  · rename_i early
    exact ⟨none, (Bool.not_eq_true _ ▸ early).symm, .none rfl rfl⟩

/-- The number under which a recorder has a cycle dumped, if there is a recorder and it wants it. -/
def numberFor (recorder? : Option Trace.Recorder) (cycle : UInt64) : Option UInt64 :=
  recorder?.bind fun recorder => if Trace.records recorder.start cycle then some cycle else none

/-- A recorder asks the design for at most one dump, and only when the cycle is one to record. -/
theorem performed_record (recorder : Trace.Recorder) (cycle : UInt64) (design : D) (sink : Sink)
    (host : H) (memories : List M) :
    ∃ dumped? : Option (UInt64 × Option SystemFault),
      dumped?.map Prod.fst = numberFor (some recorder) cycle ∧
      let recorded := recorder.record cycle design sink
      recorded.calls cycle = (dumped?.toList.map fun (cycle, fault) => .dump cycle fault) ∧
        Performed (recorded.calls cycle) ⟨design, host, memories⟩
          ⟨recorded.design, host, memories⟩ := by
  unfold Trace.Recorder.record numberFor
  rw [Option.bind_some]
  -- A cycle before the first one to record leaves the design and the sink alone.
  split
  · exact ⟨some (cycle, (Design.dump cycle design sink).1), rfl, rfl, .single ⟨_, _, _, rfl, rfl⟩⟩
  · exact ⟨none, rfl, rfl, .none _⟩

/-- The design is dumped at most once, and only when the recorder wants the cycle. -/
theorem makes_recordTrace (bench : Bench D H M) :
    ∃ dumped? : Option (UInt64 × Option SystemFault),
      dumped?.map Prod.fst = numberFor bench.recorder bench.counter.cycles ∧
      Makes (dumped?.toList.map fun (cycle, fault) => .dump cycle fault)
        bench bench.recordTrace := by
  unfold recordTrace
  cases attached : bench.recorder with
  | none => exact ⟨none, rfl, .none rfl rfl⟩
  | some recorder =>
    let cycle := bench.counter.cycles
    let recorded := recorder.record cycle bench.design bench.sinks.traceSink
    obtain ⟨dumped?, numbered, calls, performed⟩ := performed_record recorder cycle bench.design
      bench.sinks.traceSink bench.host (bench.channels.map Channel.memory)
    have dumps : Makes (recorded.calls cycle) bench
        { bench with
          design := recorded.design
          sinks := bench.sinks.withTrace recorded.sink
          recorder := recorded.recorder?
          journal := bench.journal.callAll (recorded.calls cycle) } :=
      .of_performed performed rfl
    refine ⟨dumped?, numbered, ?_⟩
    rw [← calls]
    -- A failed dump ends the trace, and is remarked on top of the call.
    exact dumps.remarkFault .traceFailed recorded.fault

/-- A design that fails to settle is told of in the diagnostics, which is no call. -/
theorem makes_recordFault (fault : EvaluationFault) (bench : Bench D H M) :
    Makes [] bench (bench.recordFault fault) := by
  -- The line about the fault goes to a sink, which is no party.
  obtain ⟨diagnostics, remarks, same⟩ := bench.recordFault_eq fault
  rw [same]
  exact .none rfl rfl

/-- Watching for markers makes no call. -/
theorem makes_observeMarkers (bench : Bench D H M) : Makes [] bench bench.observeMarkers := by
  -- Markers are found in the instruction on the pins, for which nothing is asked.
  obtain ⟨_, _, _, _, _, _, same⟩ := bench.observeMarkers_eq
  rw [same]
  exact .none rfl rfl

/-- The design is committed once. -/
theorem makes_commit (bench : Bench D H M) : Makes [.commit false] bench bench.commit :=
  -- The counter that advances with it belongs to the bench.
  .single rfl rfl

end Parts

end Bench

end Testbench
