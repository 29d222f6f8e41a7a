import Testbench.Proofs.Bench.Delivery
import Testbench.Proofs.Host.Outbox

/-! Outbound frames are sent exactly once and in order, over any number of cycles. -/

namespace Testbench

/-- Frames are passed out by calls that exchange frames. -/
theorem sentFrames_exchanges (calls : List Call) :
    sentFrames (exchanges calls) = sentFrames calls := by
  apply filterMap_exchanges
  intro call other
  -- A send is the only call read for its frame, and its purpose is the exchange.
  cases call with
  | send => exact absurd rfl other
  | _ => rfl

/-- Without calls that exchange frames, none is passed out. -/
theorem sentFrames_eq_nil {calls : List Call} (noFrames : exchanges calls = []) :
    sentFrames calls = [] := by
  -- Only the calls that exchange frames are read, and there are none of them.
  rw [← sentFrames_exchanges, noFrames]
  rfl

namespace Bench

section Dump

variable {D H M : Type} [Design D] {Kept : Type} {kept : D → Kept}

/-- What dumps leave alone stays when a cycle is recorded. -/
theorem kept_recordTrace
    (dump : ∀ cycle design sink, kept (Design.dump cycle design sink).2.1 = kept design)
    (bench : Bench D H M) : kept bench.recordTrace.design = kept bench.design := by
  unfold recordTrace
  split
  · rfl
  · rename_i recorder _
    let cycle := bench.counter.cycles
    let recorded := recorder.record cycle bench.design bench.sinks.traceSink
    have dumped : kept recorded.design = kept bench.design := by
      simp only [recorded, Trace.Recorder.record]
      -- A cycle that is not one to record leaves the design as it is.
      split
      · exact dump ..
      · rfl
    -- A failure is remarked, which is nothing to the design.
    obtain ⟨remarks, same⟩ := remarkFault_eq .traceFailed recorded.fault
      { bench with
        design := recorded.design
        sinks := bench.sinks.withTrace recorded.sink
        recorder := recorded.recorder?
        journal := bench.journal.callAll (recorded.calls cycle) }
    exact (congrArg (fun told : Bench D H M => kept told.design) same).trans dumped

variable [Host H] [Memory M]

/-- What dumps leave alone stays between the exchange of frames and the commit. -/
theorem kept_observe
    (dump : ∀ cycle design sink, kept (Design.dump cycle design sink).2.1 = kept design)
    (bench : Bench D H M) :
    kept (bench.observe none).design = kept bench.passOffers.exchange.design := by
  let served := bench.passOffers.exchange
  obtain ⟨_, _, printed⟩ := served.printDesign_eq
  obtain ⟨_, _, _, _, _, _, watched⟩ := served.printDesign.observeMarkers_eq
  have opened : bench.observe none = served.printDesign.observeMarkers.recordTrace := rfl
  -- Prints and markers leave the design as it is; the dump keeps what is asked about.
  rw [opened, kept_recordTrace dump, watched, printed]

end Dump

section Reset

variable {D H M : Type} [Design D] (queued : QueuedOutput D)

/-- Clocking a design in reset leaves the queue alone as long as no frames are taken. -/
theorem outbox_resetCycles (left missing clocked : Nat) (bench : Bench D H M)
    (idle : (queued.outbox bench.design).ready = false) :
    queued.outbox (bench.resetCycles missing clocked left).2.design =
      queued.outbox bench.design := by
  apply resetCycles_preserves fun after : Bench D H M =>
    queued.outbox after.design = queued.outbox bench.design
  case settles => exact fun after same => (queued.settle true after.design).trans same
  case commits =>
    intro after same
    -- Nothing is driven in between, so no frames are taken at the next edge either.
    have still : (queued.outbox after.design).ready = false := by rw [same, idle]
    exact (queued.commitReset after.design still).trans same
  case before => rfl

/-- After a reset, the queue is what it was, and no frames are taken. -/
theorem outbox_reset (bench : Bench D H M) :
    queued.outbox bench.reset.2.design = { queued.outbox bench.design with ready := false } := by
  -- The link idles before the first cycle, so no frames are taken from then on.
  have idle : queued.outbox bench.holdIdle.design =
      { queued.outbox bench.design with ready := false } := by
    have drives : bench.holdIdle.design =
        HostPins.driveHostReady false (HostPins.driveHostIn false 0 bench.design) := rfl
    rw [drives, queued.driveHostReady, queued.driveHostIn]
  obtain ⟨_, same⟩ := bench.reset_eq
  rw [same, ← idle]
  exact outbox_resetCycles queued maxResetCycles resetEdges 0 bench.holdIdle (by rw [idle])

end Reset

section Asking

variable {D H M : Type} [Host H]

/-- Asking whether to go on leaves the design and the width of the frames alone. -/
theorem design_ready (ask : Bool) (bench : Bench D H M) :
    (bench.ready ask).design = bench.design ∧
      (bench.ready ask).link.frameBytes = bench.link.frameBytes := by
  cases ask with
  | false => exact ⟨rfl, rfl⟩
  | true =>
    obtain ⟨_, _, _, same⟩ := bench.asked_eq
    -- Of the link, a question changes whether a stop was forwarded, and nothing else.
    rw [ready, if_pos rfl, same]
    exact ⟨rfl, rfl⟩

end Asking

section Settling

variable {D H M : Type} [Design D] [Memory M]

/-- Up to settling, the queue stays. -/
theorem outbox_settledDesign (queued : QueuedOutput D) (bench : Bench D H M) :
    queued.outbox bench.settledDesign = queued.outbox bench.design := by
  have drives : ∀ (channels : List (Channel M)) design,
      queued.outbox (channels.foldl (fun design channel =>
        Design.driveChannel channel.gate.channel channel.presented design) design) =
          queued.outbox design := by
    -- Settling drives one channel after the other, so the induction is on the channels.
    intro channels
    induction channels with
    | nil => exact fun _ => rfl
    | cons channel channels ih => exact fun design => (ih _).trans (queued.driveChannel ..)
  exact (queued.settle false _).trans (drives bench.channels bench.design)

end Settling

section Step

variable {D H M : Type} [Design D] [Host H] [Memory M]
variable (queued : QueuedOutput D) {bench : Bench D H M}

/--
A cycle takes the head off the queue exactly when the host clock has an edge.

Whether frames were taken before does not matter, as the link tells so before the commit.
-/
theorem outbox_step (requested : Bool) (sound : bench.faultIn = none) :
    queued.outbox (bench.step requested).design =
      if bench.gated then { queue := (queued.outbox bench.design).queue.tail, ready := true }
      else queued.outbox bench.design := by
  let connection := (bench.settledIn requested).2.passOffers.connection
  have pins : connection.pins = bench.settledDesign := (bench.connection_settledIn requested).1
  have still := outbox_settledDesign queued bench
  -- The frames of the cycle are exchanged last before the commit, apart from a dump.
  have shown : queued.outbox (bench.beforeCommit requested).design =
      queued.outbox connection.exchange.pins := by
    rw [beforeCommit, sound]
    exact kept_observe queued.dump _
  have edge : HostPins.hostEdge (bench.beforeCommit requested).design =
      HostPins.hostEdge connection.exchange.pins := by
    rw [beforeCommit, sound]
    exact kept_observe queued.edgeDump _
  have commits : queued.outbox (bench.step requested).design =
      (queued.outbox connection.exchange.pins).afterCommit
        (HostPins.hostEdge connection.exchange.pins) := by
    rw [step_eq_commit, ← shown, ← edge]
    exact queued.commit _
  rw [commits]
  cases clocked : bench.gated with
  | false =>
    -- Without an edge nothing is driven, and the commit keeps the queue.
    have idle : HostPins.hostEdge connection.pins = false := by
      rw [pins]
      exact clocked
    rw [connection.exchange_of_idle idle, idle, pins, still]
    rfl
  | true =>
    -- The link shows that frames are taken, and the commit that follows sees it.
    have clocks : HostPins.hostEdge connection.pins = true := by
      rw [pins]
      exact clocked
    obtain ⟨_, passed⟩ := connection.exchange_of_edge clocks
    rw [passed]
    simp only [queued.edgeDriveReady, queued.edgeDriveIn, clocks, queued.driveHostReady,
      queued.driveHostIn]
    rw [pins, still]
    rfl

/-- A cycle leaves the width of the frames alone. -/
theorem frameBytes_step (requested : Bool) (sound : bench.faultIn = none) :
    (bench.step requested).link.frameBytes = bench.link.frameBytes := by
  have width : (bench.linkIn requested).frameBytes = bench.link.frameBytes := by
    cases requested <;> rfl
  rw [← width]
  -- Without an edge the link is as it came, and with one a turn has passed over it.
  cases clocked : bench.gated with
  | false => rw [(link_step_of_idle requested sound clocked).1]
  | true => rw [link_step_of_edge requested sound clocked, Host.Link.frameBytes_afterTurn]

end Step

section Passing

variable {D H M : Type} [Design D] [Host H] [Memory M]

/-- The frames in the queue as the host would get them, each reduced to the width of a frame. -/
def queuedFrames (queued : QueuedOutput D) (bench : Bench D H M) : List (List UInt8) :=
  (queued.outbox bench.design).queue.map (Host.bytesOfWord bench.link.frameBytes)

/-- Calls pass frames to the host: the first ones of the queue, each once, and all are counted. -/
structure PassesOut (queued : QueuedOutput D) (calls : List Call) (before after : Bench D H M) :
    Prop where
  made : Makes calls before after
  /-- The frames sent, followed by those still in the queue, are those in the queue before. -/
  conserved : sentFrames calls ++ after.queuedFrames queued = before.queuedFrames queued
  sent : after.link.tally.sent = before.link.tally.sent + (sentFrames calls).length
  width : after.link.frameBytes = before.link.frameBytes

variable {queued : QueuedOutput D}

/-- Later calls pass the frames that the earlier ones have left. -/
theorem PassesOut.append {calls others : List Call} {before between after : Bench D H M}
    (first : PassesOut queued calls before between)
    (second : PassesOut queued others between after) :
    PassesOut queued (calls ++ others) before after where
  made := first.made.append second.made
  conserved := by
    -- Sent by the second part and queued behind it is what was queued in between.
    rw [sentFrames_append, List.append_assoc, second.conserved, first.conserved]
  sent := by
    rw [second.sent, first.sent, sentFrames_append, List.length_append, Nat.add_assoc]
  width := second.width.trans first.width

/-- Asking whether to go on passes no frames. -/
theorem passesOut_ready (queued : QueuedOutput D) (ask : Bool) (bench : Bench D H M) :
    ∃ calls, PassesOut queued calls bench (bench.ready ask) := by
  obtain ⟨calls, made, noFrames⟩ := makes_ready ask bench
  obtain ⟨design, width⟩ := design_ready ask bench
  have none : sentFrames calls = [] := sentFrames_eq_nil noFrames
  -- Nothing is sent, and queue, tally and width are where they were.
  refine ⟨calls, made, ?_, ?_, width⟩
  · rw [none, queuedFrames, design, width]
    rfl
  · rw [none, (link_ready ask bench).2]
    rfl

/-- A cycle whose design settles passes the head of the queue at an edge of the host clock. -/
theorem passesOut_step (queued : QueuedOutput D) {count : Nat} {bench : Bench D H M}
    (requested : Bool) (wired : bench.Wired count) (sound : bench.faultIn = none) :
    ∃ calls, PassesOut queued calls bench (bench.step requested) := by
  let connection := (bench.settledIn requested).2.connection
  obtain ⟨design, link, -⟩ := bench.connection_settledIn requested
  obtain ⟨calls, made, exchanged⟩ := makes_turn requested wired sound
  have outbox := outbox_step queued requested sound
  have width := frameBytes_step requested sound
  have tally : (bench.linkIn requested).tally = bench.link.tally := (bench.linkIn_eq requested).2
  rw [turn?_settledIn] at exchanged
  refine ⟨calls, ?_⟩
  cases edge : bench.gated with
  | false =>
    -- The link passes nothing, and the queue stays.
    simp only [edge, Bool.false_eq_true, if_false, Option.toList_none, List.flatMap_nil]
      at exchanged outbox
    have none : sentFrames calls = [] := sentFrames_eq_nil exchanged
    refine ⟨made, ?_, ?_, width⟩
    · rw [none, queuedFrames, outbox, width]
      rfl
    · rw [none, (link_step_of_idle requested sound edge).1, tally]
      rfl
  | true =>
    simp only [edge, if_true, Option.toList_some, List.flatMap_singleton] at exchanged outbox
    -- What is sent is the head of the queue, which the commit takes off.
    have sent : sentFrames calls = ((queued.outbox bench.design).queue.head?.map
        (Host.bytesOfWord bench.link.frameBytes)).toList := by
      have pins : connection.pins = bench.settledDesign := design
      have same : connection.link.frameBytes = bench.link.frameBytes := by
        rw [show connection.link = _ from link]
        cases requested <;> rfl
      rw [← sentFrames_exchanges, exchanged, Host.Turn.sentFrames_calls,
        Host.Connection.sent?_turn queued, pins, outbox_settledDesign, same]
    refine ⟨made, ?_, ?_, width⟩
    · rw [sent, queuedFrames, queuedFrames, outbox, width]
      cases (queued.outbox bench.design).queue <;> rfl
    · rw [link_step_of_edge requested sound edge, Host.Link.sent_afterTurn, tally,
        ← exchanged, sentFrames_exchanges]

/-- Every cycle whose design settles passes frames on from where the cycles before have led. -/
theorem passesOut_steps (queued : QueuedOutput D) {channels : Nat} {start : Bench D H M}
    (wired : start.Wired channels) (asks requests : Nat → Bool) (count : Nat)
    (sound : start.Sound asks requests count) :
    ∃ calls, PassesOut queued calls start (start.steps asks requests count) := by
  -- A cycle more is a question, which passes nothing, and then a cycle that settles.
  induction count with
  | zero => exact ⟨[], .none rfl rfl, rfl, rfl, rfl⟩
  | succ count ih =>
    obtain ⟨calls, passed⟩ := ih fun cycle within => sound cycle (Nat.lt_succ_of_lt within)
    obtain ⟨questions, asked⟩ := passesOut_ready queued (asks count)
      (start.steps asks requests count)
    have numbered : (start.atCycle asks requests count).Wired channels :=
      (wired.steps asks requests count).of_numbers (by rw [atCycle, channels_ready])
    obtain ⟨more, further⟩ := passesOut_step queued (requests count) numbered
      (sound count (Nat.lt_succ_self count))
    exact ⟨_, (passed.append asked).append further⟩

/-- Frames are taken from the first edge of the host clock on, if they were not before. -/
theorem takes_steps (queued : QueuedOutput D) (asks requests : Nat → Bool) (count : Nat)
    {start : Bench D H M} (sound : start.Sound asks requests count) :
    (queued.outbox (start.steps asks requests count).design).ready =
      ((queued.outbox start.design).ready ||
        decide (0 < start.gatedCycles asks requests count)) := by
  induction count with
  | zero => simp [steps, gatedCycles]
  | succ count ih =>
    have earlier := ih fun cycle within => sound cycle (Nat.lt_succ_of_lt within)
    have last := outbox_step queued (requests count) (sound count (Nat.lt_succ_self count))
    have same : (start.atCycle asks requests count).design =
        (start.steps asks requests count).design := (design_ready ..).1
    have next : start.steps asks requests (count + 1) =
        (start.atCycle asks requests count).step (requests count) := rfl
    rw [next, last, gatedCycles_succ]
    cases (start.atCycle asks requests count).gated with
    | true => simp
    | false =>
      -- There was no edge in the last cycle, so it leaves this as it was.
      rw [if_neg Bool.false_ne_true, same, earlier]
      rfl

/--
After a reset, frames are sent exactly once and in order in all cycles that settle.

The design may be any that shows the head of a queue, and the host clock may have an edge in any
cycle.
No frames are taken until its first edge, and they are taken ever after.
-/
theorem passesOut_of_reset (queued : QueuedOutput D) {settings : Settings} {design : D} {host : H}
    {memories : List M} {origin bench start : Bench D H M} {clocked : Nat}
    (assembled : assemble settings design host memories = .ok origin)
    (reached : origin.Reached bench) (released : bench.reset = (.ok clocked, start))
    (asks requests : Nat → Bool) :
    queued.outbox start.design = { queued.outbox bench.design with ready := false } ∧
    (bench.Fresh → start.link.tally.sent = 0) ∧
    ∀ count, start.Sound asks requests count →
      (∃ calls, PassesOut queued calls start (start.steps asks requests count)) ∧
      (queued.outbox (start.steps asks requests count).design).ready =
        decide (0 < start.gatedCycles asks requests count) := by
  have same : bench.reset.2 = start := by rw [released]
  have wired := reached.reset.wired (wired_of_assemble assembled)
  have idle := outbox_reset queued bench
  rw [same] at wired idle
  -- The queue after the reset, the tally of a fresh bench, and then any number of cycles.
  refine ⟨idle, ?_, ?_⟩
  · intro fresh
    have startFresh : start.Fresh := same ▸ fresh.reset
    rw [startFresh.link]
  · intro count sound
    -- The reset has left the host not ready, so it is ready from the first edge on.
    have takes := takes_steps queued asks requests count sound
    rw [idle, Bool.false_or] at takes
    exact ⟨passesOut_steps queued wired asks requests count sound, takes⟩

end Passing

end Bench

/-- A design with frames for its host, whose clock has an edge in the cycles listed. -/
structure QueuedDesign where
  edges : List Bool
  outbox : Host.Outbox := {}
  /-- The cycles clocked so far, also in reset. -/
  clocked : Nat := 0

/-- The host clock has an edge in the current cycle. -/
def QueuedDesign.edge (design : QueuedDesign) : Bool :=
  design.edges.getD design.clocked false

instance : Design QueuedDesign where
  hostEdge := QueuedDesign.edge
  hostInReady _ := true
  driveHostIn _ _ design := design
  hostOut design := design.outbox.queue.head?
  driveHostReady ready design := { design with outbox := { design.outbox with ready } }
  hostWidth _ := 16
  initialise _ design := design
  geometry _ := { channels := 0, base := 0, defaultBytes := 0, beatBytes := 8, lineBytes := 64 }
  driveChannel _ _ design := design
  offers _ _ := {}
  settle _ design := (none, design)
  commit reset design :=
    let outbox := if reset then design.outbox else design.outbox.afterCommit design.edge
    { design with outbox, clocked := design.clocked + 1 }
  instruction _ := 0x13
  dump _ design sink := (none, design, sink)
  print _ sink := (none, sink)

/-- A queued design shows the head of its queue. -/
def QueuedDesign.queued : QueuedOutput QueuedDesign where
  outbox := QueuedDesign.outbox
  hostOut _ := rfl
  driveHostIn _ _ _ := rfl
  driveHostReady _ _ := rfl
  driveChannel _ _ _ := rfl
  settle _ _ := rfl
  dump _ _ _ := rfl
  commit _ := rfl
  commitReset _ _ := rfl
  edgeDriveIn _ _ _ := rfl
  edgeDriveReady _ _ := rfl
  edgeDump _ _ _ := rfl

namespace Bench

/-- A frame is sent at the edge right after a reset, and the next one after a gap of two cycles. -/
theorem passesOut_of_edges :
    let design : QueuedDesign := {
      edges := [false, true, true, true, false, false, true, true]
      outbox := { queue := [0x10203, 7, 9], ready := true } }
    let bench : Bench QueuedDesign StagedHost Memory.Ideal :=
      { settings := {}, design, host := {}, channels := [], link := { frameBytes := 2 } }
    let requests := fun _ => false
    let start := bench.reset.2
    start.Sound requests requests 4 ∧
    (start.steps requests requests 4).host.sent = [[3, 2], [7, 0]] ∧
    start.queuedFrames QueuedDesign.queued = [[3, 2], [7, 0], [9, 0]] ∧
    (start.steps requests requests 4).queuedFrames QueuedDesign.queued = [[9, 0]] ∧
    (∃ calls, PassesOut QueuedDesign.queued calls start (start.steps requests requests 4)) ∧
    (start.steps requests requests 4).design.outbox.ready =
      decide (0 < start.gatedCycles requests requests 4) := by
  intro design bench requests start
  have assembled : assemble {} design {} [] = .ok bench := by
    have link : Host.Link.ofWidth 16 = .ok { frameBytes := 2 } := rfl
    simp [assemble, Design.geometry, HostPins.hostWidth, link, bench]
  -- The host clock has an edge at the end of each of the first three cycles.
  have released : bench.reset = (.ok 3, start) := Prod.ext rfl rfl
  have sound : start.Sound requests requests 4 := by
    show ∀ cycle < 4, (start.atCycle requests requests cycle).faultIn = none
    decide +kernel
  have sent : (start.steps requests requests 4).host.sent = [[3, 2], [7, 0]] := by decide +kernel
  have before : start.queuedFrames QueuedDesign.queued = [[3, 2], [7, 0], [9, 0]] := by
    decide +kernel
  -- Two of the three frames have left the queue, and the third is still in it.
  have after : (start.steps requests requests 4).queuedFrames QueuedDesign.queued = [[9, 0]] := by
    decide +kernel
  clear_value bench start
  exact ⟨sound, sent, before, after,
    (passesOut_of_reset QueuedDesign.queued assembled .start released requests requests).2.2
      4 sound⟩

end Bench

end Testbench
