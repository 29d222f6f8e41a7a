import Testbench.Proofs.Bench.Order
import Testbench.Proofs.Host.Frames
import Testbench.Proofs.Host.Inputs

/-! What one cycle does to the link, to the host and to the host inputs of the design. -/

namespace Testbench

/-- The calls that exchange frames, among others. -/
def exchanges (calls : List Call) : List Call :=
  calls.filter fun call => call.purpose == .exchange

/-- Calls for other purposes exchange nothing. -/
theorem exchanges_eq_nil {calls : List Call}
    (others : ∀ call ∈ calls, call.purpose ≠ .exchange) : exchanges calls = [] := by
  -- A filter leaves nothing exactly when its test fails on every element.
  rw [exchanges, List.filter_eq_nil_iff]
  intro call made same
  exact others call made (beq_iff_eq.mp same)

/-- Calls that are all made for another purpose exchange nothing. -/
theorem exchanges_map_eq_nil {α : Type} {make : α → Call}
    (others : ∀ item, (make item).purpose ≠ .exchange) (items : List α) :
    exchanges (items.map make) = [] :=
  exchanges_eq_nil (List.forall_mem_map.mpr fun item _ => others item)

/-- Later calls exchange frames behind the earlier ones. -/
theorem exchanges_append (calls others : List Call) :
    exchanges (calls ++ others) = exchanges calls ++ exchanges others :=
  -- Keeping calls is a filter, which looks at one call at a time.
  List.filter_append ..

/-- What no call with another purpose carries is all found in the exchanges. -/
theorem filterMap_exchanges {α : Type} {part? : Call → Option α}
    (others : ∀ call, call.purpose ≠ .exchange → part? call = none) (calls : List Call) :
    (exchanges calls).filterMap part? = calls.filterMap part? := by
  -- A call with another purpose carries nothing that could be left out.
  have carried : (fun call : Call => if call.purpose == .exchange then part? call else none) =
      part? := by
    funext call
    by_cases exchanged : call.purpose = .exchange
    · simp [exchanged]
    · simp [exchanged, others call exchanged]
  rw [exchanges, List.filterMap_filter, carried]

/-- Frames are fetched by calls that exchange frames. -/
theorem fetchedFrames_exchanges (calls : List Call) :
    fetchedFrames (exchanges calls) = fetchedFrames calls := by
  apply filterMap_exchanges
  intro call other
  -- A receive is the only call read for its frame, and its purpose is the exchange.
  cases call with
  | receive => exact absurd rfl other
  | _ => rfl

/-- Without calls that exchange frames, none is fetched. -/
theorem fetchedFrames_eq_nil {calls : List Call} (noFrames : exchanges calls = []) :
    fetchedFrames calls = [] := by
  -- Only the calls that exchange frames are read, and there are none of them.
  rw [← fetchedFrames_exchanges, noFrames]
  rfl

/-- The host inputs are driven by calls that exchange frames. -/
theorem Host.Inputs.afterAll_exchanges (calls : List Call) (inputs : Host.Inputs) :
    inputs.afterAll (exchanges calls) = inputs.afterAll calls := by
  -- A call with another purpose leaves the inputs as they are.
  have other : (fun (inputs : Host.Inputs) (call : Call) =>
      if call.purpose == .exchange then inputs.after call else inputs) =
        fun inputs call => inputs.after call := by
    funext inputs call
    cases call <;> rfl
  rw [afterAll, exchanges, List.foldl_filter, other, afterAll]

/-- A turn drives its frame onto the host inputs, and shows that frames are taken. -/
theorem Host.Turn.afterAll_calls (turn : Turn) (inputs : Host.Inputs) :
    inputs.afterAll turn.calls = { valid := turn.valid, word := turn.word, ready := true } := by
  obtain ⟨receipt?, valid, word, sent?⟩ := turn
  -- Neither a receipt nor a frame passed out is seen on the inputs.
  cases receipt? <;> cases sent? <;> rfl

/-- What passes over the link in a cycle, which is nothing when the design fails to settle. -/
def Cycle.turn? (cycle : Cycle) : Option Host.Turn :=
  match cycle.settled with
  | .error _ => none
  | .ok service => service.turn?

/-- In a service frames are exchanged in a turn only. -/
theorem Service.exchanges_calls (service : Service) :
    exchanges service.calls = service.turn?.toList.flatMap Host.Turn.calls := by
  -- The turn, if there is one, does nothing but exchange frames.
  have turns : exchanges (service.turn?.toList.flatMap Host.Turn.calls) =
      service.turn?.toList.flatMap Host.Turn.calls := by
    rw [exchanges, List.filter_eq_self]
    intro call made
    obtain ⟨turn, _, passed⟩ := List.mem_flatMap.mp made
    exact beq_iff_eq.mpr (Host.Turn.purpose_of_mem passed)
  rw [calls, exchanges_append, turns, exchanges_map_eq_nil (by simp [Call.purpose]),
    List.nil_append]

/-- In a cycle frames are exchanged in a turn only. -/
theorem Cycle.exchanges_calls (cycle : Cycle) :
    exchanges cycle.calls = cycle.turn?.toList.flatMap Host.Turn.calls := by
  have serves : exchanges (servingCalls cycle.settled) =
      cycle.turn?.toList.flatMap Host.Turn.calls := by
    rw [turn?]
    cases cycle.settled with
    -- A design that fails to settle has no turn.
    | error fault => rfl
    | ok service => exact service.exchanges_calls
  have settles : exchanges [settleCall cycle.settled] = [] := by
    cases cycle.settled <;> rfl
  have commits : exchanges [.commit false] = [] := rfl
  simp only [calls, exchanges_append, serves, settles, commits]
  -- What is shown to the design, printed and dumped are calls of other kinds.
  rw [exchanges_map_eq_nil (by simp [Call.purpose]), exchanges_map_eq_nil (by simp [Call.purpose]),
    exchanges_map_eq_nil (by simp [Call.purpose])]
  simp only [List.nil_append, List.append_nil]

namespace Bench

section Settling

variable {D H M : Type} [Design D] [Memory M]

/-- The design of a cycle once it has settled. -/
def settledDesign (bench : Bench D H M) : D :=
  (bench.settledIn false).2.design

/-- The host clock has an edge in a cycle. -/
def gated (bench : Bench D H M) : Bool :=
  HostPins.hostEdge bench.settledDesign

/-- The frame that the design accepts in a cycle, which is the one on its way in. -/
def acceptedFrame? (bench : Bench D H M) : Option UInt64 :=
  if bench.gated && HostPins.hostInReady bench.settledDesign then bench.link.pendingFrame? else none

/-- What the link connects in a cycle once the design has settled. -/
theorem connection_settledIn (requested : Bool) (bench : Bench D H M) :
    (bench.settledIn requested).2.design = bench.settledDesign ∧
      (bench.settledIn requested).2.link = bench.linkIn requested ∧
      (bench.settledIn requested).2.host = bench.host := by
  -- The request decides between two benches that differ only in the stop they owe the host.
  cases requested <;> exact ⟨rfl, rfl, rfl⟩

end Settling

variable {D H M : Type} [Design D] [Host H] [Memory M]

/-- The link hands frames over in a cycle: none is lost, none is doubled, and all are counted. -/
structure HandsOver (held : HeldInputs D) (requested : Bool) (before after : Bench D H M)
    (calls : List Call) : Prop where
  made : Makes calls before after
  /-- At the start of the cycle, the design is shown the frame on its way in. -/
  presented : (held.inputs before.design).frame? = before.link.pendingFrame?
  /-- What was on its way or is fetched is either accepted or on its way afterwards. -/
  conserved : before.link.pendingFrame?.toList ++ fetchedFrames calls =
    before.acceptedFrame?.toList ++ after.link.pendingFrame?.toList
  received : after.link.tally.received =
    before.link.tally.received + (fetchedFrames calls).length
  edges : after.link.tally.edges = before.link.tally.edges + before.gated.toNat
  /-- While the design is not ready, the same frame is driven, and the host is not asked. -/
  waits : ∀ word, before.gated = true → before.link.pendingFrame? = some word →
    HostPins.hostInReady before.settledDesign = false →
    after.link.pendingFrame? = some word ∧
      ∃ sent?, exchanges calls =
        [.driveHostIn true word] ++ Host.sendCalls sent? ++ [.driveHostReady true]
  /-- Without an edge of the host clock, nothing of the link changes but a request to stop. -/
  idles : before.gated = false →
    after.link = before.linkIn requested ∧ after.host = before.host ∧
      held.inputs after.design = held.inputs before.design ∧ exchanges calls = []

section Step

variable {bench : Bench D H M} {requested : Bool}

/-- What passes over the link in a cycle does so at an edge of the host clock. -/
theorem turn?_settledIn (requested : Bool) (bench : Bench D H M) :
    (bench.settledIn requested).2.turn? =
      if bench.gated then some (bench.settledIn requested).2.connection.turn else none := by
  -- The clock is read from the settled design, on which the host clock is decided.
  rw [turn?, (bench.connection_settledIn requested).1]
  rfl

/-- A cycle whose design settles leaves the link and the host as the exchange of frames does. -/
theorem link_step_of_sound (requested : Bool) (sound : bench.faultIn = none) :
    let connection := (bench.settledIn requested).2.passOffers.connection
    (bench.step requested).link = connection.exchange.link ∧
      (bench.step requested).host = connection.exchange.host := by
  -- What follows on the service changes neither the link nor the host.
  obtain ⟨_, _, _, _, _, _, _, _, observed⟩ := (bench.settledIn requested).2.observe_none_eq
  rw [step_eq_commit, beforeCommit, sound, observed]
  exact ⟨rfl, rfl⟩

/-- A cycle without an edge of the host clock leaves the link and the host alone. -/
theorem link_step_of_idle (requested : Bool) (sound : bench.faultIn = none)
    (idle : bench.gated = false) :
    (bench.step requested).link = bench.linkIn requested ∧
      (bench.step requested).host = bench.host := by
  obtain ⟨design, link, host⟩ := bench.connection_settledIn requested
  obtain ⟨linkAfter, hostAfter⟩ := link_step_of_sound requested sound
  -- The ticks in between touch nothing that the link connects.
  let connection := (bench.settledIn requested).2.passOffers.connection
  have pins : connection.pins = bench.settledDesign := design
  have alone : connection.exchange = connection :=
    connection.exchange_of_idle (by rw [pins]; exact idle)
  rw [linkAfter, hostAfter, alone]
  exact ⟨link, host⟩

/-- A cycle with an edge of the host clock leaves the link as its turn does. -/
theorem link_step_of_edge (requested : Bool) (sound : bench.faultIn = none)
    (edge : bench.gated = true) :
    (bench.step requested).link =
      (bench.linkIn requested).afterTurn (bench.settledIn requested).2.connection.turn := by
  obtain ⟨design, link, -⟩ := bench.connection_settledIn requested
  let connection := (bench.settledIn requested).2.passOffers.connection
  have pins : connection.pins = bench.settledDesign := design
  -- Offers passed to the memories leave the design alone, so its clock still shows the edge.
  obtain ⟨remarks, passed⟩ := connection.exchange_of_edge (by rw [pins]; exact edge)
  rw [(link_step_of_sound requested sound).1, passed, ← link]
  rfl

/-- The calls of a cycle whose design settles exchange frames in its turn only. -/
theorem makes_turn {count : Nat} (requested : Bool) (wired : bench.Wired count)
    (sound : bench.faultIn = none) :
    ∃ calls, Makes calls bench (bench.step requested) ∧
      exchanges calls =
        (bench.settledIn requested).2.turn?.toList.flatMap Host.Turn.calls := by
  obtain ⟨printed?, dumped?, made⟩ := makes_step requested fun _ => wired
  refine ⟨_, made, ?_⟩
  -- Of the parts of a cycle, only the service of the host makes such calls.
  rw [Cycle.exchanges_calls, Cycle.turn?]
  simp only [settledService, sound]
  rfl

variable {held : HeldInputs D} {calls : List Call}

/-- What is on the host inputs after some calls is driven by those that exchange frames. -/
theorem Makes.inputs (held : HeldInputs D) {after : Bench D H M}
    (made : Makes calls bench after) :
    held.inputs after.design = (held.inputs bench.design).afterAll (exchanges calls) := by
  -- Calls that exchange nothing drive no input, so they may be left out of the fold.
  rw [Host.Inputs.afterAll_exchanges]
  exact held.inputs_of_performed made.performed

/-- Without an edge of the host clock, the link hands nothing over. -/
theorem handsOver_of_idle (sound : bench.faultIn = none) (idle : bench.gated = false)
    (presented : (held.inputs bench.design).frame? = bench.link.pendingFrame?)
    (made : Makes calls bench (bench.step requested)) (exchanged : exchanges calls = []) :
    HandsOver held requested bench (bench.step requested) calls := by
  obtain ⟨linkAfter, hostAfter⟩ := link_step_of_idle requested sound idle
  obtain ⟨pending, tally⟩ := bench.linkIn_eq requested
  have fetched : fetchedFrames calls = [] := fetchedFrames_eq_nil exchanged
  constructor
  case made => exact made
  case presented => exact presented
  case conserved =>
    -- No frame is accepted without an edge, even when the design is ready.
    have accepted : bench.acceptedFrame? = none := by simp [acceptedFrame?, idle]
    rw [fetched, accepted, linkAfter, pending, List.append_nil]
    rfl
  case received =>
    rw [fetched, linkAfter, tally]
    rfl
  case edges =>
    rw [linkAfter, tally, idle]
    rfl
  case waits =>
    intro word edge
    rw [idle] at edge
    cases edge
  case idles =>
    intro _
    have kept := made.inputs held
    rw [exchanged] at kept
    exact ⟨linkAfter, hostAfter, kept, exchanged⟩

/-- At an edge of the host clock, the link hands over what passes in its turn. -/
theorem handsOver_of_edge (sound : bench.faultIn = none) (edge : bench.gated = true)
    (presented : (held.inputs bench.design).frame? = bench.link.pendingFrame?)
    (made : Makes calls bench (bench.step requested))
    (exchanged : exchanges calls = (bench.settledIn requested).2.connection.turn.calls) :
    HandsOver held requested bench (bench.step requested) calls := by
  let connection := (bench.settledIn requested).2.connection
  obtain ⟨design, link, -⟩ := bench.connection_settledIn requested
  obtain ⟨pending, tally⟩ := bench.linkIn_eq requested
  have linkAfter := link_step_of_edge requested sound edge
  -- The turn finds the frame that was on its way at the start of the cycle.
  have same : connection.link.pendingFrame? = bench.link.pendingFrame? := by
    rw [← pending, ← link]
    rfl
  have pins : connection.pins = bench.settledDesign := design
  have fetched : fetchedFrames calls = fetchedFrames connection.turn.calls := by
    rw [← fetchedFrames_exchanges, exchanged]
  constructor
  case made => exact made
  case presented => exact presented
  case conserved =>
    -- What is accepted is read off the settled pins, before the host is asked for more.
    have accepted : connection.accepted? = bench.acceptedFrame? := by
      rw [Host.Connection.accepted?, acceptedFrame?, edge, pins, same, Bool.true_and]
    have conserved := connection.pending_append_fetched
    rw [accepted, same] at conserved
    rw [fetched, linkAfter, ← link]
    exact conserved
  case received =>
    rw [fetched, linkAfter, Host.Link.received_afterTurn, tally]
  case edges =>
    rw [linkAfter, Host.Link.edges_afterTurn, tally, edge]
    rfl
  case waits =>
    intro word _ waiting busy
    rw [← same] at waiting
    rw [← pins] at busy
    -- A design that is busy leaves the frame in place, and the host is not asked.
    obtain ⟨unasked, valid, driven⟩ := Host.Connection.turn_of_held waiting busy
    have still := connection.frame?_turn
    rw [if_pos valid, driven] at still
    refine ⟨?_, connection.turn.sent?, ?_⟩
    · rw [linkAfter, ← link]
      exact still.symm
    · rw [exchanged, Host.Turn.calls, unasked, valid, driven]
      rfl
  case idles =>
    intro idle
    rw [edge] at idle
    cases idle

/-- In a cycle whose design settles, the link hands frames over, and drives the one on its way. -/
theorem handsOver_step {count : Nat} (requested : Bool) (wired : bench.Wired count)
    (sound : bench.faultIn = none)
    (presented : (held.inputs bench.design).frame? = bench.link.pendingFrame?) :
    ∃ calls, HandsOver held requested bench (bench.step requested) calls ∧
      (held.inputs (bench.step requested).design).frame? =
        (bench.step requested).link.pendingFrame? := by
  obtain ⟨calls, made, exchanged⟩ := makes_turn requested wired sound
  have driven := made.inputs held
  refine ⟨calls, ?_⟩
  rw [turn?_settledIn] at exchanged
  cases edge : bench.gated with
  | false =>
    -- The inputs and the frame on its way both stay.
    simp only [edge, Bool.false_eq_true, if_false, Option.toList_none, List.flatMap_nil]
      at exchanged
    have hands := handsOver_of_idle sound edge presented made exchanged
    obtain ⟨link, -, inputs, -⟩ := hands.idles edge
    exact ⟨hands, by rw [inputs, link, (bench.linkIn_eq requested).1, presented]⟩
  | true =>
    simp only [edge, if_true, Option.toList_some, List.flatMap_singleton] at exchanged
    have hands := handsOver_of_edge sound edge presented made exchanged
    refine ⟨hands, ?_⟩
    -- The turn drives the frame that it leaves on its way, so the next cycle is shown that.
    rw [driven, exchanged, Host.Turn.afterAll_calls, link_step_of_edge requested sound edge,
      ← (bench.connection_settledIn requested).2.1]
    exact (bench.settledIn requested).2.connection.frame?_turn

end Step

end Bench

end Testbench
