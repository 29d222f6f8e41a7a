import Testbench.Channel.Basic
import Testbench.Proofs.Memory.Ticks

/-! The wires of a channel in a cycle tell what the memory behind it does in that cycle. -/

namespace Testbench.Channel

/-- The wires of a channel in one cycle: what the design is shown, and what it shows. -/
structure Wires where
  shown : Presented
  offers : Offers
  deriving DecidableEq

namespace Wires

/-- The read request that passes in a cycle: it is valid, and the design is told of readiness. -/
def acceptedRead? (wires : Wires) : Option AddressRequest :=
  if wires.offers.read.valid && wires.shown.ready.read then some wires.offers.read else none

/-- The write request that passes in a cycle. -/
def acceptedWrite? (wires : Wires) : Option AddressRequest :=
  if wires.offers.write.valid && wires.shown.ready.write then some wires.offers.write else none

/-- The write beat that passes in a cycle. -/
def acceptedBeat? (wires : Wires) : Option WriteBeat :=
  if wires.offers.beat.valid && wires.shown.ready.beat then some wires.offers.beat else none

/-- The read beat that passes in a cycle: it is shown as valid, and the design takes it. -/
def takenBeat? (wires : Wires) : Option ReadBeat :=
  if wires.shown.readBeat.valid && wires.offers.takesRead then some wires.shown.readBeat else none

/-- The write answer that passes in a cycle. -/
def takenAnswer? (wires : Wires) : Option WriteAnswer :=
  if wires.shown.answer.valid && wires.offers.takesAnswer then some wires.shown.answer else none

end Wires

section Cycle

variable {M : Type} [Memory M]

/-- One cycle of a channel: its memory is shown, and then gets what the design offers. -/
def afterCycle (offers : Offers) (channel : Channel M) : Channel M :=
  channel.afterShow.afterOffers offers

/-- The wires of a channel in a cycle with some offers. -/
def wires (offers : Offers) (channel : Channel M) : Wires :=
  { shown := channel.presented, offers }

/-- A part of the offers is consumed when the memory would be another without it. -/
def Consumes (without : Offers → Offers) (offers : Offers) (channel : Channel M) : Prop :=
  (channel.afterCycle offers).memory ≠ (channel.afterCycle (without offers)).memory

end Cycle

variable {offers : Offers} {channel : Channel Memory.Ideal}

/-- The write burst that is finished in a cycle, which is the one whose last beat passes. -/
def finishedBurst? (offers : Offers) (channel : Channel Memory.Ideal) :
    Option Memory.WriteBurst :=
  if (channel.wires offers).acceptedBeat?.isSome then
    channel.memory.burst.filter fun burst => burst.later == 0
  else none

/-- The design and the memory agree in a cycle about everything that passes between them. -/
structure Agrees (offers : Offers) (channel : Channel Memory.Ideal) : Prop where
  /-- A request is consumed exactly if the design is told so while it shows it. -/
  read : channel.Consumes Offers.withoutRead offers ↔
    offers.read.valid = true ∧ channel.presented.ready.read = true
  write : channel.Consumes Offers.withoutWrite offers ↔
    offers.write.valid = true ∧ channel.presented.ready.write = true
  beat : channel.Consumes Offers.withoutBeat offers ↔
    offers.beat.valid = true ∧ channel.presented.ready.beat = true
  /-- A beat or an answer leaves exactly if the design takes it while it is shown as valid. -/
  takenBeat : channel.Consumes Offers.refusingBeat offers ↔
    channel.presented.readBeat.valid = true ∧ offers.takesRead = true
  takenAnswer : channel.Consumes Offers.refusingAnswer offers ↔
    channel.presented.answer.valid = true ∧ offers.takesAnswer = true
  /-- The beat that leaves is the one shown, and the beats of a read that passes join. -/
  readBeats :
    (channel.wires offers).takenBeat?.toList ++ (channel.afterCycle offers).memory.reads.toList =
      channel.memory.reads.toList ++
        (channel.wires offers).acceptedRead?.toList.flatMap fun request =>
          Memory.burstBeats channel.memory.cells channel.memory.width
            (relocate channel.gate.base request)
  /-- The answer that leaves is the one shown, and the answer to a finished burst joins. -/
  answers :
    (channel.wires offers).takenAnswer?.toList.map WriteAnswer.id ++
        (channel.afterCycle offers).memory.answers.toList =
      channel.memory.answers.toList ++
        (channel.finishedBurst? offers).toList.map Memory.WriteBurst.id
  /-- A passing write request starts a burst, and a passing beat moves it on. -/
  burst : (channel.afterCycle offers).memory.burst =
    match (channel.wires offers).acceptedWrite?, (channel.wires offers).acceptedBeat? with
    | some request, _ =>
      some (.ofRequest channel.memory.width (relocate channel.gate.base request))
    | none, some _ => channel.memory.burst.bind Memory.WriteBurst.next?
    | none, none => channel.memory.burst

/-- Without a burst in flight, a valid write request passes, and no write beat does. -/
theorem accepted_of_idle (offers : Offers) (idle : channel.memory.burst = none) :
    (channel.wires offers).acceptedWrite? =
        (if offers.write.valid then some offers.write else none) ∧
      (channel.wires offers).acceptedBeat? = none := by
  -- Readiness for requests and for beats depends on the burst in flight alone.
  have write : channel.presented.ready.write = true := by
    simp [presented, Memory.presented, Memory.Ideal.presented, Memory.Ideal.ready, idle]
  have beat : channel.presented.ready.beat = false := by
    simp [presented, Memory.presented, Memory.Ideal.presented, Memory.Ideal.ready, idle]
  simp [Wires.acceptedWrite?, Wires.acceptedBeat?, Channel.wires, write, beat]

/-- While a burst is in flight, a valid write beat passes, and no write request does. -/
theorem accepted_of_burst (offers : Offers) {burst : Memory.WriteBurst}
    (inFlight : channel.memory.burst = some burst) :
    (channel.wires offers).acceptedWrite? = none ∧
      (channel.wires offers).acceptedBeat? =
        (if offers.beat.valid then some offers.beat else none) := by
  -- The two kinds of readiness exclude each other: here the beats have it.
  have write : channel.presented.ready.write = false := by
    simp [presented, Memory.presented, Memory.Ideal.presented, Memory.Ideal.ready, inFlight]
  have beat : channel.presented.ready.beat = true := by
    simp [presented, Memory.presented, Memory.Ideal.presented, Memory.Ideal.ready, inFlight]
  simp [Wires.acceptedWrite?, Wires.acceptedBeat?, Channel.wires, write, beat]

/-- The burst that the memory finishes is the one whose last beat passes on the wires. -/
theorem finishedBurst?_eq (offers : Offers) (channel : Channel Memory.Ideal) :
    channel.finishedBurst? offers =
      channel.memory.finishedBurst? (channel.gate.relocated offers) := by
  have valid : (channel.gate.relocated offers).beat.valid = offers.beat.valid := rfl
  unfold finishedBurst? Memory.Ideal.finishedBurst? Memory.Ideal.acceptedBeat?
  -- Relocation does not touch the beat, so the case is decided by the burst in flight.
  cases inFlight : channel.memory.burst with
  | none =>
    rw [(accepted_of_idle offers inFlight).2, ite_self]
    rfl
  | some burst =>
    rw [(accepted_of_burst offers inFlight).2, valid]
    cases offers.beat.valid <;> rfl

/-- In every cycle the design and the memory agree about what passes. -/
theorem agrees_afterCycle (answering : channel.memory.Answering) (offers : Offers) :
    channel.Agrees offers := by
  let memory := channel.memory
  let relocated := channel.gate.relocated offers
  constructor
  -- The gate passes all offers on, and only relocates the addresses of the requests.
  case read => exact Memory.Ideal.tick_withoutRead_ne_iff
  case write => exact Memory.Ideal.tick_withoutWrite_ne_iff
  case beat => exact Memory.Ideal.tick_withoutBeat_ne_iff
  case takenBeat => exact Memory.Ideal.tick_refusingBeat_ne_iff answering
  case takenAnswer => exact Memory.Ideal.tick_refusingAnswer_ne_iff
  case readBeats =>
    have taken : (channel.wires offers).takenBeat?.toList =
        if relocated.takesRead && memory.presented.readBeat.valid then
          [memory.presented.readBeat] else [] := by
      rw [Wires.takenBeat?, apply_ite Option.toList, Bool.and_comm]
      rfl
    -- Ideal memory is always ready for a read.
    have joins : ((channel.wires offers).acceptedRead?.toList.flatMap fun request =>
        Memory.burstBeats memory.cells memory.width (relocate channel.gate.base request)) =
        if relocated.read.valid then
          Memory.burstBeats memory.cells memory.width relocated.read else [] := by
      have ready : (channel.wires offers).shown.ready.read = true := rfl
      have valid : relocated.read.valid = offers.read.valid := rfl
      rw [Wires.acceptedRead?, ready, Bool.and_true, valid]
      cases shown : offers.read.valid <;> simp [Channel.wires, shown, relocated, Gate.relocated]
    rw [taken, joins]
    exact Memory.Ideal.reads_tick answering relocated
  case answers =>
    -- The queue holds the bursts to answer, and an answer tells its burst.
    have taken : (channel.wires offers).takenAnswer?.toList.map WriteAnswer.id =
        if relocated.takesAnswer && memory.presented.answer.valid then
          [memory.presented.answer.id] else [] := by
      rw [Wires.takenAnswer?, apply_ite Option.toList, apply_ite (List.map WriteAnswer.id),
        Bool.and_comm]
      rfl
    rw [taken, finishedBurst?_eq]
    exact Memory.Ideal.answers_tick memory relocated
  case burst =>
    -- Either there is no burst and only a request can pass, or there is one and only a beat can.
    have after : (channel.afterCycle offers).memory.burst = memory.burstAfter relocated := rfl
    rw [after, Memory.Ideal.burstAfter]
    cases inFlight : channel.memory.burst with
    | none =>
      obtain ⟨write, beat⟩ := accepted_of_idle offers inFlight
      rw [write, beat]
      cases shown : offers.write.valid <;>
        simp [memory, relocated, Gate.relocated, relocate, shown]
    | some burst =>
      obtain ⟨write, beat⟩ := accepted_of_burst offers inFlight
      rw [write, beat]
      cases shown : offers.beat.valid <;>
        simp [relocated, Gate.relocated, shown]

end Testbench.Channel
