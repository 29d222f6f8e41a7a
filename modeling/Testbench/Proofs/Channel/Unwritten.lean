import Testbench.Proofs.Channel.Handshakes

/-! A design reads the first contents of a memory for as long as it has written nothing. -/

namespace Testbench

namespace Memory

/-- A read of a single word inside of the memory is answered by the cells of the word. -/
theorem burstBeats_of_single {cells : Array UInt8} {width : Nat} {request : AddressRequest}
    (single : request.lastBeat = 0) (aligned : width ∣ request.address.toNat)
    (within : request.address.toNat + width ≤ cells.size) :
    burstBeats cells width request =
      [{ valid := true
         code := okayCode
         id := request.id
         data := (List.range width).map fun lane => cells.getD (request.address.toNat + lane) 0
         last := true }] := by
  -- An aligned address is the first one of its word, and the first beat is read there.
  have start : (wordStart width request.address.toNat + 0 * width) % addressCount =
      request.address.toNat := by
    rw [wordStart, Nat.mod_eq_zero_of_dvd aligned, Nat.sub_zero, Nat.zero_mul, Nat.add_zero]
    exact Nat.mod_eq_of_lt request.address.toNat_lt
  have word : readWord cells width request.address.toNat =
      (List.range width).map fun lane => cells.getD (request.address.toNat + lane) 0 := by
    refine List.map_congr_left fun lane onBus => ?_
    -- The word ends inside of the memory, so neither its start nor a lane wraps around.
    have inside : request.address.toNat + lane < cells.size :=
      Nat.lt_of_lt_of_le (Nat.add_lt_add_left (List.mem_range.mp onBus) _) within
    have first := Nat.lt_of_le_of_lt (Nat.le_add_right _ _) inside
    rw [cellOf, Nat.mod_eq_of_lt first, Nat.mod_eq_of_lt inside]
  have one : request.beats = 1 := by rw [AddressRequest.beats, single]; rfl
  simp only [burstBeats, one, List.range_one, List.map_singleton, start, word, single]
  rfl

end Memory

namespace Channel

/-- What a channel keeps from its start on as long as no write beat passes. -/
structure Unwritten (start channel : Channel Memory.Ideal) : Prop where
  answering : channel.memory.Answering
  cells : channel.memory.cells = start.memory.cells
  width : channel.memory.width = start.memory.width
  base : channel.gate.base = start.gate.base

/-- A cycle in which no write beat passes writes nothing. -/
theorem cells_afterCycle {channel : Channel Memory.Ideal} {offers : Offers}
    (noBeat : (channel.wires offers).acceptedBeat? = none) :
    (channel.afterCycle offers).memory.cells = channel.memory.cells := by
  have after : (channel.afterCycle offers).memory.cells =
      channel.memory.cellsAfter (channel.gate.relocated offers) := rfl
  have valid : (channel.gate.relocated offers).beat.valid = offers.beat.valid := rfl
  rw [after, Memory.Ideal.cellsAfter, Memory.Ideal.acceptedBeat?, valid]
  cases inFlight : channel.memory.burst with
  | none => simp
  | some burst =>
    -- The memory would take a valid beat of the burst, and so none is valid.
    rw [(accepted_of_burst offers inFlight).2] at noBeat
    cases shown : offers.beat.valid <;> simp_all

/-- A channel stays unwritten in a cycle in which no write beat passes. -/
theorem Unwritten.afterCycle {start channel : Channel Memory.Ideal} {offers : Offers}
    (unwritten : Unwritten start channel)
    (noBeat : (channel.wires offers).acceptedBeat? = none) :
    Unwritten start (channel.afterCycle offers) where
  -- The bytes of the memory change by a write beat only, and width and base never.
  answering := Memory.Ideal.answering_tick unwritten.answering _
  cells := (cells_afterCycle noBeat).trans unwritten.cells
  width := unwritten.width
  base := unwritten.base

/-- A channel stays unwritten over a trace without a write beat that passes. -/
theorem Unwritten.run {start : Channel Memory.Ideal} (trace : List Offers) :
    ∀ {channel : Channel Memory.Ideal}, Unwritten start channel →
      acceptedBeats (channel.log trace) = [] → Unwritten start (channel.run trace) := by
  -- The beats that pass later are among those that pass at all, so none does.
  induction trace with
  | nil => exact fun unwritten _ => unwritten
  | cons offers trace ih =>
    intro channel unwritten none_passes
    rw [log, acceptedBeats, List.filterMap_cons] at none_passes
    -- A beat that passes now would be the first one of the log.
    cases beat : (channel.wires offers).acceptedBeat? with
    | none =>
      rw [beat] at none_passes
      exact ih (unwritten.afterCycle beat) none_passes
    | some shown => simp [beat] at none_passes

/-- A read of one word is answered by some bytes, behind the beats that are queued already. -/
def AnswersWord (offers : Offers) (data : List UInt8) (channel : Channel Memory.Ideal) : Prop :=
  (channel.wires offers).takenBeat?.toList ++ (channel.afterCycle offers).memory.reads.toList =
    channel.memory.reads.toList ++
      [{ valid := true, code := okayCode, id := offers.read.id, data, last := true }]

/-- A word read before any write is the word that the memory was started with. -/
theorem Unwritten.read {start channel : Channel Memory.Ideal} (unwritten : Unwritten start channel)
    {offers : Offers} {offset : Nat} (valid : offers.read.valid = true)
    (single : offers.read.lastBeat = 0)
    (address : offers.read.address.toNat = start.gate.base.toNat + offset)
    (aligned : start.memory.width ∣ offset)
    (within : offset + start.memory.width ≤ start.memory.cells.size) :
    channel.AnswersWord offers ((List.range start.memory.width).map fun lane =>
      start.memory.cells.getD (offset + lane) 0) := by
  let relocated := relocate channel.gate.base offers.read
  -- The gate takes the base off again, and memory is always ready for a read.
  have offsetOf : relocated.address.toNat = offset := by
    have below : start.gate.base.toNat ≤ offers.read.address.toNat := by omega
    show (offers.read.address - channel.gate.base).toNat = offset
    rw [unwritten.base, UInt64.toNat_sub_of_le _ _ (UInt64.le_iff_toNat_le.mpr below), address,
      Nat.add_sub_cancel_left]
  have accepted : (channel.wires offers).acceptedRead? = some offers.read := by
    simp [Wires.acceptedRead?, Channel.wires, presented, Memory.presented,
      Memory.Ideal.presented, Memory.Ideal.ready, valid]
  have answer : Memory.burstBeats start.memory.cells start.memory.width relocated = _ :=
    Memory.burstBeats_of_single single (by rw [offsetOf]; exact aligned)
      (by rw [offsetOf]; exact within)
  rw [offsetOf] at answer
  -- The beat is made of the contents at the time, which still are those at the start.
  rw [AnswersWord, (agrees_afterCycle unwritten.answering offers).readBeats, accepted,
    unwritten.cells, unwritten.width]
  simp only [Option.toList_some, List.flatMap_singleton]
  exact congrArg _ answer

end Channel

end Testbench
