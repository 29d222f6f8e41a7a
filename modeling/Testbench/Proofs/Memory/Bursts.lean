import Testbench.Proofs.Memory.Transfers
import Testbench.Proofs.Memory.Writes

/-! What a write burst stores, and what the beats of a read burst carry afterwards. -/

namespace Testbench.Memory.Ideal

section Writing

variable {memory : Ideal} {request : AddressRequest} {beats : List WriteBeat}
  {trace : List Offers}

/-- The beats of a burst, each with its request and its position. -/
def burstOf (request : AddressRequest) (beats : List WriteBeat) :
    List (AddressRequest × Nat × WriteBeat) :=
  beats.zipIdx.map fun (beat, position) => (request, position, beat)

/-- In a trace, one write request gets its beats in order, and nothing is read. -/
structure Writes (request : AddressRequest) (beats : List WriteBeat) (trace : List Offers)
    (memory : Ideal) : Prop where
  accepted : acceptedBeats none trace memory = burstOf request beats
  count : beats.length = request.beats
  reads : acceptedReads trace memory = []

/-- Beats are whole bus words, and their strobes let the lanes of the transfers be stored. -/
def Strobed (width : Nat) (request : AddressRequest) (beats : List WriteBeat) : Prop :=
  ∀ position beat, beats[position]? = some beat → beat.data.length = width ∧
    ∀ lane, Moves width request position lane → beat.strobe.toNat.testBit lane = true

/-- A beat is written to the cells of its transfer, lane by lane where its strobe allows it. -/
theorem Fits.mem_beatWrites (fits : memory.Fits request) {position : Nat}
    (within : position < request.beats) {beat : WriteBeat} {cell : Nat} {byte : UInt8} :
    (cell, byte) ∈ beatWrites memory.cells.size memory.width request position beat ↔
      ∃ lane, beat.data[lane]? = some byte ∧ Moves memory.width request position lane ∧
        beat.strobe.toNat.testBit lane = true ∧
        cell = memory.transferCell request position lane := by
  -- The burst ends before the last address, so no transfer wraps around.
  have ends : _ ≤ transferStart request request.beats := transferStart_mono request within
  have below : transferStart request request.beats ≤ addressCount := fits.below
  have transfer := Nat.two_pow_pos request.size.toNat
  have address : (request.address.toNat + position * 2 ^ request.size.toNat) % 2 ^ 64 =
      transferStart request position :=
    Nat.mod_eq_of_lt (b := addressCount) (by unfold transferStart at *; omega)
  unfold beatWrites
  simp only [fits.moved, address, List.mem_filterMap, Prod.exists,
    List.mem_zipIdx_iff_getElem?, Option.ite_none_right_eq_some, Option.some.injEq, Prod.mk.injEq]
  constructor
  · -- A lane that is moved is one of the bus, so the cut to its width hides nothing.
    rintro ⟨value, lane, data, ⟨strobe, first, last⟩, rfl, rfl⟩
    have onBus := fits.onBus ⟨first, last⟩
    rw [List.getElem?_take_of_lt onBus] at data
    exact ⟨lane, data, ⟨first, last⟩, strobe, rfl⟩
  · rintro ⟨lane, data, moves, strobe, rfl⟩
    refine ⟨byte, lane, ?_, ⟨strobe, moves.1, moves.2⟩, rfl, rfl⟩
    rw [List.getElem?_take_of_lt (fits.onBus moves)]
    exact data

/-- The beats of a burst are written to the cells of their transfers. -/
theorem Fits.mem_storedCells (fits : memory.Fits request) (count : beats.length = request.beats)
    {cell : Nat} {byte : UInt8} :
    (cell, byte) ∈ storedCells memory.cells.size memory.width (burstOf request beats) ↔
      ∃ position < request.beats, ∃ beat lane, beats[position]? = some beat ∧
        beat.data[lane]? = some byte ∧ Moves memory.width request position lane ∧
        beat.strobe.toNat.testBit lane = true ∧
        cell = memory.transferCell request position lane := by
  unfold storedCells burstOf
  simp only [List.flatMap_map, List.mem_flatMap, Prod.exists, List.mem_zipIdx_iff_getElem?]
  -- Beats and positions determine each other, as there are as many as asked for.
  constructor
  · rintro ⟨beat, position, found, written⟩
    have within : position < request.beats := by
      rw [← count]
      exact (List.getElem?_eq_some_iff.mp found).1
    obtain ⟨lane, rest⟩ := (fits.mem_beatWrites within).mp written
    exact ⟨position, within, beat, lane, found, rest⟩
  · rintro ⟨position, within, beat, lane, found, rest⟩
    exact ⟨beat, position, found, (fits.mem_beatWrites within).mpr ⟨lane, rest⟩⟩

/-- Behind a burst, a cell has a lane of a transfer that takes it, or is as it was before. -/
theorem Fits.cell_run (fits : memory.Fits request) (writes : Writes request beats trace memory)
    (strobed : Strobed memory.width request beats) {cell : Nat}
    (there : cell < memory.cells.size) :
    (∃ position < request.beats, ∃ lane, Moves memory.width request position lane ∧
        cell = memory.transferCell request position lane ∧
        (memory.run trace).cells[cell]? = beats[position]?.bind fun beat => beat.data[lane]?) ∨
      (∀ position < request.beats, ∀ lane, Moves memory.width request position lane →
          cell ≠ memory.transferCell request position lane) ∧
        (memory.run trace).cells[cell]? = memory.cells[cell]? := by
  have unasked : memory.Follows none := by
    intro burst inFlight
    rw [fits.idle] at inFlight
    cases inFlight
  rw [cells_run trace none memory unasked fits.wide.1 fits.wide.2, writes.accepted]
  -- Either some write was the last one to the cell, or there was none.
  rcases getElem?_writeCells_or
      (storedCells memory.cells.size memory.width (burstOf request beats)) there with
    ⟨byte, last, held⟩ | ⟨never, same⟩
  · obtain ⟨position, within, beat, lane, found, data, moves, -, cell_eq⟩ :=
      (fits.mem_storedCells writes.count).mp last
    refine Or.inl ⟨position, within, lane, moves, cell_eq, ?_⟩
    rw [held, found, Option.bind_some, data]
  · refine Or.inr ⟨fun position within lane moves cell_eq => ?_, same⟩
    -- A transfer has a beat with a byte in each of its lanes, which would have been written.
    have among : position < beats.length := by rw [writes.count]; exact within
    have found : beats[position]? = some beats[position] := List.getElem?_eq_getElem among
    obtain ⟨whole, strobes⟩ := strobed position beats[position] found
    have data : beats[position].data[lane]? = some _ :=
      List.getElem?_eq_getElem (by rw [whole]; exact fits.onBus moves)
    exact never _ ((fits.mem_storedCells writes.count).mpr
      ⟨position, within, _, lane, found, data, moves, strobes lane moves, cell_eq⟩)

/-- Behind a burst, the cells of every transfer hold the lanes of its beat. -/
theorem Fits.written (fits : memory.Fits request) (writes : Writes request beats trace memory)
    (strobed : Strobed memory.width request beats) {position lane : Nat}
    (within : position < request.beats) (moves : Moves memory.width request position lane) :
    (memory.run trace).cells[memory.transferCell request position lane]? =
      beats[position]?.bind fun beat => beat.data[lane]? := by
  have there : memory.transferCell request position lane < memory.cells.size :=
    Nat.mod_lt _ fits.filled
  rcases fits.cell_run writes strobed there with
    ⟨other, within', lane', moves', same, held⟩ | ⟨never, -⟩
  · -- No other transfer shares the cell.
    obtain ⟨rfl, rfl⟩ := fits.unique within within' moves moves' same
    exact held
  · exact absurd rfl (never position within lane moves)

/-- The offers of a design that writes a burst without a pause. -/
def writing (request : AddressRequest) (beats : List WriteBeat) : List Offers :=
  { write := request } :: beats.map fun beat => { beat }

/-- Without a valid read nothing is read. -/
theorem acceptedReads_eq_nil (trace : List Offers) :
    ∀ memory : Ideal, (∀ offers ∈ trace, offers.read.valid = false) →
      acceptedReads trace memory = [] := by
  -- A read is accepted only if it is valid, in the first tick and in all others.
  induction trace with
  | nil => exact fun _ _ => rfl
  | cons offers trace ih =>
    intro memory none_valid
    rw [acceptedReads, none_valid offers List.mem_cons_self,
      ih _ fun other member => none_valid other (List.mem_cons_of_mem _ member)]
    rfl

/-- A memory at rest serves a burst that is written without a pause. -/
theorem Fits.writes_writing (fits : memory.Fits request) (count : beats.length = request.beats)
    (valid : ∀ beat ∈ beats, beat.valid = true) :
    Writes request beats (writing request beats) memory where
  accepted := by
    let steady := beats.map fun beat : WriteBeat => ({ beat } : Offers)
    have ready : memory.presented.ready.write = true := by
      rw [(ready_eq memory).1, due, fits.idle]
      rfl
    have shown : shownBeats steady = beats := by
      rw [shownBeats, List.map_map, Function.comp_def, List.map_id', List.filter_eq_self]
      exact valid
    -- Behind the request only beats are offered, and no further request.
    have others : ∀ later : Ideal, acceptedWrites steady later = [] := fun later =>
      acceptedWrites_eq_nil steady later fun offers member => by
        obtain ⟨beat, -, rfl⟩ := List.mem_map.mp member
        rfl
    have only : acceptedWrites (writing request beats) memory = [(request, steady)] := by
      rw [writing, acceptedWrites, fits.valid, ready, others]
      rfl
    -- The beats accepted are those of the only request, cut to its number of beats.
    calc
      _ = burstsOf (acceptedWrites (writing request beats) memory) := acceptedBeats_eq _ none memory
      _ = beatsFrom request 0 ((shownBeats steady).take request.beats) := by
        rw [only, burstsOf, List.flatMap_singleton]
      _ = burstOf request beats := by
        rw [shown, List.take_of_length_le (Nat.le_of_eq count)]
        rfl
  count := count
  reads := by
    refine acceptedReads_eq_nil _ memory fun offers member => ?_
    rcases List.mem_cons.mp member with rfl | member
    · rfl
    · obtain ⟨beat, -, rfl⟩ := List.mem_map.mp member
      rfl

end Writing

/-- The capacity stays the same over a trace. -/
theorem size_run (trace : List Offers) (memory : Ideal) :
    (memory.run trace).cells.size = memory.cells.size := by
  -- The memory is generalised, as each tick leaves the next one to be run.
  induction trace generalizing memory with
  | nil => rfl
  | cons offers trace ih => exact (ih (memory.tick offers)).trans (size_tick memory offers)

section Reading

variable {memory : Ideal} {request : AddressRequest} {beats : List WriteBeat}
  {trace : List Offers} {reading : Offers}

/-- A read is offered of the burst that a write request was for. -/
structure Rereads (request : AddressRequest) (reading : Offers) : Prop where
  valid : reading.read.valid = true
  address : reading.read.address = request.address
  size : reading.read.size = request.size
  lastBeat : reading.read.lastBeat = request.lastBeat

/-- The beats that wait to be taken when a read is offered after a trace. -/
def answered (trace : List Offers) (reading : Offers) (memory : Ideal) : List ReadBeat :=
  ((memory.run trace).tick reading).reads.toList

/-- The first address of the bus word that a beat of a read burst carries. -/
def readStart (width : Nat) (request : AddressRequest) (position : Nat) : Nat :=
  (wordStart width request.address.toNat + position * width) % addressCount

/-- Behind a burst, a lane of a read beat is a cell of the word that the beat carries. -/
theorem Fits.answered_lane (fits : memory.Fits request)
    (writes : Writes request beats trace memory) (rereads : Rereads request reading)
    {position lane : Nat} (within : position < request.beats) (onBus : lane < memory.width) :
    ((answered trace reading memory)[position]?.bind fun beat => beat.data[lane]?) =
      (memory.run trace).cells[cellOf memory.cells.size
        (readStart memory.width request position) lane]? := by
  have answering : memory.Answering := by
    intro beat queued
    rw [fits.unread] at queued
    cases queued
  -- Nothing was read before, so that the queue holds the beats of this read alone.
  have queue := takenBeats_append_reads trace memory answering
  rw [fits.unread, writes.reads, answerBeats, List.flatMap_nil, List.append_nil] at queue
  have quiet := (List.append_eq_nil_iff.mp queue).2
  have size := size_run trace memory
  have filled : 0 < (memory.run trace).cells.size := by
    rw [size]
    exact fits.filled
  have answers : answered trace reading memory =
      burstBeats (memory.run trace).cells memory.width reading.read := by
    rw [answered, tick, toList_readsAfter, quiet, rereads.valid, width_run]
    simp
  -- The burst has a beat for every position within, as it is as long as the write.
  have lastBeat : position ≤ reading.read.lastBeat.toNat := by
    rw [rereads.lastBeat]
    exact Nat.le_of_lt_succ within
  rw [answers, burstBeats_lane filled lastBeat onBus, rereads.address, size]
  rfl

end Reading

end Testbench.Memory.Ideal
