import Testbench.Proofs.Memory.Machine
import Testbench.Proofs.Memory.Streams
import Testbench.Proofs.Memory.Ticks
import Testbench.Proofs.Memory.Transfers

/-! A machine computes every tick of an ideal memory without a trap, and its shape is kept. -/

namespace Testbench.Memory

section Shape

/-- A memory in shape: with all its cells, whole words queued, and a burst that fits its bus. -/
structure Ideal.Shaped (capacity width : Nat) (memory : Ideal) : Prop where
  cells : memory.cells.size = capacity
  bus : memory.width = width
  /-- Every queued beat is as wide as the bus. -/
  beats : ∀ beat ∈ memory.reads.toList, beat.data.length = width
  /-- At most as many beats follow as the last position of a request says. -/
  later : ∀ burst, memory.burst = some burst → burst.later < UInt8.size
  /-- A beat moves a power of two of lanes, and no more than there are. -/
  moved : ∀ burst, memory.burst = some burst →
    ∃ exponent : Nat, burst.moved = 2 ^ exponent ∧ 2 ^ exponent ≤ width

namespace Ideal

/-- A memory of which nothing was asked yet is in shape. -/
theorem shaped_holding (cells : Array UInt8) (beatBytes : Nat) :
    (holding cells beatBytes).Shaped cells.size (max beatBytes 1) where
  -- There is no burst in flight, and no beat in the queue.
  cells := rfl
  bus := rfl
  beats := List.forall_mem_nil _
  later := nofun
  moved := nofun

variable {capacity width : Nat} {memory : Ideal}

/-- What the beats of a request move fits a bus that has lanes. -/
theorem movedBytes_fits (wide : width ≠ 0) (request : AddressRequest) :
    ∃ exponent : Nat, movedBytes width request = 2 ^ exponent ∧ 2 ^ exponent ≤ width := by
  -- A power of two that divides the width is at most the width.
  refine ⟨_, movedBytes_eq wide request, ?_⟩
  rw [← movedBytes_eq wide request]
  exact Nat.gcd_le_right _ (Nat.pos_of_ne_zero wide)

/-- A burst in flight after a tick was just accepted, or stays, or has one beat less to come. -/
theorem burst_tick {offers : Offers} {burst : WriteBurst}
    (inFlight : (memory.tick offers).burst = some burst) :
    burst = .ofRequest memory.width offers.write ∨ memory.burst = some burst ∨
      ∃ before, memory.burst = some before ∧ before.later = burst.later + 1 ∧
        before.moved = burst.moved := by
  have after : memory.burstAfter offers = some burst := inFlight
  unfold burstAfter at after
  cases found : memory.burst with
  | none =>
    -- Without a burst in flight, a request is what may start one.
    simp only [found] at after
    split at after
    · exact .inl (Option.some.inj after).symm
    · cases after
  | some before =>
    simp only [found] at after
    split at after
    · rw [WriteBurst.next?] at after
      split at after
      · cases after
      · -- The accepted beat was not the last one, so one beat fewer is left.
        rename_i later more
        cases after
        exact .inr (.inr ⟨before, rfl, more, rfl⟩)
    · exact .inr (.inl after)

/-- A tick keeps a memory in shape. -/
theorem Shaped.tick (shaped : memory.Shaped capacity width) (wide : width ≠ 0) (offers : Offers) :
    (memory.tick offers).Shaped capacity width where
  cells := (size_tick memory offers).trans shaped.cells
  bus := shaped.bus
  beats := by
    intro beat queued
    rw [Ideal.tick, toList_readsAfter, List.mem_append] at queued
    -- A beat in the queue was there before, or a read has put it there in this tick.
    rcases queued with kept | new
    · apply shaped.beats
      split at kept
      · exact List.mem_of_mem_tail kept
      · exact kept
    · split at new
      · rw [shaped.bus] at new
        exact ((answers_burstBeats _ width _).shows beat new).2.2.2
      · cases new
  later := by
    intro burst inFlight
    -- The burst was just accepted, stays as it was, or has moved on by one beat.
    rcases burst_tick inFlight with rfl | stays | ⟨before, found, less, -⟩
    · exact UInt8.toNat_lt_size _
    · exact shaped.later burst stays
    · have more := shaped.later before found
      rw [less] at more
      exact (Nat.lt_succ_self _).trans more
  moved := by
    intro burst inFlight
    rcases burst_tick inFlight with rfl | stays | ⟨before, found, -, same⟩
    · rw [shaped.bus]
      exact movedBytes_fits wide offers.write
    · exact shaped.moved burst stays
    · exact same ▸ shaped.moved before found

/-- A memory stays in shape over a trace. -/
theorem Shaped.run (shaped : memory.Shaped capacity width) (wide : width ≠ 0)
    (trace : List Offers) : (memory.run trace).Shaped capacity width := by
  -- The memory is generalised, as each tick leaves the next one in shape.
  induction trace generalizing memory with
  | nil => exact shaped
  | cons offers trace ih => exact ih (shaped.tick wide offers)

end Ideal

end Shape

section Operations

/-- Where no item traps, a list is gone through without a trap. -/
theorem mapM_eq_ok {α β : Type} {compute : α → Except Trap β} {value : α → β} {items : List α}
    (computes : ∀ item ∈ items, compute item = .ok (value item)) :
    items.mapM compute = .ok (items.map value) := by
  -- The list is gone through from the left, and only a trap would end it early.
  induction items with
  | nil => rfl
  | cons item items ih =>
    have first := computes item List.mem_cons_self
    have others := ih fun other among => computes other (List.mem_cons_of_mem _ among)
    rw [List.mapM_cons, first, others]
    rfl

/-- The bus word that holds an address starts at an address itself. -/
theorem computedStart_eq {width : Nat} (wide : width ≠ 0) (address : UInt64) :
    computedStart width address.toNat = .ok (wordStart width address.toNat) := by
  -- The word starts at or below its address, so no product leaves the machine word.
  have below : address.toNat / width * width < addressCount :=
    (Nat.div_mul_le_self _ _).trans_lt address.toNat_lt_size
  rw [computedStart, quotient, if_neg wide, wordStart_eq]
  exact if_pos below

/-- The cell of an address is found without a division by zero. -/
theorem computedBase_eq {capacity : Nat} (filled : capacity ≠ 0) (address : Nat) :
    computedBase capacity address = .ok (address % capacity) := by
  -- Neither the guard of the base nor that of the remainder applies.
  rw [computedBase, if_neg filled, remainder, if_neg filled]

/-- The cell of a lane is found when no sum leaves the machine word. -/
theorem computedCell_eq {capacity width : Nat} (filled : capacity ≠ 0)
    (room : capacity + width ≤ addressCount) (start : Nat) {lane : Nat} (onBus : lane < width) :
    computedCell capacity (start % capacity) lane = .ok (cellOf capacity start lane) := by
  have base : start % capacity < capacity := Nat.mod_lt _ (Nat.pos_of_ne_zero filled)
  -- The base is below the capacity and the lane below the width: there is room for both.
  have below : start % capacity + lane < addressCount := by omega
  have sum : bounded addressCount (start % capacity + lane) = .ok (start % capacity + lane) :=
    if_pos below
  rw [computedCell, sum]
  exact if_neg filled

/-- The cell of a lane exists. -/
theorem cellOf_lt {capacity : Nat} (filled : capacity ≠ 0) (start lane : Nat) :
    cellOf capacity start lane < capacity :=
  -- The last step of finding a cell is a remainder by the capacity.
  Nat.mod_lt _ (Nat.pos_of_ne_zero filled)

/-- A bus word is read without a trap. -/
theorem computedWord_eq {cells : Array UInt8} {width : Nat}
    (room : cells.size + width ≤ addressCount) (start : Nat) :
    computedWord cells width start = .ok (readWord cells width start) := by
  by_cases empty : cells.size = 0
  · -- Every lane of a memory without cells reads as zero.
    have zeros : readWord cells width start = List.replicate width 0 := by
      rw [List.eq_replicate_iff]
      refine ⟨by simp [readWord], fun byte among => ?_⟩
      obtain ⟨lane, -, rfl⟩ := List.mem_map.mp among
      have absent : cells = #[] := Array.eq_empty_of_size_eq_zero empty
      rw [absent]
      rfl
    rw [computedWord, if_pos empty, zeros]
  · rw [computedWord, if_neg empty, computedBase_eq empty]
    apply mapM_eq_ok
    intro lane among
    have cell := computedCell_eq empty room start (List.mem_range.mp among)
    have exists_cell := cellOf_lt empty start lane
    rw [cell]
    simp only [bind, Except.bind, loadCell, exists_cell, dif_pos, Array.getD]
    rfl

/-- The mask for the lanes of a beat has a bit for each of them that a machine word has room for. -/
theorem computedMask_eq (moved : Nat) :
    computedMask moved = .ok (2 ^ min moved wordBits - 1) := by
  rw [computedMask]
  -- A shift by the word size would trap, so that mask is made without one.
  split
  · rename_i whole
    rw [Nat.min_eq_right whole]
  · rename_i narrow
    have within : moved < wordBits := not_le.mp narrow
    -- A power of two is not zero, so one may be taken off.
    obtain ⟨less, same⟩ := Nat.exists_eq_succ_of_ne_zero (Nat.two_pow_pos moved).ne'
    rw [singleBit, if_pos within, Nat.min_eq_left within.le]
    simp only [bind, Except.bind, Nat.one_shiftLeft]
    rw [same]
    rfl

/-- A lane is stored when its bit of the strobe is set under the mask that is moved up to it. -/
theorem testBit_strobe (width moved address : Nat) (strobe : UInt64) (lane : Nat) :
    (strobe.toNat &&& shiftedMask (2 ^ min moved wordBits - 1)
        (address % width % laneCount)).testBit lane =
      storesLane width moved address strobe lane := by
  rw [storesLane, laneOf, Nat.testBit_and, shiftedMask]
  generalize address % width % laneCount = first
  by_cases high : wordBits ≤ lane
  · -- A strobe has no bits for lanes as high as that.
    have small : strobe.toNat < 2 ^ lane :=
      strobe.toNat_lt.trans_le (Nat.pow_le_pow_right (by decide) high)
    rw [Nat.testBit_lt_two_pow small]
    rfl
  · have low : lane < wordBits := not_le.mp high
    split
    · -- Shifted by fewer lanes than a word has, the mask covers the moved lanes only.
      rename_i near
      rw [Nat.testBit_mod_two_pow, Nat.testBit_shiftLeft, Nat.testBit_two_pow_sub_one]
      cases strobe.toNat.testBit lane
      · rfl
      · simp only [Bool.true_and]
        grind
    · -- Shifted by a word or more, nothing of the mask is left.
      rename_i far
      rw [Nat.zero_testBit]
      cases strobe.toNat.testBit lane
      · rfl
      · simp only [Bool.true_and]
        grind

/-- The lowest bit of a strobe that was shifted down is that of the lane at hand. -/
theorem shiftRight_mod_two (strobe lane : Nat) :
    (strobe >>> lane % 2 = 1) ↔ strobe.testBit lane = true := by
  -- Shifting down is dividing, and the bit tested is the remainder by two.
  rw [Nat.testBit_eq_decide_div_mod_eq, Nat.shiftRight_eq_div_pow, decide_eq_true_iff]

/-- Lanes are stored without a trap, each when its bit of the strobe is set. -/
theorem computedStores_eq {capacity width : Nat} (filled : capacity ≠ 0)
    (room : capacity + width ≤ addressCount) (start strobe : Nat) (bytes : List UInt8) :
    ∀ (first : Nat) (cells : Array UInt8), cells.size = capacity → first + bytes.length ≤ width →
      computedStores capacity (start % capacity) (bytes.zipIdx first) (strobe >>> first) cells =
        .ok ((bytes.zipIdx first).foldl
          (fun cells (byte, lane) =>
            if strobe.testBit lane then cells.setIfInBounds (cellOf cells.size start lane) byte
            else cells)
          cells) := by
  -- One lane further on, the strobe is shifted down by one bit more.
  induction bytes with
  | nil => exact fun _ _ _ _ => rfl
  | cons byte bytes ih =>
    intro first cells size onBus
    rw [List.length_cons] at onBus
    have cell := computedCell_eq filled room start (show first < width by omega)
    -- The remainder is below the capacity, so storing finds its cell.
    have exists_cell : cellOf capacity start first < cells.size :=
      size ▸ cellOf_lt filled start first
    have shifted : strobe >>> first >>> 1 = strobe >>> (first + 1) :=
      (Nat.shiftRight_add strobe first 1).symm
    rw [List.zipIdx_cons, List.foldl_cons, computedStores, shifted]
    by_cases stored : strobe.testBit first = true
    · have stores : storeCell cells (cellOf capacity start first) byte =
          .ok (cells.setIfInBounds (cellOf capacity start first) byte) := by
        rw [storeCell, dif_pos exists_cell, Array.setIfInBounds, dif_pos exists_cell]
      rw [if_pos ((shiftRight_mod_two strobe first).mpr stored), cell]
      simp only [bind, Except.bind, stores, stored, if_true, size]
      exact ih (first + 1) _ (Array.size_setIfInBounds.trans size) (by omega)
    · rw [if_neg (fun set => stored ((shiftRight_mod_two strobe first).mp set))]
      simp only [bind, Except.bind, stored]
      exact ih (first + 1) cells size (by omega)

/-- A beat is stored without a trap. -/
theorem computedBeat_eq {cells : Array UInt8} {width : Nat} (wide : width ≠ 0)
    (room : cells.size + width ≤ addressCount) (moved : Nat) (address : UInt64)
    (beat : WriteBeat) :
    computedBeat cells width moved address.toNat beat =
      .ok (storeBeat cells width moved address.toNat beat) := by
  by_cases empty : cells.size = 0
  · -- A memory without cells is left as it is.
    have same : storeBeat cells width moved address.toNat beat = cells := by
      have size := size_storeBeat cells width moved address.toNat beat
      rw [empty] at size
      rw [Array.eq_empty_of_size_eq_zero size, Array.eq_empty_of_size_eq_zero empty]
    rw [computedBeat, if_pos empty, same]
  · have lanes : (beat.data.take width).length ≤ width := List.length_take_le width beat.data
    have stores := computedStores_eq empty room (wordStart width address.toNat)
      (beat.strobe.toNat &&& shiftedMask (2 ^ min moved wordBits - 1)
        (address.toNat % width % laneCount))
      (beat.data.take width) 0 cells rfl (by omega)
    simp only [testBit_strobe, Nat.shiftRight_zero] at stores
    rw [computedBeat, if_neg empty, computedMask_eq, remainder, if_neg wide,
      computedStart_eq wide]
    simp only [bind, Except.bind, computedBase_eq empty]
    exact stores

end Operations

namespace Machine

variable {machine : Machine}

/-- All beats of a read are queued without a trap. -/
theorem acceptRead_eq (wide : machine.width ≠ 0)
    (room : machine.cells.size + machine.width ≤ addressCount) (request : AddressRequest) :
    machine.acceptRead request =
      .ok { machine with
        reads := machine.reads ++ burstBeats machine.cells machine.width request } := by
  rw [acceptRead, computedStart_eq wide]
  simp only [bind, Except.bind, computedWord_eq room]
  -- Each word of the burst is found without a trap, so the whole list is.
  rw [mapM_eq_ok fun _ _ => rfl]
  rfl

/-- A write burst is started without a trap. -/
theorem acceptWrite_eq (wide : machine.width ≠ 0) (narrow : machine.width < 2 ^ wordBits)
    (request : AddressRequest) :
    machine.acceptWrite request =
      .ok { machine with burst := some (.of (.ofRequest machine.width request)) } := by
  -- The lowest bit that is set in the width of the bus keeps the shift within the word.
  have zeros : padicValNat 2 machine.width < wordBits := by
    have divides : 2 ^ padicValNat 2 machine.width ∣ machine.width := pow_padicValNat_dvd
    exact (Nat.pow_lt_pow_iff_right (by decide)).mp
      ((Nat.le_of_dvd (Nat.pos_of_ne_zero wide) divides).trans_lt narrow)
  have within : min request.size.toNat (padicValNat 2 machine.width) < wordBits :=
    (Nat.min_le_right _ _).trans_lt zeros
  have beats : request.lastBeat.toNat + 1 < laneCount :=
    (Nat.succ_lt_succ request.lastBeat.toNat_lt_size).trans (by decide)
  rw [acceptWrite, trailingZeros, if_neg wide, singleBit, if_pos within, bounded, if_pos beats,
    Nat.one_shiftLeft, ← movedBytes_eq wide]
  rfl

/-- A beat of a burst is taken without a trap. -/
theorem acceptBeat_eq (wide : machine.width ≠ 0)
    (room : machine.cells.size + machine.width ≤ addressCount) (beat : WriteBeat)
    (burst : WriteBurst) :
    machine.acceptBeat beat (.of burst) =
      .ok { machine with
        cells := storeBeat machine.cells machine.width burst.moved burst.address.toNat beat
        answers := machine.answers ++ if burst.later = 0 then [burst.id] else []
        burst := burst.next?.map .of } := by
  have stores := computedBeat_eq wide room burst.moved burst.address beat
  rw [acceptBeat, CountedBurst.of, stores]
  -- The counter is one ahead of the beats that follow, so it can always be decreased.
  obtain ⟨address, id, moved, later⟩ := burst
  cases later <;> simp [decreased, WriteBurst.next?, CountedBurst.of, bind, Except.bind]

/-- An answer that is taken leaves from the front, whether others have joined before or not. -/
theorem tail_append {α : Type} (takes : Bool) (kept joined : List α) :
    (if takes && !kept.isEmpty then (kept ++ joined).tail else kept ++ joined) =
      (if takes then kept.tail else kept) ++ joined := by
  -- Joining at the back of a queue that is not empty leaves its front alone.
  cases takes <;> cases kept <;> rfl

variable {capacity width : Nat} {memory : Ideal}

/-- What a machine keeps of a memory once a read that is offered has passed. -/
def reading (offers : Offers) (memory : Ideal) : Machine :=
  { of memory with
    reads := memory.reads.toList ++
      if offers.read.valid then burstBeats memory.cells memory.width offers.read else [] }

/-- A read is acted on without a trap. -/
theorem serveRead_of (wide : memory.width ≠ 0)
    (room : memory.cells.size + memory.width ≤ addressCount) (offers : Offers) :
    (of memory).serveRead offers = .ok (reading offers memory) := by
  rw [serveRead]
  -- Without a valid read there is nothing to compute.
  cases valid : offers.read.valid with
  | false => simp [reading, valid, of]
  | true =>
    rw [if_pos rfl, acceptRead_eq wide room]
    simp [reading, valid, of]

/-- What a machine keeps of a memory once all offers that can pass have passed. -/
def written (offers : Offers) (memory : Ideal) : Machine :=
  { reading offers memory with
    cells := memory.cellsAfter offers
    answers := memory.answers.toList ++ (memory.finishedBurst? offers).toList.map WriteBurst.id
    burst := (memory.burstAfter offers).map .of }

/-- A write is acted on without a trap. -/
theorem serveWrite_of (wide : memory.width ≠ 0) (narrow : memory.width < 2 ^ wordBits)
    (room : memory.cells.size + memory.width ≤ addressCount) (offers : Offers) :
    (reading offers memory).serveWrite offers = .ok (written offers memory) := by
  -- The burst in flight decides whether a request or a beat can pass.
  cases inFlight : memory.burst with
  | none =>
    have found : (reading offers memory).burst = none := by simp [reading, of, inFlight]
    have unfinished : memory.finishedBurst? offers = none := by
      simp [Ideal.finishedBurst?, Ideal.acceptedBeat?, inFlight]
    have kept : memory.cellsAfter offers = memory.cells := by
      simp [Ideal.cellsAfter, Ideal.acceptedBeat?, inFlight]
    rw [serveWrite, found]
    cases valid : offers.write.valid with
    | false => simp [written, reading, of, inFlight, unfinished, kept, valid, Ideal.burstAfter]
    | true =>
      simp only [if_true]
      rw [acceptWrite_eq wide narrow]
      simp [written, reading, of, inFlight, unfinished, kept, valid, Ideal.burstAfter]
  | some burst =>
    have found : (reading offers memory).burst = some (.of burst) := by
      simp [reading, of, inFlight]
    rw [serveWrite, found]
    cases valid : offers.beat.valid with
    | false =>
      simp [written, reading, of, inFlight, valid, Ideal.cellsAfter, Ideal.acceptedBeat?,
        Ideal.finishedBurst?, Ideal.burstAfter]
    | true =>
      simp only [if_true]
      rw [acceptBeat_eq wide room]
      -- The last beat answers the burst, and any other leaves it in flight.
      cases last : burst.later <;>
        simp [written, reading, of, inFlight, valid, last, Ideal.cellsAfter, Ideal.acceptedBeat?,
          Ideal.finishedBurst?, Ideal.burstAfter, Option.filter]

/-- A tick of a memory is computed without a trap. -/
theorem tick_of (wide : memory.width ≠ 0) (narrow : memory.width < 2 ^ wordBits)
    (room : memory.cells.size + memory.width ≤ addressCount) (offers : Offers) :
    (of memory).tick offers = .ok (of (memory.tick offers)) := by
  rw [tick, serveRead_of wide room]
  simp only [bind, Except.bind, serveWrite_of wide narrow room]
  -- The queues after the tick list the same answers.
  have reads := memory.toList_readsAfter offers
  have answers := memory.toList_answersAfter offers
  rw [← tail_append] at reads answers
  simp only [release, written, reading, of, Ideal.tick, reads, answers]
  rfl

/-- A trace of offers to a memory in shape is computed without a trap. -/
theorem run_of (wide : width ≠ 0) (narrow : width < 2 ^ wordBits)
    (room : capacity + width ≤ addressCount) (trace : List Offers)
    (shaped : memory.Shaped capacity width) :
    (of memory).run trace = .ok (of (memory.run trace)) := by
  -- Each tick keeps the shape, which is what the next one needs to go without a trap.
  induction trace generalizing memory with
  | nil => rfl
  | cons offers trace ih =>
    have first : (of memory).tick offers = .ok (of (memory.tick offers)) := by
      apply tick_of
      · rwa [shaped.bus]
      · rwa [shaped.bus]
      · rwa [shaped.cells, shaped.bus]
    rw [run, List.foldlM_cons, first]
    exact ih (shaped.tick wide offers)

end Machine

namespace Ideal

/-- The widest bus for which a word can be reserved: no reservation takes half of all addresses. -/
def maxBeatBytes : Nat := 2 ^ (wordBits - 1) - 1

/-- A memory that was allocated is no larger than what can be reserved. -/
theorem bytes_le_of_allocate {bytes : UInt64} {beatBytes : Nat} {memory : Ideal}
    (allocated : allocate bytes beatBytes = .ok memory) : bytes.toNat ≤ maxBytes := by
  unfold allocate at allocated
  -- Reserving more is refused before there is a memory.
  split at allocated
  · cases allocated
  · rename_i small
    exact not_lt.mp small

/-- A memory on which a machine computes a trace without a trap, and that is in shape after it. -/
structure Sound (bytes : UInt64) (beatBytes : Nat) (trace : List Offers) (memory : Ideal) :
    Prop where
  computes : (Machine.of memory).run trace = .ok (.of (memory.run trace))
  cells : (memory.run trace).cells.size = bytes.toNat
  /-- Every queued beat is as wide as the bus, which is at least one byte wide. -/
  beats : ∀ beat ∈ (memory.run trace).reads.toList, beat.data.length = max beatBytes 1
  /-- A burst in flight has a beat left, and no more than a request can ask for. -/
  left : ∀ burst, (Machine.of (memory.run trace)).burst = some burst →
    1 ≤ burst.left ∧ burst.left ≤ 256
  /-- Its beats move a power of two of lanes, and no more than there are. -/
  moved : ∀ burst, (Machine.of (memory.run trace)).burst = some burst →
    ∃ exponent : Nat, burst.moved = 2 ^ exponent ∧ burst.moved ≤ max beatBytes 1

/--
Every memory that can be allocated is sound, whatever it is offered.

Allocating one also reserves a bus word, for which the width must be within bounds.
-/
theorem sound_of_allocate {bytes : UInt64} {beatBytes : Nat} {memory : Ideal}
    (allocated : allocate bytes beatBytes = .ok memory) (reserved : beatBytes ≤ maxBeatBytes)
    (trace : List Offers) : memory.Sound bytes beatBytes trace := by
  have wide : max beatBytes 1 ≠ 0 := by omega
  have small := bytes_le_of_allocate allocated
  -- Both fit into half of all addresses, so that an address behind a cell is still an address.
  have narrow : max beatBytes 1 < 2 ^ wordBits := by
    unfold maxBeatBytes wordBits at *
    omega
  have room : bytes.toNat + max beatBytes 1 ≤ addressCount := by
    have half : maxBytes + (maxBeatBytes + 1) ≤ addressCount := by decide
    omega
  have start : memory.Shaped bytes.toNat (max beatBytes 1) := by
    have blank := shaped_holding (Array.replicate bytes.toNat 0) beatBytes
    rwa [← eq_of_allocate allocated, Array.size_replicate] at blank
  have shaped := start.run wide trace
  -- The machine's burst is that of the memory, with a counter.
  have counted : ∀ {burst}, (Machine.of (memory.run trace)).burst = some burst →
      ∃ inFlight, (memory.run trace).burst = some inFlight ∧ .of inFlight = burst :=
    fun found => Option.map_eq_some_iff.mp found
  constructor
  case computes => exact Machine.run_of wide narrow room trace start
  case cells => exact shaped.cells
  case beats => exact shaped.beats
  case left =>
    intro burst found
    obtain ⟨inFlight, same, rfl⟩ := counted found
    exact ⟨Nat.le_add_left 1 _, shaped.later inFlight same⟩
  case moved =>
    intro burst found
    obtain ⟨inFlight, same, rfl⟩ := counted found
    obtain ⟨exponent, power, fits⟩ := shaped.moved inFlight same
    exact ⟨exponent, power, power.trans_le fits⟩

/-- Twelve lanes allow beats of four bytes, however large the request, and five cells wrap. -/
theorem sound_of_odd_width :
    let trace : List Offers :=
      [ { read := { valid := true, address := 0xFFFFFFFFFFFFFFFF, lastBeat := 1 }
          write := { valid := true, address := 0xFFFFFFFFFFFFFFFE, size := 200, lastBeat := 255 } },
        { beat := { valid := true, data := List.replicate 20 7, strobe := 0xFFFFFFFFFFFFFFFF }
          takesRead := true } ]
    ∃ memory, allocate 5 12 = .ok memory ∧ 12 ≤ maxBeatBytes ∧
      (memory.run trace).burst = some { address := 2, id := 0, moved := 4, later := 254 } ∧
      memory.Sound 5 12 trace := by
  intro trace
  let memory : Ideal := holding (Array.replicate 5 0) 12
  have allocated : allocate 5 12 = .ok memory := rfl
  have reserved : 12 ≤ maxBeatBytes := by decide
  -- The burst passes the last address: it goes on at address two, four bytes further.
  have inFlight : (memory.run trace).burst =
      some { address := 2, id := 0, moved := 4, later := 254 } := by decide +kernel
  clear_value memory trace
  exact ⟨memory, allocated, reserved, inFlight, sound_of_allocate allocated reserved trace⟩

end Ideal

end Testbench.Memory
