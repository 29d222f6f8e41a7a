import Testbench.Proofs.Memory.Lanes

/-! Ideal memory is an array of bytes: writes store in order, and reads see what was stored. -/

namespace Testbench.Memory.Ideal

/-- A memory with some contents, of which nothing was asked yet. -/
def holding (cells : Array UInt8) (beatBytes : Nat) : Ideal where
  cells := cells
  width := max beatBytes 1

/-- A memory that was allocated is blank. -/
theorem eq_of_allocate {bytes : UInt64} {beatBytes : Nat} {memory : Ideal}
    (allocated : allocate bytes beatBytes = .ok memory) :
    memory = holding (Array.replicate bytes.toNat 0) beatBytes := by
  unfold allocate at allocated
  -- A capacity or width that is refused gives no memory at all.
  split at allocated
  · cases allocated
  · cases allocated
    rfl

/-- The memory after a trace of offers, one for each cycle. -/
def run (trace : List Offers) (memory : Ideal) : Ideal :=
  trace.foldl (fun memory offers => memory.tick offers) memory

/-- The capacity stays the same. -/
theorem size_tick (memory : Ideal) (offers : Offers) :
    (memory.tick offers).cells.size = memory.cells.size := by
  rw [tick, cellsAfter]
  -- Only a write beat that passes changes cells, and it stores into existing ones.
  split
  · rfl
  · exact size_storeBeat ..

section Reads

/-- The read requests accepted in a trace, each with the contents just before its tick. -/
def acceptedReads : (trace : List Offers) → Ideal → List (Array UInt8 × AddressRequest)
  | [], _ => []
  | offers :: trace, memory =>
    let accepted := offers.read.valid && memory.presented.ready.read
    (if accepted then [(memory.cells, offers.read)] else []) ++
      acceptedReads trace (memory.tick offers)

/-- The read beats taken in a trace. -/
def takenBeats : (trace : List Offers) → Ideal → List ReadBeat
  | [], _ => []
  | offers :: trace, memory =>
    let taken := offers.takesRead && memory.presented.readBeat.valid
    (if taken then [memory.presented.readBeat] else []) ++
      takenBeats trace (memory.tick offers)

/-- The beats that answer accepted reads, in order. -/
def answerBeats (width : Nat) (accepted : List (Array UInt8 × AddressRequest)) : List ReadBeat :=
  accepted.flatMap fun (contents, request) => burstBeats contents width request

/-- The beat on the lanes when nothing valid is shown. -/
def idleBeat (width : Nat) : ReadBeat :=
  { data := List.replicate width 0 }

/-- The beat that is shown is the first one in the queue, if there is one. -/
theorem readBeat_eq (memory : Ideal) :
    memory.presented.readBeat = memory.reads.toList.head?.getD (idleBeat memory.width) := by
  rw [← Queue.first?_eq, presented]
  -- An empty queue shows the idle beat.
  cases memory.reads.first? <;> rfl

/-- Without a queued read beat, none is shown as valid. -/
theorem readBeat_of_empty {memory : Ideal} (empty : memory.reads.toList = []) :
    memory.presented.readBeat.valid = false := by
  -- What is shown then is the idle beat, which is not valid.
  rw [readBeat_eq, empty]
  rfl

/-- The read beat that is shown is the first one in the queue. -/
theorem readBeat_of_queued {memory : Ideal} {beat : ReadBeat} {rest : List ReadBeat}
    (queued : memory.reads.toList = beat :: rest) : memory.presented.readBeat = beat := by
  rw [readBeat_eq, queued]
  rfl

/-- All beats in the queue are valid, so that the first one shows as such. -/
def Answering (memory : Ideal) : Prop :=
  ∀ beat ∈ memory.reads.toList, beat.valid = true

/-- The queue after a tick keeps all beats but a taken one, and the beats of a new read follow. -/
theorem toList_readsAfter (memory : Ideal) (offers : Offers) :
    (memory.readsAfter offers).toList =
      (if offers.takesRead then memory.reads.toList.tail else memory.reads.toList) ++
        if offers.read.valid then burstBeats memory.cells memory.width offers.read else [] := by
  rw [readsAfter]
  -- A beat leaves before others join, so the order of the queue stays.
  cases offers.takesRead <;> cases offers.read.valid <;>
    simp [Queue.toList_leave, Queue.toList_join]

/-- The beats taken in a tick and those in the queue after it are in the queue before, or new. -/
theorem reads_tick {memory : Ideal} (answering : memory.Answering) (offers : Offers) :
    (if offers.takesRead && memory.presented.readBeat.valid then [memory.presented.readBeat]
      else []) ++ (memory.tick offers).reads.toList =
      memory.reads.toList ++
        if offers.read.valid then burstBeats memory.cells memory.width offers.read else [] := by
  rw [tick, toList_readsAfter, ← List.append_assoc]
  congr 1
  cases queued : memory.reads.toList with
  | nil =>
    -- Nothing valid is shown, so nothing is taken.
    rw [readBeat_of_empty queued, Bool.and_false]
    cases offers.takesRead <;> rfl
  | cons beat rest =>
    have valid : beat.valid = true := answering beat (by rw [queued]; exact List.mem_cons_self)
    rw [readBeat_of_queued queued, valid, Bool.and_true]
    cases offers.takesRead <;> rfl

/-- A queue of valid beats only gets further valid beats. -/
theorem answering_tick {memory : Ideal} (answering : memory.Answering) (offers : Offers) :
    (memory.tick offers).Answering := by
  intro beat queued
  rw [tick, toList_readsAfter, List.mem_append] at queued
  rcases queued with kept | new
  · -- A beat may have left, but none was changed.
    apply answering
    split at kept
    · exact List.mem_of_mem_tail kept
    · exact kept
  · split at new
    · obtain ⟨position, -, rfl⟩ := List.mem_map.mp new
      rfl
    · cases new

/--
The beats taken in a trace and those in the queue after it are in the queue before, or answer the
reads accepted in the trace.
-/
theorem takenBeats_append_reads (trace : List Offers) :
    ∀ memory : Ideal, memory.Answering →
      takenBeats trace memory ++ (memory.run trace).reads.toList =
        memory.reads.toList ++ answerBeats memory.width (acceptedReads trace memory) := by
  -- Induction on the trace: the first tick splits the queue, the rest follows from it.
  induction trace with
  | nil =>
    intro memory _
    rw [takenBeats, acceptedReads, answerBeats, List.flatMap_nil, List.append_nil]
    rfl
  | cons offers trace ih =>
    intro memory answering
    have first := reads_tick answering offers
    have later := ih (memory.tick offers) (answering_tick answering offers)
    have width : (memory.tick offers).width = memory.width := rfl
    rw [width] at later
    calc
      takenBeats (offers :: trace) memory ++ (memory.run (offers :: trace)).reads.toList
      _ = (if offers.takesRead && memory.presented.readBeat.valid then
            [memory.presented.readBeat] else []) ++
          (takenBeats trace (memory.tick offers) ++
            ((memory.tick offers).run trace).reads.toList) := List.append_assoc ..
      _ = memory.reads.toList ++
          ((if offers.read.valid then burstBeats memory.cells memory.width offers.read else []) ++
            answerBeats memory.width (acceptedReads trace (memory.tick offers))) := by
        rw [later, ← List.append_assoc, first, List.append_assoc]
      _ = memory.reads.toList ++
          answerBeats memory.width (acceptedReads (offers :: trace) memory) := by
        -- A read is accepted whenever it is offered.
        rw [acceptedReads, answerBeats, answerBeats, List.flatMap_append]
        cases offers.read.valid <;> simp [presented, ready]

/-- Reads are accepted with contents of the same capacity. -/
theorem size_of_mem_acceptedReads {trace : List Offers} {contents : Array UInt8}
    {request : AddressRequest} :
    ∀ {memory : Ideal}, (contents, request) ∈ acceptedReads trace memory →
      contents.size = memory.cells.size := by
  -- Induction on the trace: accepted in its first tick, or later in a memory of equal size.
  induction trace with
  | nil =>
    intro memory accepted
    cases accepted
  | cons offers trace ih =>
    intro memory accepted
    rw [acceptedReads, List.mem_append] at accepted
    rcases accepted with now | later
    · split at now
      · cases List.mem_singleton.mp now
        rfl
      · cases now
    · rw [ih later, size_tick]

end Reads

section Writes

/-- The write request accepted last once a tick is over, with the beats accepted for it since. -/
def lastWrite (offers : Offers) (ready : Ready) (write : Option (AddressRequest × Nat)) :
    Option (AddressRequest × Nat) :=
  if offers.write.valid && ready.write then some (offers.write, 0)
  else if offers.beat.valid && ready.beat then
    write.map fun (request, beats) => (request, beats + 1)
  else write

/--
The beats accepted in a trace, each with its request and its position in the burst.

A beat belongs to the write request accepted last before its tick.
-/
def acceptedBeats : (write : Option (AddressRequest × Nat)) → (trace : List Offers) →
    Ideal → List (AddressRequest × Nat × WriteBeat)
  | _, [], _ => []
  | write, offers :: trace, memory =>
    let ready := memory.presented.ready
    let accepted := offers.beat.valid && ready.beat
    (if accepted then write.toList.map fun (request, position) => (request, position, offers.beat)
      else []) ++
      acceptedBeats (lastWrite offers ready write) trace (memory.tick offers)

/-- The cells stored by beats, in order. -/
def storedCells (capacity width : Nat) (accepted : List (AddressRequest × Nat × WriteBeat)) :
    List (Nat × UInt8) :=
  accepted.flatMap fun (request, position, beat) =>
    beatWrites capacity width request position beat

/-- The burst in flight has arrived at the next beat of the write request accepted last. -/
def Follows (write : Option (AddressRequest × Nat)) (memory : Ideal) : Prop :=
  ∀ burst, memory.burst = some burst → ∃ request position, write = some (request, position) ∧
    burst.moved = movedBytes memory.width request ∧
    burst.address.toNat =
      (request.address.toNat + position * movedBytes memory.width request) % addressCount

/-- A burst moves on to its next beat, unless that was the last one. -/
theorem address_next {burst next : WriteBurst} (moves : burst.next? = some next) :
    next.moved = burst.moved ∧
      next.address.toNat = (burst.address.toNat + burst.moved) % addressCount := by
  unfold WriteBurst.next? at moves
  -- There is a next beat only if some are left.
  split at moves
  · cases moves
  · cases moves
    refine ⟨rfl, ?_⟩
    -- The address is added to at 64 bits, so it wraps at the number of addresses.
    simp only [UInt64.toNat_add, UInt64.toNat_ofNat', addressCount, UInt64.size]
    exact Nat.add_mod_mod ..

/-- A tick moves the burst in flight on as the beats of its request are accepted. -/
theorem follows_tick {write : Option (AddressRequest × Nat)} {memory : Ideal}
    (follows : memory.Follows write) (offers : Offers) :
    (memory.tick offers).Follows (lastWrite offers memory.presented.ready write) := by
  intro burst inFlight
  have after : memory.burstAfter offers = some burst := inFlight
  have width : (memory.tick offers).width = memory.width := rfl
  rw [width]
  unfold burstAfter at after
  cases before : memory.burst with
  | none =>
    -- Only a new request can start a burst, at its own address.
    simp only [before, Option.ite_none_right_eq_some, Option.some.injEq] at after
    obtain ⟨valid, rfl⟩ := after
    refine ⟨offers.write, 0, ?_, rfl, ?_⟩
    · simp [lastWrite, presented, ready, before, valid]
    · rw [Nat.zero_mul, Nat.add_zero]
      exact (Nat.mod_eq_of_lt offers.write.address.toNat_lt).symm
  | some current =>
    obtain ⟨request, position, same, moved, address⟩ := follows current before
    simp only [before] at after
    cases valid : offers.beat.valid with
    | true =>
      -- The accepted beat moves the burst on by its own length.
      simp only [valid, if_true] at after
      obtain ⟨keeps, moves⟩ := address_next after
      refine ⟨request, position + 1, ?_, keeps.trans moved, ?_⟩
      · simp [lastWrite, presented, ready, before, valid, same]
      · rw [moves, address, moved, Nat.mod_add_mod, Nat.succ_mul, Nat.add_assoc]
    | false =>
      simp only [valid, Bool.false_eq_true, if_false, Option.some.injEq] at after
      subst after
      refine ⟨request, position, ?_, moved, address⟩
      simp [lastWrite, presented, ready, before, valid, same]

/-- A tick stores the cells of the beat that is accepted in it. -/
theorem cells_tick {write : Option (AddressRequest × Nat)} {memory : Ideal}
    (follows : memory.Follows write) (wide : memory.width ≠ 0) (narrow : memory.width ≤ laneCount)
    (offers : Offers) :
    (memory.tick offers).cells =
      writeCells (storedCells memory.cells.size memory.width
        (if offers.beat.valid && memory.presented.ready.beat then
          write.toList.map fun (request, position) => (request, position, offers.beat)
        else [])) memory.cells := by
  rw [tick, cellsAfter, acceptedBeat?]
  cases before : memory.burst with
  | none =>
    -- Without a burst in flight, no beat is accepted and nothing is stored.
    have waiting : memory.presented.ready.beat = false := by simp [presented, ready, before]
    rw [waiting, Bool.and_false, ite_self]
    rfl
  | some current =>
    obtain ⟨request, position, same, moved, address⟩ := follows current before
    have accepting : memory.presented.ready.beat = true := by simp [presented, ready, before]
    rw [accepting, Bool.and_true, same]
    cases valid : offers.beat.valid with
    | true =>
      simp only [if_true, Option.toList_some, List.map_cons, List.map_nil, storedCells,
        List.flatMap_cons, List.flatMap_nil, List.append_nil]
      -- The burst has the position and the address that the trace says it has.
      rw [moved, address]
      exact storeBeat_eq wide narrow memory.cells request position offers.beat
    | false => rfl

/-- A trace stores the cells of the beats that are accepted in it, in order. -/
theorem cells_run (trace : List Offers) :
    ∀ (write : Option (AddressRequest × Nat)) (memory : Ideal), memory.Follows write →
      memory.width ≠ 0 → memory.width ≤ laneCount →
      (memory.run trace).cells =
        writeCells (storedCells memory.cells.size memory.width (acceptedBeats write trace memory))
          memory.cells := by
  induction trace with
  | nil =>
    intro write memory _ _ _
    rfl
  | cons offers trace ih =>
    intro write memory follows wide narrow
    have first := cells_tick follows wide narrow offers
    have later := ih _ (memory.tick offers) (follows_tick follows offers) wide narrow
    rw [size_tick, first] at later
    -- The cells of the first beat are stored before those of the others.
    rw [acceptedBeats, storedCells, List.flatMap_append, writeCells_append]
    exact later

end Writes

section Bytes

/--
A memory that acts in a trace as an array of bytes with addresses modulo its capacity.

A read thus gives the bytes from before its tick, and no other cell is ever changed by a write.
-/
structure ActsAsBytes (cells : Array UInt8) (width : Nat) (trace : List Offers)
    (start : Ideal) : Prop where
  /-- A read is always accepted, and so is either a write request or a beat of the last one. -/
  accepts :
    let ready := (start.run trace).presented.ready
    ready.read = true ∧ ready.beat = !ready.write
  /-- The contents are changed by the accepted write beats alone, beat by beat. -/
  contents : (start.run trace).cells =
    writeCells (storedCells cells.size width (acceptedBeats none trace start)) cells
  /-- The beats taken so far and those in the queue answer the accepted reads in order. -/
  answers : takenBeats trace start ++ (start.run trace).reads.toList =
    answerBeats width (acceptedReads trace start)
  /-- The answer to a read has as many beats as it asks for. -/
  beats : ∀ contents request, (contents, request) ∈ acceptedReads trace start →
    (burstBeats contents width request).length = request.lastBeat.toNat + 1
  /-- Each lane of such a beat holds the contents of one cell from just before the read. -/
  lanes : ∀ contents request, (contents, request) ∈ acceptedReads trace start →
    ∀ position ≤ request.lastBeat.toNat, ∀ lane < width,
      let address := request.address.toNat
      let first := (address - address % width + position * width) % 2 ^ 64 % cells.size
      ((burstBeats contents width request)[position]?.bind fun beat => beat.data[lane]?) =
        contents[(first + lane) % cells.size]?
  /-- Whatever comes later, the beats in the queue are taken as they are. -/
  queued : ∀ later,
    takenBeats later (start.run trace) ++ ((start.run trace).run later).reads.toList =
      (start.run trace).reads.toList ++ answerBeats width (acceptedReads later (start.run trace))

/-- The width of the bus stays the same. -/
theorem width_run (trace : List Offers) (memory : Ideal) :
    (memory.run trace).width = memory.width := by
  -- A tick has no way to change the width.
  induction trace generalizing memory with
  | nil => rfl
  | cons offers trace ih => exact ih (memory.tick offers)

/-- The beats in the queue stay valid. -/
theorem answering_run (trace : List Offers) {memory : Ideal} (answering : memory.Answering) :
    (memory.run trace).Answering := by
  -- Each tick removes a beat or adds valid ones.
  induction trace generalizing memory with
  | nil => exact answering
  | cons offers trace ih => exact ih (answering_tick answering offers)

/-- Ideal memory acts as an array of bytes, on every bus whose lanes can be numbered. -/
theorem actsAsBytes {cells : Array UInt8} {beatBytes : Nat} (filled : 0 < cells.size)
    (narrow : max beatBytes 1 ≤ 2 ^ 32) (trace : List Offers) :
    (holding cells beatBytes).ActsAsBytes cells (max beatBytes 1) trace := by
  -- At the start no beat is queued, and no burst is in flight.
  have idle : (holding cells beatBytes).Answering := nofun
  have unasked : (holding cells beatBytes).Follows none := nofun
  have wide : max beatBytes 1 ≠ 0 := by omega
  constructor
  case accepts =>
    refine ⟨rfl, ?_⟩
    cases inFlight : ((holding cells beatBytes).run trace).burst <;>
      simp [presented, ready, inFlight]
  case contents => exact cells_run trace none (holding cells beatBytes) unasked wide narrow
  case answers => exact takenBeats_append_reads trace (holding cells beatBytes) idle
  case beats =>
    intro contents request _
    rw [burstBeats, List.length_map, List.length_range, AddressRequest.beats]
  case lanes =>
    intro contents request accepted position within lane onBus
    -- The contents have changed since the start, but not the capacity.
    have capacity : contents.size = cells.size := size_of_mem_acceptedReads accepted
    rw [← capacity] at filled ⊢
    exact burstBeats_lane filled within onBus
  case queued =>
    intro later
    have queued := takenBeats_append_reads later ((holding cells beatBytes).run trace)
      (answering_run trace idle)
    rw [width_run] at queued
    exact queued

/-- A read in the tick of a write gets the old bytes, and both go on at the first cell. -/
theorem actsAsBytes_of_race :
    let trace : List Offers := [
      { write := { valid := true, address := 2, size := 1 } },
      { read := { valid := true, address := 2 }
        beat := { valid := true, data := [1, 2], strobe := 3, last := true } }]
    let memory := (holding #[10, 20, 30] 2).run trace
    memory.cells = #[2, 20, 1] ∧ memory.reads.toList.map ReadBeat.data = [[30, 10]] ∧
      (holding #[10, 20, 30] 2).ActsAsBytes #[10, 20, 30] 2 trace := by
  intro trace memory
  -- Three cells and two lanes: the word at two has its second lane in cell zero.
  have filled : 0 < (#[10, 20, 30] : Array UInt8).size := by decide
  have narrow : max 2 1 ≤ 2 ^ 32 := by decide
  exact ⟨rfl, rfl, actsAsBytes filled narrow trace⟩

end Bytes

end Testbench.Memory.Ideal
