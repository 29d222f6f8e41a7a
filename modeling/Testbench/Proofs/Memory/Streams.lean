import Testbench.Proofs.Memory.Contents

/-! The beats that ideal memory shows are the answers to all reads, one behind the other. -/

namespace Testbench.Memory

/-- What is left of a stream, of which some items were taken, begins with the item behind those. -/
theorem head?_eq_of_append {α : Type} {taken left stream : List α} (all : taken ++ left = stream) :
    left.head? = stream[taken.length]? := by
  -- What is left starts at the number of items that were taken.
  rw [← all, List.getElem?_append_right (Nat.le_refl _), Nat.sub_self, List.head?_eq_getElem?]

namespace Ideal

/-- More offers act on the memory after the others. -/
theorem run_append (trace later : List Offers) (memory : Ideal) :
    memory.run (trace ++ later) = (memory.run trace).run later :=
  -- The offers are folded over the memory from the first to the last.
  List.foldl_append

/-- The beats taken later follow on those taken before. -/
theorem takenBeats_append (trace later : List Offers) (memory : Ideal) :
    takenBeats (trace ++ later) memory =
      takenBeats trace memory ++ takenBeats later (memory.run trace) := by
  -- The memory is generalised, as each tick leaves the one that is asked next.
  induction trace generalizing memory with
  | nil => rfl
  | cons offers trace ih =>
    rw [List.cons_append, takenBeats, takenBeats, ih, List.append_assoc]
    rfl

/-- Beats that answer a read: as many as it asks for, whole words with its id, the last flagged. -/
structure Answers (width : Nat) (request : AddressRequest) (beats : List ReadBeat) : Prop where
  length : beats.length = request.lastBeat.toNat + 1
  shows : ∀ beat ∈ beats, beat.valid = true ∧ beat.code = okayCode ∧ beat.id = request.id ∧
    beat.data.length = width
  last : beats.map ReadBeat.last = List.replicate request.lastBeat.toNat false ++ [true]

/-- The beats of a burst answer its request, whatever the memory holds. -/
theorem answers_burstBeats (contents : Array UInt8) (width : Nat) (request : AddressRequest) :
    Answers width request (burstBeats contents width request) where
  length := by simp [burstBeats, AddressRequest.beats]
  shows := by
    intro beat among
    obtain ⟨position, -, rfl⟩ := List.mem_map.mp among
    exact ⟨rfl, rfl, rfl, by simp [readWord]⟩
  last := by
    -- Only the position behind all others is that of the last beat.
    have earlier : (List.range request.lastBeat.toNat).map (· == request.lastBeat.toNat) =
        List.replicate request.lastBeat.toNat false := by
      rw [List.eq_replicate_iff]
      refine ⟨by simp, fun flag among => ?_⟩
      obtain ⟨position, within, rfl⟩ := List.mem_map.mp among
      exact beq_false_of_ne (Nat.ne_of_lt (List.mem_range.mp within))
    have flags : (burstBeats contents width request).map ReadBeat.last =
        (List.range (request.lastBeat.toNat + 1)).map (· == request.lastBeat.toNat) := by
      rw [burstBeats, List.map_map]
      rfl
    rw [flags, List.range_succ, List.map_append, earlier, List.map_singleton, beq_self_eq_true]

/-- A memory whose read beats are one stream of answers, in a trace from its start. -/
structure Streams (width : Nat) (trace : List Offers) (start : Ideal) : Prop where
  /-- The beats taken so far and those in the queue answer the accepted reads in order. -/
  stream : takenBeats trace start ++ (start.run trace).reads.toList =
    answerBeats width (acceptedReads trace start)
  answers : ∀ contents request, (contents, request) ∈ acceptedReads trace start →
    Answers width request (burstBeats contents width request)
  /-- The next beat of the reads accepted before is shown, and nothing valid if there is none. -/
  shown : (start.run trace).presented.readBeat =
    (answerBeats width (acceptedReads trace start))[(takenBeats trace start).length]?.getD
      (idleBeat width)
  /-- Right after its tick, a read shows its first beat if all those before it were taken. -/
  next : ∀ offers, offers.read.valid = true →
    takenBeats (trace ++ [offers]) start = answerBeats width (acceptedReads trace start) →
      (burstBeats (start.run trace).cells width offers.read).head? =
        some (start.run (trace ++ [offers])).presented.readBeat
  /-- A beat that is not taken is shown again, whatever is offered meanwhile. -/
  stays : ∀ offers, (start.run trace).presented.readBeat.valid = true → offers.takesRead = false →
    (start.run (trace ++ [offers])).presented.readBeat = (start.run trace).presented.readBeat

/-- The queue after a read holds its beats only, if all others were taken by then. -/
theorem reads_of_taken {memory : Ideal} (answering : memory.Answering) {offers : Offers}
    (valid : offers.read.valid = true)
    (taken : takenBeats [offers] memory = memory.reads.toList) :
    (memory.tick offers).reads.toList = burstBeats memory.cells memory.width offers.read := by
  -- What is taken and what is left are the old queue and the new beats, and the first parts agree.
  have tick := reads_tick answering offers
  rw [takenBeats, takenBeats, List.append_nil] at taken
  rw [taken, if_pos valid] at tick
  exact List.append_cancel_left tick

/-- A beat that is shown as valid is shown again after a tick in which it is not taken. -/
theorem readBeat_tick {memory : Ideal} {offers : Offers}
    (valid : memory.presented.readBeat.valid = true) (refused : offers.takesRead = false) :
    (memory.tick offers).presented.readBeat = memory.presented.readBeat := by
  cases queued : memory.reads.toList with
  | nil =>
    -- Nothing would be shown as valid.
    rw [readBeat_of_empty queued] at valid
    cases valid
  | cons beat rest =>
    -- The beats of a new read go behind it.
    have still : (memory.tick offers).reads.toList = beat :: (rest ++
        if offers.read.valid then burstBeats memory.cells memory.width offers.read else []) := by
      rw [tick, toList_readsAfter, refused, queued]
      rfl
    rw [readBeat_of_queued still, readBeat_of_queued queued]

/-- All reads of a new memory are answered as one stream, whose beats are shown until taken. -/
theorem streams_of_allocate {bytes : UInt64} {beatBytes : Nat} {memory : Ideal}
    (allocated : allocate bytes beatBytes = .ok memory) (trace : List Offers) :
    memory.Streams (max beatBytes 1) trace := by
  obtain rfl := eq_of_allocate allocated
  let start := holding (Array.replicate bytes.toNat 0) beatBytes
  have idle : start.Answering := nofun
  have stream : takenBeats trace start ++ (start.run trace).reads.toList =
      answerBeats (max beatBytes 1) (acceptedReads trace start) :=
    takenBeats_append_reads trace start idle
  have width : (start.run trace).width = max beatBytes 1 := width_run trace start
  constructor
  case stream => exact stream
  case answers => exact fun contents request _ => answers_burstBeats contents _ request
  case shown => rw [readBeat_eq, head?_eq_of_append stream, width]
  case next =>
    intro offers valid all
    rw [takenBeats_append, ← stream] at all
    -- All earlier beats were taken, so they are cancelled on both sides.
    have queue := reads_of_taken (answering_run trace idle) valid (List.append_cancel_left all)
    have beats := (answers_burstBeats (start.run trace).cells (max beatBytes 1) offers.read).length
    -- The queue holds nothing but the beats of this read, of which there is at least one.
    have after : start.run (trace ++ [offers]) = (start.run trace).tick offers :=
      run_append trace [offers] start
    rw [after, readBeat_eq, queue, width]
    cases burst : burstBeats (start.run trace).cells (max beatBytes 1) offers.read with
    | nil =>
      rw [burst] at beats
      cases beats
    | cons beat rest => rfl
  case stays =>
    intro offers valid refused
    rw [run_append]
    exact readBeat_tick valid refused

/-- Without cells, two beats of zeros answer a read, of which the first waits to be taken. -/
theorem streams_of_waiting_read :
    let trace : List Offers := [
      { read := { valid := true, address := 6, id := 7, lastBeat := 1 }, takesRead := true },
      { write := { valid := true } },
      { read := { valid := true, id := 8 }, takesRead := true }]
    ∃ memory, allocate 0 2 = .ok memory ∧
      takenBeats trace memory =
        [{ valid := true, code := okayCode, id := 7, data := [0, 0], last := false }] ∧
      (memory.run trace).presented.readBeat =
        { valid := true, code := okayCode, id := 7, data := [0, 0], last := true } ∧
      memory.Streams (max 2 1) trace := by
  intro trace
  -- In the second tick nothing is taken, so the beat shown stays for the third.
  have allocated : allocate 0 2 = .ok { cells := Array.replicate 0 0, width := 2 } := rfl
  exact ⟨_, allocated, rfl, rfl, streams_of_allocate allocated trace⟩

end Ideal

end Testbench.Memory
