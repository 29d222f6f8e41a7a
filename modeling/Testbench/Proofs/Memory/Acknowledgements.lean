import Testbench.Proofs.Memory.Streams
import Testbench.Proofs.Memory.Ticks
import Testbench.Proofs.Memory.Writes

/-! Ideal memory answers each write burst once, in order, and after the last of its beats. -/

namespace Testbench.Memory.Ideal

/-- The accepted write requests for which enough beats were shown in the ticks after theirs. -/
def completedWrites (trace : List Offers) (memory : Ideal) : List AddressRequest :=
  ((acceptedWrites trace memory).filter fun (request, later) =>
    request.beats ≤ (shownBeats later).length).map Prod.fst

/-- The write answers taken in a trace. -/
def takenAnswers : (trace : List Offers) → Ideal → List WriteAnswer
  | [], _ => []
  | offers :: trace, memory =>
    let taken := offers.takesAnswer && memory.presented.answer.valid
    (if taken then [memory.presented.answer] else []) ++ takenAnswers trace (memory.tick offers)

section Answering

/-- The burst in flight, by its id, if a number of beats is enough to finish it. -/
def finishing (count : Nat) (memory : Ideal) : List UInt64 :=
  (memory.burst.toList.filter fun burst => burst.later < count).map WriteBurst.id

/-- What is finished in a tick or by later beats is the burst in flight, or else a new one. -/
theorem finishing_tick (count : Nat) (memory : Ideal) (offers : Offers) :
    (memory.finishedBurst? offers).toList.map WriteBurst.id ++
        (memory.tick offers).finishing count =
      memory.finishing (count + offers.beat.valid.toNat) ++
        if offers.write.valid && memory.presented.ready.write && offers.write.beats ≤ count then
          [offers.write.id] else [] := by
  rw [(ready_eq memory).1]
  cases inFlight : memory.burst with
  | none =>
    -- A request may start a burst, for which the beats may be enough.
    have idle : memory.due = 0 := by rw [due, inFlight]; rfl
    cases valid : offers.write.valid with
    | false =>
      simp [finishing, finishedBurst?, acceptedBeat?, tick, burstAfter, inFlight, valid]
    | true =>
      have later : offers.write.lastBeat.toNat < count ↔ offers.write.beats ≤ count := Iff.rfl
      by_cases enough : offers.write.beats ≤ count <;>
        simp [finishing, finishedBurst?, acceptedBeat?, tick, burstAfter, inFlight, valid, idle,
          WriteBurst.ofRequest, later, enough]
  | some burst =>
    -- No request is accepted, and a beat of this tick is one more for the burst.
    have busy : (memory.due == 0) = false := by rw [due, inFlight]; rfl
    obtain ⟨address, id, moved, later⟩ := burst
    cases valid : offers.beat.valid with
    | false =>
      simp [finishing, finishedBurst?, acceptedBeat?, tick, burstAfter, inFlight, valid, busy]
    | true =>
      cases later with
      | zero =>
        simp [finishing, finishedBurst?, acceptedBeat?, tick, burstAfter, inFlight, valid, busy,
          WriteBurst.next?]
      | succ left =>
        by_cases enough : left < count <;>
          simp [finishing, finishedBurst?, acceptedBeat?, tick, burstAfter, inFlight, valid, busy,
            WriteBurst.next?, enough]

/-- The completed writes of a trace begin with the one of its first tick, if that is completed. -/
theorem completedWrites_cons (offers : Offers) (trace : List Offers) (memory : Ideal) :
    completedWrites (offers :: trace) memory =
      (if offers.write.valid && memory.presented.ready.write &&
          offers.write.beats ≤ (shownBeats trace).length then [offers.write] else []) ++
        completedWrites trace (memory.tick offers) := by
  rw [completedWrites, acceptedWrites, List.filter_append, List.map_append]
  congr 1
  cases offers.write.valid && memory.presented.ready.write with
  | false => rfl
  | true =>
    -- An accepted request is complete if the beats for it are among those of the trace.
    by_cases enough : offers.write.beats ≤ (shownBeats trace).length <;> simp [enough]

/-- The answers taken and those in the queue are those from before, and one for each write. -/
theorem takenAnswers_append_answers (trace : List Offers) (memory : Ideal) :
    (takenAnswers trace memory).map WriteAnswer.id ++ (memory.run trace).answers.toList =
      memory.answers.toList ++ memory.finishing (shownBeats trace).length ++
        (completedWrites trace memory).map AddressRequest.id := by
  -- A tick keeps the whole: answers leave it for those taken, and finished bursts stay in it.
  induction trace generalizing memory with
  | nil =>
    have none : memory.finishing 0 = [] := by simp [finishing]
    simp [takenAnswers, completedWrites, acceptedWrites, shownBeats, none, run]
  | cons offers trace ih =>
    have first := answers_tick memory offers
    have finished := finishing_tick (shownBeats trace).length memory offers
    rw [← length_shownBeats_cons] at finished
    have run : memory.run (offers :: trace) = (memory.tick offers).run trace := rfl
    have taken : (if offers.takesAnswer && memory.presented.answer.valid then
        [memory.presented.answer] else []).map WriteAnswer.id =
          if offers.takesAnswer && memory.presented.answer.valid then
            [memory.presented.answer.id] else [] := by
      rw [apply_ite (List.map WriteAnswer.id)]
      rfl
    rw [takenAnswers, run, List.map_append, List.append_assoc, ih, completedWrites_cons, taken]
    -- Regroup, then replace the queue after the tick, and last the bursts that it finishes.
    calc
      _ = ((if offers.takesAnswer && memory.presented.answer.valid then
              [memory.presented.answer.id] else []) ++ (memory.tick offers).answers.toList) ++
            ((memory.tick offers).finishing (shownBeats trace).length ++
              (completedWrites trace (memory.tick offers)).map AddressRequest.id) := by
        simp only [List.append_assoc]
      _ = memory.answers.toList ++ (((memory.finishedBurst? offers).toList.map WriteBurst.id ++
            (memory.tick offers).finishing (shownBeats trace).length) ++
              (completedWrites trace (memory.tick offers)).map AddressRequest.id) := by
        rw [first]
        simp only [List.append_assoc]
      _ = _ := by
        rw [finished, List.map_append, apply_ite (List.map AddressRequest.id)]
        simp only [List.append_assoc, List.map_singleton, List.map_nil]

/-- There is an answer in the queue when one is shown as valid. -/
theorem exists_queued_of_answer {memory : Ideal} (valid : memory.presented.answer.valid = true) :
    ∃ id rest, memory.answers.toList = id :: rest := by
  -- With an empty queue the answer shown is not valid.
  cases queued : memory.answers.toList with
  | nil =>
    rw [answer_of_empty queued] at valid
    cases valid
  | cons id rest => exact ⟨id, rest, rfl⟩

/-- An answer that is shown as valid is to a burst that went well. -/
theorem answer_eq_answerTo {memory : Ideal} (valid : memory.presented.answer.valid = true) :
    memory.presented.answer = answerTo memory.presented.answer.id := by
  obtain ⟨id, rest, queued⟩ := exists_queued_of_answer valid
  -- The identifier is all that the queue keeps of an answer.
  rw [answer_of_queued queued]
  rfl

/-- An answer that is shown as valid is shown again after a tick in which it is not taken. -/
theorem answer_tick {memory : Ideal} {offers : Offers}
    (valid : memory.presented.answer.valid = true) (refused : offers.takesAnswer = false) :
    (memory.tick offers).presented.answer = memory.presented.answer := by
  obtain ⟨id, rest, queued⟩ := exists_queued_of_answer valid
  -- What arrives in the tick goes behind it.
  have still : (memory.tick offers).answers.toList =
      id :: (rest ++ (memory.finishedBurst? offers).toList.map WriteBurst.id) := by
    rw [tick, toList_answersAfter, refused, queued]
    rfl
  rw [answer_of_queued still, answer_of_queued queued]

/-- The answers taken are to bursts that went well. -/
theorem eq_answerTo_of_taken {trace : List Offers} {answer : WriteAnswer} :
    ∀ {memory : Ideal}, answer ∈ takenAnswers trace memory → answer = answerTo answer.id := by
  -- Induction on the trace: taken in its first tick, or in the rest of it.
  induction trace with
  | nil =>
    intro memory taken
    cases taken
  | cons offers trace ih =>
    intro memory taken
    rw [takenAnswers, List.mem_append] at taken
    rcases taken with now | later
    · split at now
      · -- It was taken as it was shown, and shown as valid.
        rename_i takes
        rw [Bool.and_eq_true] at takes
        rw [List.mem_singleton.mp now]
        exact answer_eq_answerTo takes.2
      · cases now
    · exact ih later

end Answering

/-- A memory that acknowledges each burst once, in a trace from its start. -/
structure Acknowledges (trace : List Offers) (start : Ideal) : Prop where
  /-- Either a request is awaited or a beat, and never both. -/
  exclusive : (start.run trace).presented.ready.beat = !(start.run trace).presented.ready.write
  /-- No request is awaited until the beats of the last one were shown, in ticks after its own. -/
  awaits : (start.run trace).presented.ready.write =
    (acceptedWrites trace start).getLast?.all fun (request, later) =>
      decide (request.beats ≤ (shownBeats later).length)
  /-- The beats accepted so far are those shown first after each accepted request, in order. -/
  beats : acceptedBeats none trace start = burstsOf (acceptedWrites trace start)
  /-- The answers taken so far and those in the queue are to the completed writes in order. -/
  answers : (takenAnswers trace start).map WriteAnswer.id ++ (start.run trace).answers.toList =
    (completedWrites trace start).map AddressRequest.id
  okay : ∀ answer ∈ takenAnswers trace start, answer = answerTo answer.id
  /-- The next of the writes completed before is answered, and nothing valid shown without one. -/
  shown : (start.run trace).presented.answer =
    ((completedWrites trace start)[(takenAnswers trace start).length]?.map fun request =>
      answerTo request.id).getD {}
  /-- An answer that is not taken is shown again, whatever is offered meanwhile. -/
  stays : ∀ offers, (start.run trace).presented.answer.valid = true → offers.takesAnswer = false →
    (start.run (trace ++ [offers])).presented.answer = (start.run trace).presented.answer

/-- Each write of a new memory is acknowledged once, in order, after the last of its beats. -/
theorem acknowledges_of_allocate {bytes : UInt64} {beatBytes : Nat} {memory : Ideal}
    (allocated : allocate bytes beatBytes = .ok memory) (trace : List Offers) :
    memory.Acknowledges trace := by
  obtain rfl := eq_of_allocate allocated
  let start := holding (Array.replicate bytes.toNat 0) beatBytes
  -- Readiness is read off the beats that are due: none for requests, some for beats.
  obtain ⟨awaited, accepting⟩ := ready_eq (start.run trace)
  have answers : (takenAnswers trace start).map WriteAnswer.id ++
      (start.run trace).answers.toList = (completedWrites trace start).map AddressRequest.id :=
    takenAnswers_append_answers trace start
  constructor
  case exclusive => rw [accepting, awaited]; rfl
  case awaits =>
    -- At the start none is due, so what is due is left of the last accepted request.
    have idle : start.due = 0 := rfl
    rw [awaited, due_run, idle]
    cases (acceptedWrites trace start).getLast? with
    | none => simp
    | some last =>
      rw [Option.elim_some, Option.all_some, Bool.eq_iff_iff, beq_iff_eq, decide_eq_true_eq]
      exact Nat.sub_eq_zero_iff_le
  case beats => exact acceptedBeats_eq trace none start
  case answers => exact answers
  case okay => exact fun _ => eq_answerTo_of_taken
  case shown =>
    -- The first answer in the queue is the one behind those taken.
    rw [answer_eq, head?_eq_of_append answers, List.length_map, List.getElem?_map, Option.map_map]
    rfl
  case stays =>
    intro offers valid refused
    rw [run_append]
    exact answer_tick valid refused

/-- A second request waits for both beats of the first, and is answered behind it. -/
theorem acknowledges_of_overlap :
    let trace : List Offers := [
      { write := { valid := true, id := 5, lastBeat := 1 }
        beat := { valid := true, data := [9, 9], strobe := 3, last := true } },
      { write := { valid := true, id := 6 }
        beat := { valid := true, data := [1, 2], strobe := 3, last := true } },
      { beat := { valid := true, data := [3, 4], strobe := 3 }, takesAnswer := true },
      { write := { valid := true, id := 6 }, takesAnswer := true },
      { beat := { valid := true, data := [5, 6], strobe := 3 } }]
    ∃ memory, allocate 8 2 = .ok memory ∧
      (completedWrites trace memory).map AddressRequest.id = [5, 6] ∧
      takenAnswers trace memory = [answerTo 5] ∧
      (memory.run trace).presented.answer = answerTo 6 ∧ memory.Acknowledges trace := by
  intro trace
  -- The second request is offered while the first is in flight, and has to be offered again.
  have allocated : allocate 8 2 = .ok { cells := Array.replicate 8 0, width := 2 } := rfl
  exact ⟨_, allocated, rfl, rfl, rfl, acknowledges_of_allocate allocated trace⟩

end Testbench.Memory.Ideal
