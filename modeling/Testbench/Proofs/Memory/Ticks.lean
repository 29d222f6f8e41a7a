import Testbench.Proofs.Memory.Contents

/-! What ideal memory makes of each part of the offers in a tick. -/

namespace Testbench

/-- The same offers without a valid read request. -/
def Offers.withoutRead (offers : Offers) : Offers :=
  { offers with read := { offers.read with valid := false } }

/-- The same offers without a valid write request. -/
def Offers.withoutWrite (offers : Offers) : Offers :=
  { offers with write := { offers.write with valid := false } }

/-- The same offers without a valid write beat. -/
def Offers.withoutBeat (offers : Offers) : Offers :=
  { offers with beat := { offers.beat with valid := false } }

/-- The same offers, of which none takes a read beat. -/
def Offers.refusingBeat (offers : Offers) : Offers :=
  { offers with takesRead := false }

/-- The same offers, of which none takes a write answer. -/
def Offers.refusingAnswer (offers : Offers) : Offers :=
  { offers with takesAnswer := false }

/-- Nothing changes when an item is to leave a queue without any. -/
theorem Memory.Queue.leave_of_nil {α : Type} {queue : Queue α} (empty : queue.toList = []) :
    queue.leave = queue := by
  obtain ⟨front, back⟩ := queue
  simp only [toList, List.append_eq_nil_iff, List.reverse_eq_nil_iff] at empty
  -- Both halves of the queue are empty, and an empty front is left as it is.
  obtain ⟨rfl, rfl⟩ := empty
  rfl

namespace Memory.Ideal

/-- The answer to a burst that went well. -/
def answerTo (id : UInt64) : WriteAnswer :=
  { valid := true, code := okayCode, id }

section Shown

variable {memory : Ideal}

/-- The answer that is shown is the first one in the queue, if there is one. -/
theorem answer_eq (memory : Ideal) :
    memory.presented.answer = (memory.answers.toList.head?.map answerTo).getD {} := by
  rw [← Queue.first?_eq, presented]
  -- An empty queue shows an answer with all fields at their defaults.
  cases memory.answers.first? <;> rfl

/-- Without a queued answer, none is shown as valid. -/
theorem answer_of_empty (empty : memory.answers.toList = []) :
    memory.presented.answer.valid = false := by
  -- That default answer is not valid.
  rw [answer_eq, empty]
  rfl

/-- The answer that is shown belongs to the first burst in the queue. -/
theorem answer_of_queued {id : UInt64} {rest : List UInt64}
    (queued : memory.answers.toList = id :: rest) :
    memory.presented.answer = { valid := true, code := okayCode, id } := by
  rw [answer_eq, queued]
  rfl

end Shown

/-- The memory would be another after the tick without the read request exactly if it is valid. -/
theorem tick_withoutRead_ne_iff {memory : Ideal} {offers : Offers} :
    memory.tick offers ≠ memory.tick offers.withoutRead ↔
      offers.read.valid = true ∧ memory.presented.ready.read = true := by
  have ready : memory.presented.ready.read = true := rfl
  cases valid : offers.read.valid with
  | false =>
    -- Without a valid request there is nothing to leave out.
    have same : offers.withoutRead = offers := by rw [Offers.withoutRead, ← valid]
    simp [same]
  | true =>
    simp only [ready, and_self, iff_true]
    intro same
    -- The queue has room for every beat, and a read asks for at least one.
    have queues := congrArg (fun memory : Ideal => memory.reads.toList) same
    simp only [tick, toList_readsAfter, valid, Offers.withoutRead, if_true, Bool.false_eq_true,
      if_false, List.append_cancel_left_eq] at queues
    have beats := congrArg List.length queues
    simp [burstBeats, AddressRequest.beats] at beats

/-- The memory would be another without the write request exactly if it is valid and awaited. -/
theorem tick_withoutWrite_ne_iff {memory : Ideal} {offers : Offers} :
    memory.tick offers ≠ memory.tick offers.withoutWrite ↔
      offers.write.valid = true ∧ memory.presented.ready.write = true := by
  cases valid : offers.write.valid with
  | false =>
    have same : offers.withoutWrite = offers := by rw [Offers.withoutWrite, ← valid]
    simp [same]
  | true =>
    cases inFlight : memory.burst with
    | none =>
      -- The request starts a burst, which would not be there otherwise.
      simp only [presented, ready, inFlight, Option.isNone_none, and_self, iff_true]
      intro same
      have bursts := congrArg Ideal.burst same
      simp [tick, burstAfter, inFlight, valid, Offers.withoutWrite] at bursts
    | some burst =>
      -- A burst in flight keeps the request waiting.
      have bursts : memory.burstAfter offers = memory.burstAfter offers.withoutWrite := by
        simp only [burstAfter, inFlight]
        rfl
      have same : memory.tick offers = memory.tick offers.withoutWrite := by
        rw [tick, bursts]
        rfl
      simp [same, presented, ready, inFlight]

/-- A burst never stays where it is when a beat arrives. -/
theorem next?_ne_self (burst : WriteBurst) : burst.next? ≠ some burst := by
  -- The last beat ends the burst, and every other one leaves fewer beats to come.
  obtain ⟨address, id, moved, later⟩ := burst
  cases later <;> simp [WriteBurst.next?]

/-- The memory would be another without the write beat exactly if it is valid and awaited. -/
theorem tick_withoutBeat_ne_iff {memory : Ideal} {offers : Offers} :
    memory.tick offers ≠ memory.tick offers.withoutBeat ↔
      offers.beat.valid = true ∧ memory.presented.ready.beat = true := by
  cases valid : offers.beat.valid with
  | false =>
    have same : offers.withoutBeat = offers := by rw [Offers.withoutBeat, ← valid]
    simp [same]
  | true =>
    cases inFlight : memory.burst with
    | none =>
      -- Without a burst in flight, the beat belongs to none.
      have bursts : memory.burstAfter offers = memory.burstAfter offers.withoutBeat := by
        simp only [burstAfter, inFlight]
        rfl
      have homeless : ∀ others : Offers, memory.acceptedBeat? others = none := by
        simp [acceptedBeat?, inFlight]
      have same : memory.tick offers = memory.tick offers.withoutBeat := by
        simp only [tick, bursts, answersAfter, cellsAfter, finishedBurst?, homeless]
        rfl
      simp [same, presented, ready, inFlight]
    | some burst =>
      simp only [presented, ready, inFlight, Option.isSome_some, and_self, iff_true]
      intro same
      -- The burst moves on by the beat, and would stay where it is otherwise.
      have bursts := congrArg Ideal.burst same
      simp [tick, burstAfter, inFlight, valid, Offers.withoutBeat, next?_ne_self] at bursts

/-- The queue after a tick keeps all answers but a taken one, and that to a finished burst joins. -/
theorem toList_answersAfter (memory : Ideal) (offers : Offers) :
    (memory.answersAfter offers).toList =
      (if offers.takesAnswer then memory.answers.toList.tail else memory.answers.toList) ++
        (memory.finishedBurst? offers).toList.map WriteBurst.id := by
  rw [answersAfter]
  -- An answer leaves before another joins, so the order of the queue stays.
  cases offers.takesAnswer <;> cases memory.finishedBurst? offers <;>
    simp [Queue.toList_leave, Queue.toList_join]

/-- The memory would keep a read beat exactly if one that it shows is taken. -/
theorem tick_refusingBeat_ne_iff {memory : Ideal} (answering : memory.Answering)
    {offers : Offers} :
    memory.tick offers ≠ memory.tick offers.refusingBeat ↔
      memory.presented.readBeat.valid = true ∧ offers.takesRead = true := by
  cases takes : offers.takesRead with
  | false =>
    have same : offers.refusingBeat = offers := by rw [Offers.refusingBeat, ← takes]
    simp [same]
  | true =>
    cases queued : memory.reads.toList with
    | nil =>
      -- There is nothing to take, however ready the design is.
      have reads : memory.readsAfter offers = memory.readsAfter offers.refusingBeat := by
        simp only [readsAfter, takes, if_true, Queue.leave_of_nil queued]
        rfl
      have same : memory.tick offers = memory.tick offers.refusingBeat := by
        rw [tick, reads]
        rfl
      simp [same, readBeat_of_empty queued]
    | cons beat rest =>
      have valid : beat.valid = true :=
        answering beat (by rw [queued]; exact List.mem_cons_self)
      simp only [readBeat_of_queued queued, valid, and_self, iff_true]
      intro same
      -- The queues differ by the beat that leaves.
      have queues := congrArg (fun memory : Ideal => memory.reads.toList.length) same
      simp [tick, toList_readsAfter, takes, queued, Offers.refusingBeat] at queues

/-- The memory would keep an answer exactly if one that it shows is taken. -/
theorem tick_refusingAnswer_ne_iff {memory : Ideal} {offers : Offers} :
    memory.tick offers ≠ memory.tick offers.refusingAnswer ↔
      memory.presented.answer.valid = true ∧ offers.takesAnswer = true := by
  cases takes : offers.takesAnswer with
  | false =>
    have same : offers.refusingAnswer = offers := by rw [Offers.refusingAnswer, ← takes]
    simp [same]
  | true =>
    cases queued : memory.answers.toList with
    | nil =>
      -- There is nothing to take, however ready the design is.
      have answers : memory.answersAfter offers = memory.answersAfter offers.refusingAnswer := by
        simp only [answersAfter, takes, if_true, Queue.leave_of_nil queued]
        rfl
      have same : memory.tick offers = memory.tick offers.refusingAnswer := by
        rw [tick, answers]
        rfl
      simp [same, answer_of_empty queued]
    | cons id rest =>
      simp only [answer_of_queued queued, and_self, iff_true]
      intro same
      have finished : memory.finishedBurst? offers.refusingAnswer = memory.finishedBurst? offers :=
        rfl
      have refuses : offers.refusingAnswer.takesAnswer = false := rfl
      have queues : (memory.answersAfter offers).toList =
          (memory.answersAfter offers.refusingAnswer).toList :=
        congrArg (fun memory : Ideal => memory.answers.toList) same
      rw [toList_answersAfter, toList_answersAfter, finished, refuses, takes, queued] at queues
      -- What arrives is the same, so the queues differ by the answer that leaves.
      have lengths := congrArg List.length (List.append_cancel_right queues)
      simp at lengths

/-- The answers taken in a tick and those queued after it are queued before, or arrive in it. -/
theorem answers_tick (memory : Ideal) (offers : Offers) :
    (if offers.takesAnswer && memory.presented.answer.valid then [memory.presented.answer.id]
      else []) ++ (memory.tick offers).answers.toList =
      memory.answers.toList ++ (memory.finishedBurst? offers).toList.map WriteBurst.id := by
  rw [tick, toList_answersAfter, ← List.append_assoc]
  -- What arrives is the same on both sides, so only the front of the queue is left to compare.
  congr 1
  cases queued : memory.answers.toList with
  | nil =>
    rw [answer_of_empty queued, Bool.and_false]
    cases offers.takesAnswer <;> rfl
  | cons id rest =>
    rw [answer_of_queued queued, Bool.and_true]
    cases offers.takesAnswer <;> rfl

end Memory.Ideal

end Testbench
