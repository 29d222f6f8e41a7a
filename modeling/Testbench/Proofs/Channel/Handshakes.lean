import Testbench.Proofs.Channel.Wires

/-! Over any number of cycles, what passed on the wires of a channel accounts for its memory. -/

namespace Testbench.Channel

/-- The write bursts on a channel, as they follow from its wires. -/
structure Bursts where
  /-- The requests all of whose beats have passed. -/
  completed : List AddressRequest := []
  /-- The request whose beats are passing, with the number of those that have passed. -/
  inFlight : Option (AddressRequest × Nat) := none
  deriving DecidableEq

/-- The bursts after a beat has passed, which may be the last one of the burst in flight. -/
def Bursts.beat (bursts : Bursts) : Bursts :=
  match bursts.inFlight with
  | none => bursts
  | some (request, passed) =>
    if passed + 1 = request.beats then
      { completed := bursts.completed ++ [request], inFlight := none }
    else { bursts with inFlight := some (request, passed + 1) }

/-- The bursts after a cycle. -/
def Bursts.after (wires : Wires) (bursts : Bursts) : Bursts :=
  match wires.acceptedWrite?, wires.acceptedBeat? with
  | some request, _ => { bursts with inFlight := some (request, 0) }
  | none, some _ => bursts.beat
  | none, none => bursts

/-- The bursts of a log of wires, from an idle channel on. -/
def Bursts.of (log : List Wires) : Bursts :=
  log.foldl (fun bursts wires => bursts.after wires) {}

/-- The beats of the completed bursts, and those of the burst in flight that have passed. -/
def Bursts.beats (bursts : Bursts) : Nat :=
  (bursts.completed.map AddressRequest.beats).sum + (bursts.inFlight.map Prod.snd).getD 0

/-- The read requests that passed. -/
def acceptedReads (log : List Wires) : List AddressRequest :=
  log.filterMap Wires.acceptedRead?

/-- The write requests that passed. -/
def acceptedWrites (log : List Wires) : List AddressRequest :=
  log.filterMap Wires.acceptedWrite?

/-- The write beats that passed. -/
def acceptedBeats (log : List Wires) : List WriteBeat :=
  log.filterMap Wires.acceptedBeat?

/-- The read beats that passed. -/
def takenBeats (log : List Wires) : List ReadBeat :=
  log.filterMap Wires.takenBeat?

/-- The write answers that passed. -/
def takenAnswers (log : List Wires) : List WriteAnswer :=
  log.filterMap Wires.takenAnswer?

/-- The burst in flight in the memory is the one in flight on the wires. -/
inductive InFlight : Option Memory.WriteBurst → Option (AddressRequest × Nat) → Prop where
  | none : InFlight none none
  | some {burst : Memory.WriteBurst} {request : AddressRequest} {passed : Nat}
    (id : burst.id = request.id) (later : passed + (burst.later + 1) = request.beats) :
    InFlight (some burst) (some (request, passed))

/-- What passed on the wires of a channel accounts for its counts and the state of its memory. -/
structure Totals (log : List Wires) (channel : Channel Memory.Ideal) : Prop where
  /-- Every beat of an accepted read was taken or is queued. -/
  reads : ((acceptedReads log).map AddressRequest.beats).sum =
    (takenBeats log).length + channel.memory.queuedReads
  /-- The completed bursts are answered in order, by answers that were taken or are queued. -/
  answers : (takenAnswers log).map WriteAnswer.id ++ channel.memory.answers.toList =
    (Bursts.of log).completed.map AddressRequest.id
  /-- Every accepted write is completed, but for the one in flight. -/
  writes : acceptedWrites log =
    (Bursts.of log).completed ++ (Bursts.of log).inFlight.toList.map Prod.fst
  inFlight : InFlight channel.memory.burst (Bursts.of log).inFlight
  /-- Every accepted beat belongs to a completed burst or to the one in flight. -/
  beats : (acceptedBeats log).length = (Bursts.of log).beats
  /-- The gate counts what passed. -/
  readTally : channel.gate.tally.reads = (acceptedReads log).length
  writeTally : channel.gate.tally.writes = (acceptedWrites log).length
  beatTally : channel.gate.tally.beats = (acceptedBeats log).length

/-- A log that is extended by the wires of one more cycle has one more entry at most. -/
theorem filterMap_concat {α : Type} (part? : Wires → Option α) (log : List Wires)
    (wires : Wires) :
    (log ++ [wires]).filterMap part? = log.filterMap part? ++ (part? wires).toList := by
  rw [List.filterMap_append]
  -- The new wires contribute their part if they have one.
  cases part : part? wires <;> simp [part]

/-- The bursts on a log that is extended follow on those before. -/
theorem Bursts.of_concat (log : List Wires) (wires : Wires) :
    Bursts.of (log ++ [wires]) = (Bursts.of log).after wires := by
  -- The bursts are a fold over the log, and the new wires come last.
  rw [Bursts.of, List.foldl_append]
  rfl

/-- What a cycle does to the bursts on a channel, and to the one in flight in its memory. -/
structure Bursts.Follow (wires : Wires) (finished? burst : Option Memory.WriteBurst)
    (before after : Bursts) : Prop where
  inFlight : InFlight burst after.inFlight
  /-- The burst that is finished in the memory is the one completed on the wires. -/
  completed : after.completed.map AddressRequest.id =
    before.completed.map AddressRequest.id ++ finished?.toList.map Memory.WriteBurst.id
  writes : after.completed ++ after.inFlight.toList.map Prod.fst =
    before.completed ++ before.inFlight.toList.map Prod.fst ++ wires.acceptedWrite?.toList
  beats : after.beats = before.beats + wires.acceptedBeat?.toList.length

/-- When neither a request nor a beat passes, the bursts stay as they are. -/
theorem Bursts.follow_rest {wires : Wires} {bursts : Bursts} {burst : Option Memory.WriteBurst}
    (inFlight : InFlight burst bursts.inFlight) (noWrite : wires.acceptedWrite? = none)
    (noBeat : wires.acceptedBeat? = none) :
    Bursts.Follow wires none burst bursts bursts where
  -- With nothing passing, the only burst to follow is the one in flight.
  inFlight := inFlight
  completed := by simp
  writes := by simp [noWrite]
  beats := by simp [noBeat]

/-- A request that passes starts a burst with all its beats to come. -/
theorem Bursts.follow_write {wires : Wires} {bursts : Bursts} {request : AddressRequest}
    (idle : bursts.inFlight = none) (write : wires.acceptedWrite? = some request)
    (noBeat : wires.acceptedBeat? = none) (width : Nat) (base : UInt64) :
    Bursts.Follow wires none (some (.ofRequest width (relocate base request)))
      bursts { bursts with inFlight := some (request, 0) } where
  -- The request was relocated on its way in, and none of its beats has passed yet.
  inFlight := .some rfl (Nat.zero_add _)
  completed := by simp
  writes := by simp [write, idle]
  beats := by simp [Bursts.beats, noBeat, idle]

/-- A beat that passes completes the burst in flight exactly if the memory finishes it. -/
theorem Bursts.follow_beat {wires : Wires} {bursts : Bursts} {burst : Memory.WriteBurst}
    (inFlight : InFlight (some burst) bursts.inFlight) (noWrite : wires.acceptedWrite? = none)
    (beat : wires.acceptedBeat?.isSome = true) :
    Bursts.Follow wires (if burst.later == 0 then some burst else none) burst.next?
      bursts bursts.beat := by
  obtain ⟨completed, flying⟩ := bursts
  -- The bursts on the wires are counted by this one beat, whichever case it is.
  have one : wires.acceptedBeat?.toList.length = 1 := by
    obtain ⟨_, same⟩ := Option.isSome_iff_exists.mp beat
    rw [same]
    rfl
  cases inFlight with
  | some id later =>
    rename_i request passed
    obtain ⟨address, tag, moved, left⟩ := burst
    cases left with
    | zero =>
      -- The memory waits for the last beat, and so does the burst on the wires.
      have last : passed + 1 = request.beats := later
      have after : Bursts.beat ⟨completed, some (request, passed)⟩ =
          ⟨completed ++ [request], none⟩ := by
        simp [Bursts.beat, last]
      rw [after]
      constructor
      case inFlight => exact .none
      case completed => simp [← id]
      case writes => simp [noWrite]
      case beats =>
        simp only [Bursts.beats, one]
        simp [← last, Nat.add_assoc]
    | succ left =>
      -- More beats are to come in the memory, and as many on the wires.
      have more : passed + 1 ≠ request.beats := by
        simp only at later
        omega
      have after : Bursts.beat ⟨completed, some (request, passed)⟩ =
          ⟨completed, some (request, passed + 1)⟩ := by
        simp [Bursts.beat, more]
      rw [after]
      constructor
      case inFlight =>
        refine .some id ?_
        simp only at later ⊢
        omega
      case completed => simp
      case writes => simp [noWrite]
      case beats =>
        simp only [Bursts.beats, one]
        simp [Nat.add_assoc]

/-- The bursts on the wires and the one in flight in the memory go on together. -/
theorem Bursts.follow_afterCycle {channel : Channel Memory.Ideal} {offers : Offers}
    {bursts : Bursts} (inFlight : InFlight channel.memory.burst bursts.inFlight)
    (agrees : channel.Agrees offers) :
    Bursts.Follow (channel.wires offers) (channel.finishedBurst? offers)
      (channel.afterCycle offers).memory.burst bursts (bursts.after (channel.wires offers)) := by
  rw [agrees.burst, finishedBurst?, Bursts.after]
  cases state : channel.memory.burst with
  | none =>
    -- Only a request can pass.
    obtain ⟨-, noBeat⟩ := accepted_of_idle offers state
    rw [state] at inFlight
    rw [noBeat]
    cases write : (channel.wires offers).acceptedWrite? with
    | none => exact follow_rest inFlight write noBeat
    | some request =>
      have idle : bursts.inFlight = none := by
        generalize bursts.inFlight = onWires at inFlight
        cases inFlight
        rfl
      exact follow_write idle write noBeat _ _
  | some burst =>
    -- Only a beat can pass.
    obtain ⟨noWrite, -⟩ := accepted_of_burst offers state
    rw [state] at inFlight
    rw [noWrite]
    cases beat : (channel.wires offers).acceptedBeat? with
    | none => exact follow_rest inFlight noWrite beat
    | some shown =>
      have passes : (channel.wires offers).acceptedBeat?.isSome = true := by rw [beat]; rfl
      exact follow_beat inFlight noWrite passes

/-- A gate counts by what the design was shown in the same cycle. -/
theorem tally_afterCycle (offers : Offers) (channel : Channel Memory.Ideal) :
    let after := (channel.afterCycle offers).gate.tally
    let wires := channel.wires offers
    after.reads = channel.gate.tally.reads + wires.acceptedRead?.toList.length ∧
      after.writes = channel.gate.tally.writes + wires.acceptedWrite?.toList.length ∧
      after.beats = channel.gate.tally.beats + wires.acceptedBeat?.toList.length := by
  -- The condition to count is the one for passing, since the gate remembers what was shown.
  have counts : ∀ {α : Type} (passes : Bool) (item : α),
      passes.toNat = (if passes then some item else none).toList.length := by
    intro α passes item
    cases passes <;> rfl
  exact ⟨congrArg _ (counts _ _), congrArg _ (counts _ _), congrArg _ (counts _ _)⟩

/-- The beats that answer a read that may have passed are as many as it asks for. -/
theorem length_burstBeats (cells : Array UInt8) (width : Nat) (base : UInt64)
    (request? : Option AddressRequest) :
    (request?.toList.flatMap fun request =>
        Memory.burstBeats cells width (relocate base request)).length =
      (request?.toList.map AddressRequest.beats).sum := by
  -- A request asks for one beat more than the number it gives.
  cases request? with
  | none => rfl
  | some request => simp [Memory.burstBeats, relocate, AddressRequest.beats]

/-- One more cycle is accounted for as well. -/
theorem Totals.afterCycle {log : List Wires} {channel : Channel Memory.Ideal} {offers : Offers}
    (totals : Totals log channel) (agrees : channel.Agrees offers) :
    Totals (log ++ [channel.wires offers]) (channel.afterCycle offers) := by
  have follow := Bursts.follow_afterCycle totals.inFlight agrees
  rw [← Bursts.of_concat] at follow
  obtain ⟨readTally, writeTally, beatTally⟩ := channel.tally_afterCycle offers
  constructor
  case reads =>
    -- The queue gains the beats of a new read, and loses the one that is taken.
    have lengths := congrArg List.length agrees.readBeats
    rw [List.length_append, List.length_append, length_burstBeats] at lengths
    rw [acceptedReads, takenBeats, filterMap_concat, filterMap_concat, List.map_append,
      List.sum_append, List.length_append, ← acceptedReads, ← takenBeats, totals.reads]
    simp only [Memory.Ideal.queuedReads, Memory.Queue.size_eq]
    omega
  case answers =>
    -- Completed bursts were answered or still are in the queue, also after this cycle.
    rw [follow.completed, ← totals.answers, List.append_assoc, ← agrees.answers, takenAnswers,
      filterMap_concat, List.map_append, List.append_assoc]
    rfl
  case writes =>
    rw [follow.writes, acceptedWrites, filterMap_concat, ← acceptedWrites, totals.writes]
  case inFlight => exact follow.inFlight
  case beats =>
    rw [follow.beats, acceptedBeats, filterMap_concat, List.length_append, ← acceptedBeats,
      totals.beats]
  case readTally =>
    rw [readTally, acceptedReads, filterMap_concat, List.length_append, ← acceptedReads,
      ← totals.readTally]
  case writeTally =>
    rw [writeTally, acceptedWrites, filterMap_concat, List.length_append, ← acceptedWrites,
      ← totals.writeTally]
  case beatTally =>
    rw [beatTally, acceptedBeats, filterMap_concat, List.length_append, ← acceptedBeats,
      ← totals.beatTally]

/-- The channel after a trace of offers, one for each cycle. -/
def run (trace : List Offers) (channel : Channel Memory.Ideal) : Channel Memory.Ideal :=
  trace.foldl (fun channel offers => channel.afterCycle offers) channel

/-- The wires of a channel over a trace of offers. -/
def log : (trace : List Offers) → Channel Memory.Ideal → List Wires
  | [], _ => []
  | offers :: trace, channel => channel.wires offers :: log trace (channel.afterCycle offers)

/-- A trace is accounted for when what came before it is. -/
theorem Totals.run (trace : List Offers) :
    ∀ {before : List Wires} {channel : Channel Memory.Ideal}, channel.memory.Answering →
      Totals before channel →
        (channel.run trace).memory.Answering ∧
          Totals (before ++ channel.log trace) (channel.run trace) := by
  -- The log before grows by one cycle at a time, and accounts for the channel all along.
  induction trace with
  | nil =>
    intro before channel answering totals
    rw [log, List.append_nil]
    exact ⟨answering, totals⟩
  | cons offers trace ih =>
    intro before channel answering totals
    have first := totals.afterCycle (agrees_afterCycle answering offers)
    have later := ih (Memory.Ideal.answering_tick answering _) first
    rw [List.append_assoc] at later
    exact later

/-- The accepted writes were answered, or wait for it, or are in flight. -/
theorem Totals.writes_eq {log : List Wires} {channel : Channel Memory.Ideal}
    (totals : Totals log channel) :
    channel.gate.tally.writes = (takenAnswers log).length + channel.memory.answers.size +
      channel.memory.burst.isSome.toNat := by
  have answered := congrArg List.length totals.answers
  have accepted := congrArg List.length totals.writes
  -- One write more is accepted than completed exactly while a burst is in flight.
  have flying : (Bursts.of log).inFlight.toList.length = channel.memory.burst.isSome.toNat := by
    have inFlight := totals.inFlight
    generalize (Bursts.of log).inFlight = onWires at inFlight ⊢
    generalize channel.memory.burst = inMemory at inFlight ⊢
    cases inFlight <;> rfl
  rw [List.length_append, List.length_map, List.length_map] at answered
  rw [List.length_append, List.length_map, flying] at accepted
  rw [totals.writeTally, accepted, ← answered, Memory.Queue.size_eq]

/--
On a new channel with ideal memory, the design and the memory agree about all that passes.

They do in every cycle after any trace, and what passed in the trace accounts for the memory.
-/
theorem agrees_of_allocate {bytes : UInt64} {beatBytes : Nat} {memory : Memory.Ideal}
    (allocated : Memory.Ideal.allocate bytes beatBytes = .ok memory) (base : UInt64)
    (index : Nat) (trace : List Offers) :
    let fresh := ofMemory base index memory
    let channel := fresh.run trace
    let log := fresh.log trace
    (∀ offers, channel.Agrees offers) ∧ Totals log channel ∧
      channel.gate.tally.writes = (takenAnswers log).length + channel.memory.answers.size +
        channel.memory.burst.isSome.toNat ∧
      channel.gate.tally.beats = (Bursts.of log).beats := by
  intro fresh channel log
  obtain ⟨cells, width, same⟩ : ∃ cells width, memory = { cells, width } := by
    unfold Memory.Ideal.allocate at allocated
    split at allocated
    · cases allocated
    · cases allocated
      exact ⟨_, _, rfl⟩
  -- New memory has nothing queued and no burst in flight, as it was never ticked.
  have idle : fresh.memory.Answering := by
    intro beat queued
    simp only [fresh, ofMemory, same] at queued
    cases queued
  have nothing : Totals [] fresh := by
    rw [show fresh = ofMemory base index { cells, width } by rw [← same]]
    exact ⟨rfl, rfl, rfl, .none, rfl, rfl, rfl, rfl⟩
  obtain ⟨answering, totals⟩ := Totals.run trace idle nothing
  rw [List.nil_append] at totals
  refine ⟨agrees_afterCycle answering, totals, totals.writes_eq, ?_⟩
  -- The tally counts the beats on the wires, and the bursts are made of these.
  rw [totals.beatTally, totals.beats]

/-- A burst of two beats is in flight, of which one has passed, and a read beat is left. -/
theorem agrees_of_overlap :
    let trace : List Offers := [
      { write := { valid := true, address := 0x100, size := 1, lastBeat := 1 }
        beat := { valid := true, data := [7, 7], strobe := 3 } },
      { read := { valid := true, address := 0x100, lastBeat := 1 }
        beat := { valid := true, data := [1, 2], strobe := 3 } },
      { takesRead := true }]
    ∃ memory, Memory.Ideal.allocate 4 2 = .ok memory ∧
      let fresh := ofMemory 0x100 0 memory
      let channel := fresh.run trace
      let log := fresh.log trace
      channel.gate.tally.beats = 1 ∧ channel.memory.queuedReads = 1 ∧
      (∀ offers, channel.Agrees offers) ∧ Totals log channel ∧
        channel.gate.tally.writes = (takenAnswers log).length + channel.memory.answers.size +
          channel.memory.burst.isSome.toNat ∧
        channel.gate.tally.beats = (Bursts.of log).beats := by
  intro trace
  -- Four bytes of memory, with beats of two bytes.
  have allocated : Memory.Ideal.allocate 4 2 =
      .ok { cells := Array.replicate 4 0, width := 2 } := rfl
  exact ⟨_, allocated, rfl, rfl, agrees_of_allocate allocated 0x100 0 trace⟩

end Testbench.Channel
