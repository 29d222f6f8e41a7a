import Testbench.Proofs.Memory.Contents

/-! The write requests that ideal memory accepts, and the beats that belong to each of them. -/

namespace Testbench.Memory.Ideal

/-- The write requests accepted in a trace, each with the offers in all ticks after its own. -/
def acceptedWrites : (trace : List Offers) → Ideal → List (AddressRequest × List Offers)
  | [], _ => []
  | offers :: trace, memory =>
    let accepted := offers.write.valid && memory.presented.ready.write
    (if accepted then [(offers.write, trace)] else []) ++
      acceptedWrites trace (memory.tick offers)

/-- The valid write beats in a trace, accepted or not. -/
def shownBeats (trace : List Offers) : List WriteBeat :=
  (trace.map Offers.beat).filter WriteBeat.valid

/-- Without a valid write request none is accepted. -/
theorem acceptedWrites_eq_nil (trace : List Offers) :
    ∀ memory : Ideal, (∀ offers ∈ trace, offers.write.valid = false) →
      acceptedWrites trace memory = [] := by
  -- A write is accepted only if it is valid, in the first tick and in all others.
  induction trace with
  | nil => exact fun _ _ => rfl
  | cons offers trace ih =>
    intro memory none_valid
    rw [acceptedWrites, none_valid offers List.mem_cons_self,
      ih _ fun other member => none_valid other (List.mem_cons_of_mem _ member)]
    rfl

/-- The number of beats that the burst in flight still waits for. -/
def due (memory : Ideal) : Nat :=
  memory.burst.elim 0 fun burst => burst.later + 1

section Ticks

variable (memory : Ideal) (offers : Offers)

/-- A request is awaited when no beat is, and the other way round. -/
theorem ready_eq : memory.presented.ready.write = (memory.due == 0) ∧
    memory.presented.ready.beat = (memory.due != 0) := by
  -- A burst in flight has at least one beat that is due.
  cases inFlight : memory.burst <;> simp [presented, ready, due, inFlight]

/-- A tick starts a burst with all its beats to come, or takes one beat for the one in flight. -/
theorem due_tick : (memory.tick offers).due =
    if memory.due = 0 then if offers.write.valid then offers.write.beats else 0
    else memory.due - offers.beat.valid.toNat := by
  cases inFlight : memory.burst with
  | none =>
    -- Beats are not awaited, so only a request counts.
    cases valid : offers.write.valid <;>
      simp [due, tick, burstAfter, inFlight, valid, WriteBurst.ofRequest, AddressRequest.beats]
  | some burst =>
    -- Requests are not awaited, so only a beat counts.
    obtain ⟨address, id, moved, later⟩ := burst
    cases valid : offers.beat.valid <;> cases later <;>
      simp [due, tick, burstAfter, inFlight, valid, WriteBurst.next?]

/-- The beats shown in a tick come before those shown in later ones. -/
theorem shownBeats_cons (trace : List Offers) : shownBeats (offers :: trace) =
    (if offers.beat.valid then [offers.beat] else []) ++ shownBeats trace := by
  cases valid : offers.beat.valid <;> simp [shownBeats, valid]

/-- The number of beats shown grows by one in a tick with a valid one. -/
theorem length_shownBeats_cons (trace : List Offers) :
    (shownBeats (offers :: trace)).length =
      (shownBeats trace).length + offers.beat.valid.toNat := by
  rw [shownBeats_cons]
  -- A beat that is not valid is not shown, and does not count.
  cases offers.beat.valid <;> simp

end Ticks

/-- The burst in flight waits for what the beats shown since leave of the last request. -/
theorem due_run (trace : List Offers) (memory : Ideal) :
    (memory.run trace).due =
      (acceptedWrites trace memory).getLast?.elim (memory.due - (shownBeats trace).length)
        fun (request, later) => request.beats - (shownBeats later).length := by
  -- The first tick matters as long as no later request is accepted.
  induction trace generalizing memory with
  | nil => rfl
  | cons offers trace ih =>
    have tick := due_tick memory offers
    have beats := length_shownBeats_cons offers trace
    have ready := (ready_eq memory).1
    have run : memory.run (offers :: trace) = (memory.tick offers).run trace := rfl
    rw [run, ih, acceptedWrites, ready, List.getLast?_append]
    cases (acceptedWrites trace (memory.tick offers)).getLast? with
    | some last => rfl
    | none =>
      -- The last request is the one accepted in this tick, or was accepted before it.
      simp only [Option.none_or, Option.elim_none, tick, beats]
      by_cases idle : memory.due = 0
      · cases offers.write.valid <;> simp [idle]
      · simp [idle, Nat.sub_sub, Nat.add_comm]

/-- The beats that belong to a request, from a position in its burst on. -/
def beatsFrom (request : AddressRequest) (position : Nat) (beats : List WriteBeat) :
    List (AddressRequest × Nat × WriteBeat) :=
  (beats.zipIdx position).map fun (beat, position) => (request, position, beat)

/-- The beats of accepted requests, each with as many of those shown later as it asks for. -/
def burstsOf (accepted : List (AddressRequest × List Offers)) :
    List (AddressRequest × Nat × WriteBeat) :=
  accepted.flatMap fun (request, later) =>
    beatsFrom request 0 ((shownBeats later).take request.beats)

/-- The accepted beats are those still due for the burst in flight, and those of later bursts. -/
theorem acceptedBeats_eq (trace : List Offers) :
    ∀ (write : Option (AddressRequest × Nat)) (memory : Ideal),
      acceptedBeats write trace memory =
        (write.toList.flatMap fun (request, position) =>
            beatsFrom request position ((shownBeats trace).take memory.due)) ++
          burstsOf (acceptedWrites trace memory) := by
  -- Of the beats shown from a tick on, as many as are due there belong to the burst in flight.
  induction trace with
  | nil =>
    intro write memory
    cases write <;> simp [acceptedBeats, acceptedWrites, shownBeats, burstsOf, beatsFrom]
  | cons offers trace ih =>
    intro write memory
    obtain ⟨awaited, accepting⟩ := ready_eq memory
    have tick := due_tick memory offers
    rw [acceptedBeats, acceptedWrites, ih, shownBeats_cons, lastWrite, awaited, accepting, tick]
    cases due : memory.due with
    | zero =>
      -- No beat is accepted, but a request may be, and then all its beats are due.
      cases valid : offers.write.valid <;> cases write <;>
        simp [burstsOf, beatsFrom]
    | succ left =>
      -- No request is accepted, but a beat may be, and then one beat less is due.
      cases valid : offers.beat.valid <;> cases write <;>
        simp [beatsFrom, List.zipIdx_cons]

end Testbench.Memory.Ideal
