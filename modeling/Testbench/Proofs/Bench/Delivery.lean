import Testbench.Proofs.Bench.Exchanges
import Testbench.Proofs.Bench.Rounds

/-! Inbound frames are delivered exactly once and in order, over any number of cycles. -/

namespace Testbench.Bench

section Reset

variable {D H M : Type} [Design D] (held : HeldInputs D)

/-- Clocking a design in reset leaves its host inputs alone. -/
theorem inputs_resetCycles (left missing clocked : Nat) (bench : Bench D H M) :
    held.inputs (bench.resetCycles missing clocked left).2.design = held.inputs bench.design := by
  -- Settling and committing are the only calls made of a design in reset.
  apply resetCycles_preserves fun after : Bench D H M =>
    held.inputs after.design = held.inputs bench.design
  case settles => exact fun after same => (held.settle true after.design).trans same
  case commits => exact fun after same => (held.commit true after.design).trans same
  case before => rfl

/-- After a reset, the host inputs are idle. -/
theorem inputs_reset (bench : Bench D H M) : held.inputs bench.reset.2.design = {} := by
  have idle : held.inputs bench.holdIdle.design = {} := by
    -- Both inputs are driven before the first cycle, so nothing from before is left on them.
    have drives : bench.holdIdle.design =
        HostPins.driveHostReady false (HostPins.driveHostIn false 0 bench.design) := rfl
    rw [drives, held.driveHostReady, held.driveHostIn]
  obtain ⟨_, same⟩ := bench.reset_eq
  rw [same, ← idle]
  exact inputs_resetCycles held maxResetCycles resetEdges 0 bench.holdIdle

end Reset

section Asking

variable {D H M : Type} [Host H]

/-- Asking whether to go on leaves the frame on its way in and the counts of the link alone. -/
theorem link_ready (ask : Bool) (bench : Bench D H M) :
    (bench.ready ask).link.pendingFrame? = bench.link.pendingFrame? ∧
      (bench.ready ask).link.tally = bench.link.tally := by
  cases ask with
  | false => exact ⟨rfl, rfl⟩
  | true =>
    obtain ⟨_, _, _, same⟩ := bench.asked_eq
    -- What the link learns in a question is only that a stop was forwarded.
    rw [ready, if_pos rfl, same]
    exact ⟨rfl, rfl⟩

/-- Asking whether to go on exchanges no frames. -/
theorem makes_ready [Design D] [Memory M] (ask : Bool) (bench : Bench D H M) :
    ∃ calls, Makes calls bench (bench.ready ask) ∧ exchanges calls = [] := by
  cases ask with
  | false => exact ⟨[], .none rfl rfl, rfl⟩
  | true =>
    -- The calls that ask the host whether it has finished pass no frame.
    refine ⟨_, bench.makes_asked, ?_⟩
    apply exchanges_eq_nil
    intro call made
    obtain ⟨question, _, asks⟩ := List.mem_flatMap.mp made
    rw [Question.purpose_of_mem asks]
    nofun

end Asking

section Steps

variable {D H M : Type} [Design D] [Host H] [Memory M]

/-- The bench right before a cycle, after it may have been asked whether to go on. -/
def atCycle (asks requests : Nat → Bool) (cycle : Nat) (bench : Bench D H M) : Bench D H M :=
  (bench.steps asks requests cycle).ready (asks cycle)

/-- The frames that the design accepts in some cycles, in order. -/
def acceptedFrames (asks requests : Nat → Bool) (count : Nat) (bench : Bench D H M) :
    List UInt64 :=
  (List.range count).filterMap fun cycle => (bench.atCycle asks requests cycle).acceptedFrame?

/-- The number of cycles in which the host clock has an edge. -/
def gatedCycles (asks requests : Nat → Bool) (count : Nat) (bench : Bench D H M) : Nat :=
  (List.range count).countP fun cycle => (bench.atCycle asks requests cycle).gated

/-- Every design settles in the first cycles. -/
def Sound (asks requests : Nat → Bool) (count : Nat) (bench : Bench D H M) : Prop :=
  ∀ cycle < count, (bench.atCycle asks requests cycle).faultIn = none

/-- What some cycles from a start on have delivered, with the calls made in them. -/
structure Delivered (held : HeldInputs D) (asks requests : Nat → Bool) (count : Nat)
    (start : Bench D H M) (calls : List Call) : Prop where
  made : Makes calls start (start.steps asks requests count)
  /-- The design is shown the frame on its way in, if there is one. -/
  presented : (held.inputs (start.steps asks requests count).design).frame? =
    (start.steps asks requests count).link.pendingFrame?
  /-- The frames fetched are those accepted, followed by the one on its way in. -/
  delivered : fetchedFrames calls =
    start.acceptedFrames asks requests count ++
      (start.steps asks requests count).link.pendingFrame?.toList
  received : (start.steps asks requests count).link.tally.received = (fetchedFrames calls).length
  edges : (start.steps asks requests count).link.tally.edges =
    start.gatedCycles asks requests count

/-- The frame that is accepted in one more cycle, if any, comes last. -/
theorem acceptedFrames_succ (asks requests : Nat → Bool) (count : Nat) (bench : Bench D H M) :
    bench.acceptedFrames asks requests (count + 1) =
      bench.acceptedFrames asks requests count ++
        (bench.atCycle asks requests count).acceptedFrame?.toList := by
  -- The cycles are gone through in order, so the new one is the last.
  rw [acceptedFrames, List.range_succ, List.filterMap_append]
  cases frame : (bench.atCycle asks requests count).acceptedFrame? <;>
    simp [acceptedFrames, frame]

/-- One more cycle counts if the host clock has an edge in it. -/
theorem gatedCycles_succ (asks requests : Nat → Bool) (count : Nat) (bench : Bench D H M) :
    bench.gatedCycles asks requests (count + 1) =
      bench.gatedCycles asks requests count +
        (bench.atCycle asks requests count).gated.toNat := by
  -- The cycles before are counted as they were.
  rw [gatedCycles, List.range_succ, List.countP_append]
  cases edge : (bench.atCycle asks requests count).gated <;> simp [gatedCycles, edge]

/-- Every further cycle hands frames over, and adds to what was delivered. -/
theorem Delivered.succ {held : HeldInputs D} {asks requests : Nat → Bool} {count channels : Nat}
    {start : Bench D H M} {calls : List Call} (wired : start.Wired channels)
    (delivered : Delivered held asks requests count start calls)
    (sound : (start.atCycle asks requests count).faultIn = none) :
    ∃ more, HandsOver held (requests count) (start.atCycle asks requests count)
        (start.steps asks requests (count + 1)) more ∧
      ∃ calls, Delivered held asks requests (count + 1) start calls := by
  let before := start.atCycle asks requests count
  obtain ⟨questions, asked, noFrames⟩ := makes_ready (asks count) (start.steps asks requests count)
  obtain ⟨pending, tally⟩ := link_ready (asks count) (start.steps asks requests count)
  have numbered : before.Wired channels := by
    apply (wired.steps asks requests count).of_numbers
    rw [show before.channels = _ from channels_ready ..]
  -- Asking drives no input and loads no frame, so what was shown before is shown now.
  have presented : (held.inputs before.design).frame? = before.link.pendingFrame? := by
    have driven := asked.inputs held
    rw [noFrames] at driven
    exact (congrArg Host.Inputs.frame? driven).trans (delivered.presented.trans pending.symm)
  obtain ⟨more, hands, shown⟩ := handsOver_step (requests count) numbered sound presented
  -- The questions fetch nothing, so all new frames are those of the cycle.
  have fetched : fetchedFrames (calls ++ questions ++ more) =
      fetchedFrames calls ++ fetchedFrames more := by
    rw [fetchedFrames_append, fetchedFrames_append, fetchedFrames_eq_nil noFrames,
      List.append_nil]
  refine ⟨more, hands, calls ++ questions ++ more, ?_⟩
  constructor
  case made => exact (delivered.made.append asked).append hands.made
  case presented => exact shown
  case delivered =>
    -- What was on its way is handed over or still on its way, and new frames come behind it.
    have conserved := hands.conserved
    rw [show before.link.pendingFrame? = _ from pending] at conserved
    rw [fetched, acceptedFrames_succ, delivered.delivered, List.append_assoc, List.append_assoc,
      conserved]
    rfl
  case received =>
    have counted := hands.received
    rw [show before.link.tally = _ from tally, delivered.received] at counted
    rw [fetched, List.length_append]
    exact counted
  case edges =>
    have counted := hands.edges
    rw [show before.link.tally = _ from tally, delivered.edges] at counted
    rw [gatedCycles_succ]
    exact counted

/-- Nothing was delivered on a fresh bench whose host inputs are idle. -/
theorem Fresh.delivered {held : HeldInputs D} {start : Bench D H M} (fresh : start.Fresh)
    (idle : held.inputs start.design = {}) (asks requests : Nat → Bool) :
    Delivered held asks requests 0 start [] := by
  -- A new link has no frame on its way and counts nothing.
  have link := fresh.link
  constructor
  case made => exact .none rfl rfl
  case presented =>
    rw [steps, idle, link]
    rfl
  case delivered =>
    rw [steps, link]
    rfl
  case received =>
    rw [steps, link]
    rfl
  case edges =>
    rw [steps, link]
    rfl

/--
After a reset, frames are delivered exactly once and in order in all cycles that settle.

The design may be any that holds its host inputs, and the host may have a frame at any time or not.
-/
theorem delivered_of_reset (held : HeldInputs D) {bench start : Bench D H M} {clocked : Nat}
    (fresh : bench.Fresh) (released : bench.reset = (.ok clocked, start))
    (asks requests : Nat → Bool) (count : Nat) (sound : start.Sound asks requests count) :
    (∃ calls, Delivered held asks requests count start calls) ∧
    ∀ cycle < count, ∃ calls,
      HandsOver held (requests cycle) (start.atCycle asks requests cycle)
        (start.steps asks requests (cycle + 1)) calls := by
  have same : bench.reset.2 = start := by rw [released]
  have startFresh : start.Fresh := same ▸ fresh.reset
  have idle : held.inputs start.design = {} := same ▸ inputs_reset held bench
  -- The cycles follow one another, each from where the ones before have led.
  induction count with
  | zero =>
    refine ⟨⟨[], startFresh.delivered idle asks requests⟩, ?_⟩
    intro cycle within
    exact absurd within (Nat.not_lt_zero cycle)
  | succ count ih =>
    have earlier : start.Sound asks requests count :=
      fun cycle within => sound cycle (Nat.lt_succ_of_lt within)
    obtain ⟨⟨calls, delivered⟩, hands⟩ := ih earlier
    have last := sound count (Nat.lt_succ_self count)
    obtain ⟨more, handsLast, further⟩ := delivered.succ startFresh.wired last
    refine ⟨further, ?_⟩
    intro cycle within
    -- The last cycle is handed over here, the ones before by the induction.
    rcases Nat.lt_succ_iff_lt_or_eq.mp within with before | now
    · exact hands cycle before
    · subst now
      exact ⟨more, handsLast⟩

/--
A frame waits over a cycle in which the design is not ready and one without an edge.

It is accepted in the cycle after those, in which the next frame is fetched.
-/
theorem delivered_of_stages :
    let bench := stagedBench {}
      { stages := [{}, { inReady := false }, { edge := false }, {}] }
      { answers := [some [1, 2], some [3], none] }
    let requests := fun _ => false
    ∃ clocked start, bench.reset = (.ok clocked, start) ∧
      start.acceptedFrames requests requests 4 = [0x201] ∧
      (∃ calls, Delivered StagedDesign.held requests requests 4 start calls) ∧
      ∀ cycle < 4, ∃ calls,
        HandsOver StagedDesign.held (requests cycle) (start.atCycle requests requests cycle)
          (start.steps requests requests (cycle + 1)) calls := by
  intro bench requests
  have released : bench.reset.1 = .ok 3 := rfl
  have accepted : bench.reset.2.acceptedFrames requests requests 4 = [0x201] := by decide +kernel
  -- None of the four stages has a fault, which each cycle has to be asked for.
  have sound : bench.reset.2.Sound requests requests 4 := by
    intro cycle within
    match cycle, within with
    | 0, _ => decide +kernel
    | 1, _ => decide +kernel
    | 2, _ => decide +kernel
    | 3, _ => decide +kernel
  have fresh : bench.Fresh := fresh_of_assemble (assemble_staged ..)
  have answer : bench.reset = (.ok 3, bench.reset.2) := Prod.ext released rfl
  clear_value bench
  exact ⟨3, _, answer, accepted,
    delivered_of_reset StagedDesign.held fresh answer requests requests 4 sound⟩

end Steps

end Testbench.Bench
